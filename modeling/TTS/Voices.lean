import TTS.Manager
import TTS.ValueMap

/-!
# The voices of a language

`listVoices` scans the keys for `voice_for_` and the language, `voice` looks
that key up. They agree where no key goes on behind the language, as the key
of `en-US` does behind that of `en`.
-/

namespace TTS

open ValueMap

def voiceKey (language : Text) : String := "voice_for_" ++ String.ofList language

theorem voiceKey_toList (language : Text) : (voiceKey language).toList = "voice_for_".toList ++ language := by
  simp [voiceKey]

/-- The answer for a language is the voice of its key, the one `voice` resolves;
the answer for `*` is the voices of all such keys. -/
structure TTSManager.ListsExactly (m : TTSManager) (language : Text) : Prop where
  all : language = ['*'] → ValuesOf m.others (fun k => "voice_for_".toList <+: k.toList) (m.listVoices language)
  one : language ≠ ['*'] → m.listVoices language = (m.others[voiceKey language]?).toList
  resolved : language ≠ ['*'] → ∀ c : TTSConfiguration, c.voice = [] → c.language = language →
    c.resolvedVoice m.others = ((m.listVoices language).head?).getD []

namespace TTSManager

theorem listVoices_all (m : TTSManager) :
    ValuesOf m.others (fun k => "voice_for_".toList <+: k.toList) (m.listVoices ['*']) := by
  have hvalues := valuesOf_filter m.others fun k => "voice_for_".toList.isPrefixOf k.toList
  simp only [List.isPrefixOf_iff_prefix] at hvalues
  exact hvalues

theorem listVoices_language {m : TTSManager} {language : Text} (hne : language ≠ []) (hstar : language ≠ ['*']) :
    m.listVoices language =
      (m.others.toList.filter fun it => (voiceKey language).toList.isPrefixOf it.1.toList).map Prod.snd := by
  rw [voiceKey_toList, listVoices, if_neg (by simpa using hne)]
  simp only [if_pos hstar]

theorem listVoices_eq_iff {m : TTSManager} {language : Text} (hne : language ≠ []) (hstar : language ≠ ['*']) :
    m.listVoices language = (m.others[voiceKey language]?).toList ↔
      ∀ k ∈ m.others, (voiceKey language).toList <+: k.toList → k = voiceKey language := by
  have hkey : (voiceKey language).toList.isPrefixOf (voiceKey language).toList = true := by simp
  have hscan := values_eq_key_iff (t := m.others) (P := fun k : String => (voiceKey language).toList.isPrefixOf k.toList) hkey
  simp only [List.isPrefixOf_iff_prefix] at hscan
  rw [listVoices_language hne hstar, hscan]

theorem resolvedVoice_eq {c : TTSConfiguration} {others : Others} (hv : c.voice = []) :
    c.resolvedVoice others = (others[voiceKey c.language]?).getD [] := by
  rw [TTSConfiguration.resolvedVoice, if_neg (not_not.mpr hv)]
  rfl

/-- **The voices of one language.** `listVoices` gives the voice that `voice`
resolves exactly when no other key begins with the key of the language. -/
theorem listVoices_exact_iff (m : TTSManager) (language : Text) (hne : language ≠ []) :
    m.ListsExactly language ↔
      language = ['*'] ∨ ∀ k ∈ m.others, (voiceKey language).toList <+: k.toList → k = voiceKey language := by
  by_cases hstar : language = ['*']
  · subst hstar
    exact iff_of_true ⟨fun _ => m.listVoices_all, fun h => absurd rfl h, fun h => absurd rfl h⟩ (.inl rfl)
  · rw [or_iff_right hstar, ← listVoices_eq_iff hne hstar]
    constructor
    · intro h
      exact h.one hstar
    · intro h
      refine ⟨fun h' => absurd h' hstar, fun _ => h, ?_⟩
      rintro - c hv rfl
      rw [h, resolvedVoice_eq hv]
      cases m.others[voiceKey c.language]? <;> rfl

/-- Voices for English and for American English. -/
def englishVoices : TTSManager :=
  .new .new ((∅ : Others).insert "voice_for_en" "adam".toList |>.insert "voice_for_en-US" "eve".toList) .open 0

theorem listVoices_exact_american : englishVoices.ListsExactly "en-US".toList := by
  refine (listVoices_exact_iff englishVoices "en-US".toList (by decide)).mpr (.inr fun k hk hprefix => ?_)
  have hmem : k = "voice_for_en" ∨ k = "voice_for_en-US" := by
    rcases Std.TreeMap.mem_insert.mp hk with h | h
    · exact .inr (Std.LawfulEqCmp.eq_of_compare h).symm
    · rcases Std.TreeMap.mem_insert.mp h with h | h
      · exact .inl (Std.LawfulEqCmp.eq_of_compare h).symm
      · exact absurd h Std.TreeMap.not_mem_emptyc
  rcases hmem with rfl | rfl
  · exact absurd hprefix (by decide)
  · rfl

/-- Asked for `en` it lists the voice of `en-US` as well. -/
theorem listVoices_english : ¬∀ (m : TTSManager) (language : Text), language ≠ [] → m.ListsExactly language := by
  intro h
  have hkeys := (listVoices_eq_iff (by decide) (by decide)).mp ((h englishVoices "en".toList (by decide)).one (by decide))
  have hmem : "voice_for_en-US" ∈ englishVoices.others := Std.TreeMap.mem_insert_self
  exact absurd (hkeys _ hmem (by decide)) (by decide)

end TTSManager

end TTS
