import TTS.IsolatedSymbols
import TTS.Query

/-!
# The parameters of a speech's URL

Behind the endpoint `constructURL` puts voice, language, rate and text. Only
the text is escaped; a voice or a language goes into the URL as it is.
-/

namespace TTS

open Query

/-- The parameters a speech is meant to be requested with. -/
def intendedParameters (config : TTSConfiguration) (others : Others) (d : SpeechData) : List (Text × Text) :=
  (if config.resolvedVoice others = [] then [] else [("voice".toList, config.resolvedVoice others)]) ++
    (if config.language = [] then [] else [("language".toList, config.language)]) ++
    [("rate".toList, natToString config.rate), ("text".toList, spokenText d.text)]

section
variable {escape : Text → Option Text} {config : TTSConfiguration} {others : Others} {d : SpeechData}

/-- The URL without the endpoint. -/
def urlQuery (escape : Text → Option Text) (config : TTSConfiguration) (others : Others) (d : SpeechData) : Text :=
  (constructURL escape config others d).drop (config.chosenEndPoint d.secure).length

def voiceAssignment (voice : Text) : Text := if voice = [] then [] else "voice".toList ++ '=' :: voice

def languageAssignment (language : Text) : Text := if language = [] then [] else '&' :: ("language".toList ++ '=' :: language)

theorem isValid_of_chosenEndPoint {secure : Bool} (h : config.chosenEndPoint secure ≠ []) : config.isValid = true := by
  unfold TTSConfiguration.chosenEndPoint at h
  unfold TTSConfiguration.isValid
  cases secure <;> simp_all

theorem urlQuery_eq (hend : config.chosenEndPoint d.secure ≠ []) {out : Text} (hesc : escape (spokenText d.text) = some out) :
    urlQuery escape config others d = voiceAssignment (config.resolvedVoice others) ++
      languageAssignment config.language ++ '&' :: ("rate".toList ++ '=' :: natToString config.rate ++
        '&' :: ("text".toList ++ '=' :: out)) := by
  have hrate : (if config.rate > 100 then 100 else config.rate) = config.rate := if_neg (Nat.not_lt.mpr config.rate_mem.2)
  have htext : sanitizeString escape d.text = out := by
    rw [sanitizeString_eq, curlSanitize, hesc]
    rfl
  unfold urlQuery constructURL voiceAssignment languageAssignment
  rw [isValid_of_chosenEndPoint hend, htext, hrate]
  cases hv : config.resolvedVoice others <;> cases hl : config.language <;> simp

/-- What a query gets from a field that is left out when it is empty. -/
def assigned (name value : Text) : List (Text × Text) := if value = [] then [] else parameters (name ++ '=' :: value)

theorem assigned_of_plain {name value : Text} (hname : '&' ∉ name) (heq : '=' ∉ name) (h : Plain value) :
    assigned name value = if value = [] then [] else [(name, value)] := by
  rw [assigned, parameters_assign hname heq h.1, (percentDecode_eq_self_iff value).mpr h.2]

theorem parameters_rate (rate : Nat) :
    parameters ("rate".toList ++ '=' :: natToString rate) = [("rate".toList, natToString rate)] := by
  have hdigit : ∀ c, c.isDigit = false → c ∉ natToString rate := by
    intro c hc hm
    simp [isDigit_of_mem_natToString hm] at hc
  rw [parameters_assign (by decide) (by decide) (hdigit '&' rfl), percentDecode_of_not_mem (hdigit '%' rfl)]

theorem parameters_urlQuery (hend : config.chosenEndPoint d.secure ≠ []) {out : Text}
    (hesc : escape (spokenText d.text) = some out) (hout : Escaped out (spokenText d.text)) :
    parameters (urlQuery escape config others d) =
      assigned "voice".toList (config.resolvedVoice others) ++ assigned "language".toList config.language ++
        [("rate".toList, natToString config.rate), ("text".toList, spokenText d.text)] := by
  have htext : parameters ("text".toList ++ '=' :: out) = [("text".toList, spokenText d.text)] := by
    rw [parameters_assign (by decide) (by decide) hout.ampersand_not_mem, percentDecode_escaped hout]
  have hfront : parameters (voiceAssignment (config.resolvedVoice others) ++ languageAssignment config.language) =
      assigned "voice".toList (config.resolvedVoice others) ++ assigned "language".toList config.language := by
    have hvoice : parameters (voiceAssignment (config.resolvedVoice others)) =
        assigned "voice".toList (config.resolvedVoice others) := by
      unfold voiceAssignment assigned
      split
      · exact parameters_nil
      · rfl
    by_cases hl : config.language = []
    · simp [languageAssignment, assigned, hl, hvoice]
    · rw [languageAssignment, if_neg hl, parameters_append, hvoice, assigned.eq_def _ config.language, if_neg hl]
  rw [urlQuery_eq hend hesc, parameters_append, parameters_append, hfront, parameters_rate, htext]
  rfl

theorem mem_intendedParameters {name value : Text} (h : (name, value) ∈ intendedParameters config others d) :
    name = "voice".toList ∧ value = config.resolvedVoice others ∨ name = "language".toList ∧ value = config.language ∨
      name = "rate".toList ∨ name = "text".toList := by
  have hfield : ∀ {name' value' : Text}, (name, value) ∈ (if value' = [] then [] else [(name', value')]) →
      name = name' ∧ value = value' := by
    intro name' value' hm
    split at hm
    · cases hm
    · simpa using hm
  rcases List.mem_append.mp h with h | h
  · rcases List.mem_append.mp h with h | h
    · exact .inl (hfield h)
    · exact .inr (.inl (hfield h))
  · rcases List.mem_cons.mp h with h | h
    · exact .inr (.inr (.inl (Prod.mk.inj h).1))
    · exact .inr (.inr (.inr (Prod.mk.inj (List.mem_singleton.mp h)).1))

theorem plain_nil : Plain [] := ⟨List.not_mem_nil, not_hasEscape_nil⟩

/-- If all that the query carries is meant, the field is carried as it is. -/
theorem plain_of_assigned (name : Text) {value : Text} (hname : '&' ∉ name) (heq : '=' ∉ name) {intended : List (Text × Text)}
    (hsub : ∀ p ∈ assigned name value, p ∈ intended) (honly : ∀ v, (name, v) ∈ intended → v = value) : Plain value := by
  by_cases hv : value = []
  · rw [hv]
    exact plain_nil
  · have hm := mem_parameters_assign hname heq value
    apply plain_of_decoded_front
    apply honly
    apply hsub
    rwa [assigned, if_neg hv]

/-- **The query.** It carries the intended parameters, each once, exactly if
neither the voice nor the language has an ampersand or an escape in it. -/
theorem urlQuery_parameters_iff (hend : config.chosenEndPoint d.secure ≠ []) {out : Text}
    (hesc : escape (spokenText d.text) = some out) (hout : Escaped out (spokenText d.text)) :
    (parameters (urlQuery escape config others d)).Perm (intendedParameters config others d) ↔
      Plain (config.resolvedVoice others) ∧ Plain config.language := by
  rw [parameters_urlQuery hend hesc hout]
  constructor
  · intro h
    have hsub := fun p => (h.mem_iff (a := p)).mp
    constructor
    · apply plain_of_assigned "voice".toList (by decide) (by decide)
        (fun p hp => hsub p (List.mem_append_left _ (List.mem_append_left _ hp)))
      intro v hv
      rcases mem_intendedParameters hv with ⟨-, h⟩ | ⟨h, -⟩ | h | h
      · exact h
      all_goals exact absurd h (by decide)
    · apply plain_of_assigned "language".toList (by decide) (by decide)
        (fun p hp => hsub p (List.mem_append_left _ (List.mem_append_right _ hp)))
      intro v hv
      rcases mem_intendedParameters hv with ⟨h, -⟩ | ⟨-, h⟩ | h | h
      · exact absurd h (by decide)
      · exact h
      all_goals exact absurd h (by decide)
  · rintro ⟨hvoice, hlanguage⟩
    rw [assigned_of_plain (by decide) (by decide) hvoice, assigned_of_plain (by decide) (by decide) hlanguage]
    exact .refl _

end

def evesConfiguration (voice : Text) : TTSConfiguration :=
  ((TTSConfiguration.new.setEndPoint "http://tts/?".toList).setSecureEndPoint "https://tts/?".toList).setVoice voice

/-- A voice without special characters, and a text with all kinds of them. -/
theorem urlQuery_parameters_of_eve :
    (parameters (urlQuery (fun s => some (escapeBytes s)) (evesConfiguration "eve".toList) ∅
      ⟨7, true, 1, "fish & chips: 100% = $5".toList, 0⟩)).Perm
        (intendedParameters (evesConfiguration "eve".toList) ∅ ⟨7, true, 1, "fish & chips: 100% = $5".toList, 0⟩) := by
  have hbytes : (spokenText "fish & chips: 100% = $5".toList).all (fun c => decide (c.toNat < 256)) = true := by
    decide
  refine (urlQuery_parameters_iff ?_ ?_ (escaped_escapeBytes ?_)).mpr ⟨⟨?_, ?_⟩, ?_, ?_⟩
  · decide
  · rfl
  · exact fun c hc => of_decide_eq_true (List.all_eq_true.mp hbytes c hc)
  · decide
  · exact (percentDecode_eq_self_iff _).mp (by decide)
  · decide
  · exact (percentDecode_eq_self_iff _).mp (by decide)

/-- A voice that brings a rate with it. -/
theorem urlQuery_of_voice_with_rate :
    ¬(parameters (urlQuery (fun s => some (escapeBytes s)) (evesConfiguration "eve&rate=99".toList) ∅
      ⟨7, true, 1, "hi".toList, 0⟩)).Perm
        (intendedParameters (evesConfiguration "eve&rate=99".toList) ∅ ⟨7, true, 1, "hi".toList, 0⟩) := by
  intro h
  have hlen := h.length_eq
  revert hlen
  decide

end TTS
