import TTS.ConfigurationReads

/-!
# A configuration that is not applied

`fromString` writes each field into the default configuration before it reads
the next one. Where it throws at the volume or at the rate, what stands before
stays written.
-/

namespace TTS

namespace TTSConfiguration

/-- What the volume field of a configuration string sets. -/
def volumeField (stod : Text → Except StdException Double) (volume : Text) : Except StdException Double :=
  if volume.isEmpty then .ok (.finite 100) else stod volume

/-- The fields written before `fromString` throws say nothing new: each text is
empty or the one set, and a volume that converts is out of range or the one set. -/
def Inert (c : TTSConfiguration) (configuration : Text) : Prop :=
  ∀ endpoint secureEndpoint language voice volume rate,
    split configuration ',' = [endpoint, secureEndpoint, language, voice, volume, rate] →
      ((endpoint = [] ∨ endpoint = c.ttsEndPoint) ∧ (secureEndpoint = [] ∨ secureEndpoint = c.ttsEndPointSecured) ∧
          (language = [] ∨ language = c.language) ∧ (voice = [] ∨ voice = c.voice)) ∧
        ∀ q, volumeField stodExact volume = .ok (.finite q) → 1 ≤ q ∧ q ≤ 100 → q = c.volume

theorem setTexts_eq_self_iff (c : TTSConfiguration) (endpoint secureEndpoint language voice : Text) :
    (((c.setEndPoint endpoint).setSecureEndPoint secureEndpoint).setLanguage language).setVoice voice = c ↔
      (endpoint = [] ∨ endpoint = c.ttsEndPoint) ∧ (secureEndpoint = [] ∨ secureEndpoint = c.ttsEndPointSecured) ∧
        (language = [] ∨ language = c.language) ∧ (voice = [] ∨ voice = c.voice) := by
  simp only [← replaceBy_eq_left_iff]
  constructor
  · intro h
    exact ⟨congrArg ttsEndPoint h, congrArg ttsEndPointSecured h, congrArg TTSConfiguration.language h,
      congrArg TTSConfiguration.voice h⟩
  · rintro ⟨hendpoint, hsecure, hlanguage, hvoice⟩
    simp only [setVoice, setLanguage, setSecureEndPoint, setEndPoint, hendpoint, hsecure, hlanguage, hvoice]

theorem setVolume_eq_self_iff (c : TTSConfiguration) (v : Double) :
    c.setVolume v = c ↔ ∀ q, v = .finite q → 1 ≤ q ∧ q ≤ 100 → q = c.volume := by
  cases v with
  | finite p =>
    simp only [setVolume]
    split
    · rename_i hp
      constructor
      · rintro h q hq -
        cases hq
        exact congrArg TTSConfiguration.volume h
      · intro h
        have hvolume := h p rfl hp
        subst hvolume
        rfl
    · rename_i hp
      refine iff_of_true rfl fun q hq hin => ?_
      cases hq
      exact absurd hin hp
  | infinite _ | nan =>
    refine iff_of_true rfl fun q hq => ?_
    cases hq

theorem setTexts_setVolume_eq_self_iff (c : TTSConfiguration) (endpoint secureEndpoint language voice : Text) (v : Double) :
    ((((c.setEndPoint endpoint).setSecureEndPoint secureEndpoint).setLanguage language).setVoice voice).setVolume v = c ↔
      (((c.setEndPoint endpoint).setSecureEndPoint secureEndpoint).setLanguage language).setVoice voice = c ∧
        c.setVolume v = c := by
  constructor
  · intro h
    have htexts : (((c.setEndPoint endpoint).setSecureEndPoint secureEndpoint).setLanguage language).setVoice voice = c := by
      obtain ⟨q, hq, he⟩ := setVolume_frame
        ((((c.setEndPoint endpoint).setSecureEndPoint secureEndpoint).setLanguage language).setVoice voice) v
      rw [he] at h
      rw [setTexts_eq_self_iff]
      simp only [← replaceBy_eq_left_iff]
      exact ⟨congrArg ttsEndPoint h, congrArg ttsEndPointSecured h, congrArg TTSConfiguration.language h,
        congrArg TTSConfiguration.voice h⟩
    rw [htexts] at h
    exact ⟨htexts, h⟩
  · rintro ⟨htexts, hvolume⟩
    rw [htexts, hvolume]

theorem inert_iff {c : TTSConfiguration} {configuration endpoint secureEndpoint language voice volume rate : Text}
    (h : split configuration ',' = [endpoint, secureEndpoint, language, voice, volume, rate]) :
    c.Inert configuration ↔
      (((c.setEndPoint endpoint).setSecureEndPoint secureEndpoint).setLanguage language).setVoice voice = c ∧
        ∀ v, volumeField stodExact volume = .ok v → c.setVolume v = c := by
  rw [setTexts_eq_self_iff]
  simp only [setVolume_eq_self_iff]
  constructor
  · intro hinert
    obtain ⟨htexts, hvolume⟩ := hinert _ _ _ _ _ _ h
    exact ⟨htexts, fun v hv q hq => hvolume q (hq ▸ hv)⟩
  · rintro ⟨htexts, hvolume⟩ e s l w vol r he
    rw [h] at he
    cases he
    exact ⟨htexts, fun q hq => hvolume _ hq q rfl⟩

/-- The string throws at the volume, or at the rate with the volume written. -/
theorem fromString_eq_self_iff {configuration : Text} (hunread : ¬ ReadsConfiguration configuration) (c : TTSConfiguration) :
    (c.fromString configuration ',').2 = c ↔ c.Inert configuration := by
  have hend := mt (fromString_ok_true_iff c configuration).mp hunread
  unfold fromString fromStringWith at hend ⊢
  split
  · rename_i endpoint secureEndpoint language voice volume rate htok
    have hfield : (if volume.isEmpty then .ok (.finite 100) else stodExact volume) = volumeField stodExact volume := rfl
    simp only [htok, hfield] at hend ⊢
    rw [inert_iff htok]
    cases hvolume : volumeField stodExact volume with
    | error e =>
      dsimp only
      exact ⟨fun h => ⟨h, fun v hv => nomatch hv⟩, fun h => h.1⟩
    | ok v =>
      rw [hvolume] at hend
      dsimp only at hend ⊢
      split at hend
      · rw [setTexts_setVolume_eq_self_iff]
        refine and_congr_right fun _ => ⟨fun h w hw => ?_, fun h => h v rfl⟩
        cases hw
        exact h
      · exact absurd rfl hend
  · rename_i hne
    refine iff_of_true rfl fun _ _ _ _ _ _ he => absurd he (hne _ _ _ _ _ _)

end TTSConfiguration

open Monitor

/-- When the call ends, the default configuration and the sessions are what they were. -/
def UpdateUndone (m : Monitor TTSManager) (configuration : Text) : Prop :=
  ∀ r m', (ManagerOp.setConfiguration configuration).perform m = .done r m' →
    m'.state.defaultConfiguration = m.state.defaultConfiguration ∧
      m'.state.objects.map TTSSession.configuration = m.state.objects.map TTSSession.configuration ∧
        m'.state.sessionMap = m.state.sessionMap

theorem unread_of_fromString {c : TTSConfiguration} {configuration : Text}
    (h : (c.fromString configuration ',').1 ≠ .ok true) : ¬ ReadsConfiguration configuration :=
  mt (fromString_ok_true_iff c configuration).mpr h

end TTS
