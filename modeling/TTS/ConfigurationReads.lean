import TTS.ConfigurationCodec
import TTS.ConfigurationFile
import TTS.ManagerLock

/-!
# Reading the configuration

`getConfiguration` prints the resolved voice. Written back by
`setConfiguration`, the text sets a voice where there was only one for the
language, and an endpoint where there was only the other one.
-/

namespace TTS

namespace TTSConfiguration

def reported (c : TTSConfiguration) (others : Others) : Configuration where
  ttsEndPoint := c.ttsEndPoint
  ttsEndPointSecured := c.ttsEndPointSecured
  language := c.language
  voice := c.resolvedVoice others
  volume := .finite c.volume
  rate := c.rate
  volume_representable := by
    have hle := le_maxDouble (c.volume_mem.2.trans (by norm_num))
    exact abs_le.mpr ⟨(neg_nonpos.mpr maxDouble_nonneg).trans (zero_le_one.trans c.volume_mem.1), hle⟩
  rate_lt := by
    have := c.rate_mem
    omega

theorem toString_reported (c : TTSConfiguration) (others : Others) (delim : Char) :
    c.toString others delim = (c.reported others).toString delim := rfl

def CommaFree (c : TTSConfiguration) : Prop :=
  ',' ∉ c.ttsEndPoint ∧ ',' ∉ c.ttsEndPointSecured ∧ ',' ∉ c.language ∧ ',' ∉ c.voice

instance (c : TTSConfiguration) : Decidable c.CommaFree := inferInstanceAs (Decidable (_ ∧ _))

theorem replaceBy_self (t : Text) : replaceBy t t = t := by cases t <;> rfl

theorem resolvedVoice_of_set {c : TTSConfiguration} (h : c.voice ≠ []) (others : Others) :
    c.resolvedVoice others = c.voice := if_pos h

theorem overlay_reported {c : TTSConfiguration} (hvol : ∃ k : Int, c.volume = k / 10 ^ 6) (others : Others) :
    c.overlay (c.reported others) = { c with voice := replaceBy c.voice (c.resolvedVoice others) } := by
  have hsix : (Double.finite c.volume).printed = .finite c.volume := congrArg Double.finite (sixDecimals_of_millionths hvol)
  simp only [overlay, reported, hsix, setVolume, setRate, setVoice, setLanguage, setSecureEndPoint, setEndPoint,
    replaceBy_self, c.volume_mem, c.rate_mem, and_self, dite_true]

theorem mirrorEndPoints_eq_self_iff (c : TTSConfiguration) :
    c.mirrorEndPoints = c ↔ (c.ttsEndPoint = [] ↔ c.ttsEndPointSecured = []) := by
  unfold mirrorEndPoints
  cases he : c.ttsEndPoint with
  | nil =>
    cases hs : c.ttsEndPointSecured with
    | nil => simp
    | cons x xs =>
      have hne : c.setEndPoint (x :: xs) ≠ c := by
        intro h
        have hep : (c.setEndPoint (x :: xs)).ttsEndPoint = c.ttsEndPoint := congrArg TTSConfiguration.ttsEndPoint h
        rw [he] at hep
        cases hep
      simpa using hne
  | cons y ys =>
    cases hs : c.ttsEndPointSecured with
    | nil =>
      have hne : c.setSecureEndPoint (y :: ys) ≠ c := by
        intro h
        have hep : (c.setSecureEndPoint (y :: ys)).ttsEndPointSecured = c.ttsEndPointSecured :=
          congrArg TTSConfiguration.ttsEndPointSecured h
        rw [hs] at hep
        cases hep
      simpa using hne
    | cons x xs => simp

theorem mirrorEndPoints_voice (c : TTSConfiguration) : c.mirrorEndPoints.voice = c.voice := by
  unfold mirrorEndPoints
  split
  · rfl
  · split <;> rfl

theorem replaceBy_eq_left_iff (old new : Text) : replaceBy old new = old ↔ new = [] ∨ new = old := by
  cases new with
  | nil => simp [replaceBy]
  | cons c new => simp [replaceBy]

/-- A voice is set, or there is none for the language either. -/
def VoiceExplicit (c : TTSConfiguration) (others : Others) : Prop := c.voice ≠ [] ∨ c.resolvedVoice others = []

instance (c : TTSConfiguration) (others : Others) : Decidable (c.VoiceExplicit others) :=
  inferInstanceAs (Decidable (_ ∨ _))

theorem writtenBack_eq_self_iff {c : TTSConfiguration} (hvol : ∃ k : Int, c.volume = k / 10 ^ 6) (others : Others) :
    (c.overlay (c.reported others)).mirrorEndPoints = c ↔ c.EndPointsPaired ∧ c.VoiceExplicit others := by
  have hvoice : replaceBy c.voice (c.resolvedVoice others) = c.voice ↔ c.VoiceExplicit others := by
    rw [replaceBy_eq_left_iff, VoiceExplicit]
    by_cases hv : c.voice = []
    · simp [hv]
    · simp [hv, resolvedVoice_of_set hv]
  rw [overlay_reported hvol]
  constructor
  · intro h
    have hsame : replaceBy c.voice (c.resolvedVoice others) = c.voice := by
      have hproj := congrArg TTSConfiguration.voice h
      rwa [mirrorEndPoints_voice] at hproj
    have hc : ({ c with voice := replaceBy c.voice (c.resolvedVoice others) } : TTSConfiguration) = c := by rw [hsame]
    rw [hc] at h
    exact ⟨c.mirrorEndPoints_eq_self_iff.mp h, hvoice.mp hsame⟩
  · rintro ⟨hpaired, hexplicit⟩
    have hc : ({ c with voice := replaceBy c.voice (c.resolvedVoice others) } : TTSConfiguration) = c := by
      rw [hvoice.mpr hexplicit]
    rw [hc]
    exact c.mirrorEndPoints_eq_self_iff.mpr hpaired

end TTSConfiguration

/-! ## The engine -/

open Monitor

/-- `getConfiguration`, then `setConfiguration` with what it gave. -/
def EngineM.writeBack : EngineM ManagerReply := do
  match ← ManagerOp.getConfiguration.perform with
  | .text configuration => (ManagerOp.setConfiguration configuration).perform
  | reply => return reply

theorem writeBack_eq (m : Monitor TTSManager) :
    EngineM.writeBack m =
      (ManagerOp.setConfiguration (m.state.defaultConfiguration.toString m.state.others ',')).perform m := rfl

/-- Two calls block, or both end with the same default configuration and mutex. -/
def SameDefault : Outcome StdException TTSManager ManagerReply → Outcome StdException TTSManager ManagerReply → Prop
  | .done _ m, .done _ m' => m.held = m'.held ∧ m.state.defaultConfiguration = m'.state.defaultConfiguration
  | .blocked, .blocked => True
  | _, _ => False

/-- When the write-back ends, the default configuration is what it was, for any
later `setConfiguration` too. -/
def WriteBackUnchanged (m : Monitor TTSManager) : Prop :=
  ∀ r m', EngineM.writeBack m = .done r m' →
    m'.state.defaultConfiguration = m.state.defaultConfiguration ∧
      ∀ configuration, SameDefault ((ManagerOp.setConfiguration configuration).perform m')
        ((ManagerOp.setConfiguration configuration).perform m)

theorem perform_setConfiguration_held (m : TTSManager) (configuration : Text) :
    (ManagerOp.setConfiguration configuration).perform ⟨true, m⟩ = .blocked := rfl

theorem sameDefault_setConfiguration {m m' : TTSManager} (h : m.defaultConfiguration = m'.defaultConfiguration)
    (configuration : Text) :
    SameDefault ((ManagerOp.setConfiguration configuration).perform ⟨false, m⟩)
      ((ManagerOp.setConfiguration configuration).perform ⟨false, m'⟩) := by
  by_cases hr : (m.defaultConfiguration.fromString configuration ',').1 = .ok true
  · rw [perform_setConfiguration hr, perform_setConfiguration (h ▸ hr)]
    refine ⟨rfl, ?_⟩
    rw [TTSManager.announceVoice_defaultConfiguration, TTSManager.announceVoice_defaultConfiguration]
    exact congrArg (fun c => (c.fromString configuration ',').2.mirrorEndPoints) h
  · obtain ⟨r, hm⟩ := perform_setConfiguration_unread hr
    obtain ⟨r', hm'⟩ := perform_setConfiguration_unread (h ▸ hr)
    rw [hm, hm']
    exact ⟨rfl, congrArg (fun c => (c.fromString configuration ',').2) h⟩

theorem perform_sent {c : Configuration} (h : c.CommaFree) (m : TTSManager) :
    ∃ r m', (ManagerOp.setConfiguration (c.toString ',')).perform ⟨false, m⟩ = .done r ⟨false, m'⟩ ∧
      m'.defaultConfiguration = (m.defaultConfiguration.overlay c).mirrorEndPoints := by
  have hread := TTSConfiguration.fromString_toString h m.defaultConfiguration
  refine ⟨_, _, perform_setConfiguration (congrArg Prod.fst hread), ?_⟩
  rw [TTSManager.announceVoice_defaultConfiguration, hread]
  rfl

theorem writeBack_of_commaFree {m : TTSManager} (h : m.defaultConfiguration.CommaFree) (hv : ',' ∉ m.voice) :
    ∃ r m', EngineM.writeBack ⟨false, m⟩ = .done r ⟨false, m'⟩ ∧ m'.defaultConfiguration =
      (m.defaultConfiguration.overlay (m.defaultConfiguration.reported m.others)).mirrorEndPoints := by
  have hfree : (m.defaultConfiguration.reported m.others).CommaFree := ⟨h.1, h.2.1, h.2.2.1, hv⟩
  obtain ⟨r, m', hr, hdef⟩ := perform_sent hfree m
  refine ⟨r, m', ?_, hdef⟩
  rw [writeBack_eq, TTSConfiguration.toString_reported, hr]

theorem writeBackUnchanged_free_iff {m : TTSManager} (hcomma : m.defaultConfiguration.CommaFree) (hvoice : ',' ∉ m.voice)
    (hvol : ∃ k : Int, m.defaultConfiguration.volume = k / 10 ^ 6) :
    WriteBackUnchanged ⟨false, m⟩ ↔
      m.defaultConfiguration.EndPointsPaired ∧ m.defaultConfiguration.VoiceExplicit m.others := by
  obtain ⟨r, m', hr, hdef⟩ := writeBack_of_commaFree hcomma hvoice
  rw [← TTSConfiguration.writtenBack_eq_self_iff hvol, ← hdef]
  constructor
  · intro h
    exact (h r _ hr).1
  · intro h r'' m'' hr''
    obtain ⟨rfl, rfl⟩ := Outcome.done.inj (hr.symm.trans hr'')
    exact ⟨h, fun configuration => sameDefault_setConfiguration h configuration⟩

/-- Writing back what was read is the identity when a voice is set or none is
resolved, and both endpoints are set or neither is. -/
theorem writeBack_unchanged_iff (m : Monitor TTSManager) (hcomma : m.state.defaultConfiguration.CommaFree)
    (hvoice : ',' ∉ m.state.voice) (hvol : ∃ k : Int, m.state.defaultConfiguration.volume = k / 10 ^ 6) :
    WriteBackUnchanged m ↔ m.held = true ∨
      (m.state.defaultConfiguration.EndPointsPaired ∧ m.state.defaultConfiguration.VoiceExplicit m.state.others) := by
  obtain ⟨held, m⟩ := m
  cases held with
  | true =>
    refine ⟨fun _ => .inl rfl, fun _ r m' h => ?_⟩
    rw [writeBack_eq, perform_setConfiguration_held] at h
    cases h
  | false =>
    rw [writeBackUnchanged_free_iff hcomma hvoice hvol]
    simp

/-- An engine whose file sets both endpoints and a voice. -/
theorem writeBack_unchanged_of_full_file :
    ∃ m, TTSManager.load (some ["TTSEndPoint=http://tts/?".toList, "SecureTTSEndPoint=https://tts/?".toList,
      "Voice=eve".toList, "voice_for_en-US=carol".toList]) 1 = .ok m ∧ WriteBackUnchanged ⟨false, m⟩ := by
  refine ⟨_, rfl, (writeBack_unchanged_iff _ ?_ ?_ ⟨100000000, ?_⟩).mpr (.inr ⟨?_, .inl ?_⟩)⟩
  · decide
  · decide
  · exact (by norm_num : (100 : ℚ) = (100000000 : Int) / 10 ^ 6)
  · exact ⟨fun h => (nomatch h), fun h => (nomatch h)⟩
  · exact fun h => nomatch h

/-- The voice the file ties to the language becomes the configured voice. -/
theorem writeBack_pins_voice :
    ∃ m, TTSManager.load (some ["voice_for_en-US=carol".toList]) 1 = .ok m ∧ m.defaultConfiguration.CommaFree ∧
      (∃ k : Int, m.defaultConfiguration.volume = k / 10 ^ 6) ∧ ¬WriteBackUnchanged ⟨false, m⟩ := by
  have hvol : (100 : ℚ) = ((100000000 : Int) : ℚ) / 10 ^ 6 := by norm_num
  refine ⟨_, rfl, ?_, ⟨100000000, hvol⟩, mt (writeBackUnchanged_free_iff ?_ ?_ ⟨100000000, hvol⟩).mp fun h => absurd h.2 ?_⟩
  · decide
  · decide
  · decide
  · decide

end TTS
