import TTS.Client
import TTS.ConfigurationReads

/-!
# The configuration as a client reads it

`getTTSConfiguration` of a connected client, with what the engine's
`getConfiguration` replies.
-/

namespace TTS

/-- `getTTSConfiguration`; `reply` is the text, `none` when the call did not come through. -/
def TTSClientPrivateRtRemote.getTTSConfiguration (s : TTSClientPrivateRtRemote) (config : Configuration)
    (reply : Option Text) : Except StdException TTSError × Configuration :=
  if !s.connected then (.ok .fail, config)
  else
    match reply with
    | none => (.ok .fail, config)
    | some configStr =>
      match config.fromString configStr ',' with
      | (.error e, config) => (.error e, config)
      -- a text that does not parse is logged, and the call goes on
      | (.ok _, config) => (.ok .ok, config)

namespace Configuration

/-- `k` holds what the engine has, with the voice it resolves. -/
def Holds (k : Configuration) (c : TTSConfiguration) (others : Others) : Prop :=
  k.ttsEndPoint = c.ttsEndPoint ∧ k.ttsEndPointSecured = c.ttsEndPointSecured ∧ k.language = c.language ∧
    k.voice = c.resolvedVoice others ∧ k.volume = .finite (sixDecimals c.volume) ∧ k.rate = c.rate

theorem fromString_reported {c : TTSConfiguration} {others : Others} (h : (c.reported others).CommaFree)
    (k : Configuration) :
    (k.fromString (c.toString others ',') ',').1 = .ok true ∧ (k.fromString (c.toString others ',') ',').2.Holds c others := by
  have hlt : c.rate < 2 ^ 31 := by
    have := c.rate_mem
    omega
  have huint : toUint8 c.rate = c.rate := by
    have := c.rate_mem
    unfold toUint8
    omega
  have hrep : |sixDecimals c.volume| ≤ maxDouble := by
    have hle := abs_sixDecimals_le c.volume
    rw [abs_of_nonneg (zero_le_one.trans c.volume_mem.1)] at hle
    exact le_maxDouble (by linarith [c.volume_mem.2])
  have hvol : (Double.finite c.volume).printed.round = .finite (sixDecimals c.volume) := Double.round_of_representable hrep
  rw [TTSConfiguration.toString_reported, fromString, split_toString h]
  simp only [Double.stodExact_toString (c.reported others).volume_representable]
  simp only [TTSConfiguration.reported, stoi_natToString hlt, huint]
  exact ⟨trivial, rfl, rfl, rfl, rfl, hvol, rfl⟩

end Configuration

/-- What `TTS_OK` promises the caller, with the text the engine at `m` replies. -/
def ReadsTruly (s : TTSClientPrivateRtRemote) (config : Configuration) (m : Monitor TTSManager) : Prop :=
  ∀ reply m', ManagerOp.getConfiguration.perform m = .done (.ok (.text reply)) m' →
    ((s.getTTSConfiguration config (some reply)).1 = .ok .ok →
      (s.getTTSConfiguration config (some reply)).2.Holds m.state.defaultConfiguration m.state.others) ∧
    ((config.fromString reply ',').1 ≠ .ok true → (s.getTTSConfiguration config (some reply)).1 ≠ .ok .ok)

theorem getTTSConfiguration_of_unparsed {s : TTSClientPrivateRtRemote} (hs : s.connected = true) (config : Configuration)
    {reply : Text} (h : (split reply ',').length ≠ 6) :
    (config.fromString reply ',').1 = .ok false ∧ s.getTTSConfiguration config (some reply) = (.ok .ok, config) := by
  have hread : config.fromString reply ',' = (.ok false, config) := by
    unfold Configuration.fromString
    split
    · rename_i hsplit
      exact absurd (congrArg List.length hsplit) h
    · rfl
  simp only [TTSClientPrivateRtRemote.getTTSConfiguration, hs, hread, Bool.not_true, Bool.false_eq_true, if_false, and_self]

theorem getTTSConfiguration_of_parsed {s : TTSClientPrivateRtRemote} (hs : s.connected = true) {config : Configuration}
    {reply : Text} (h : (config.fromString reply ',').1 = .ok true) :
    s.getTTSConfiguration config (some reply) = (.ok .ok, (config.fromString reply ',').2) := by
  obtain ⟨config', hread⟩ : ∃ config', config.fromString reply ',' = (.ok true, config') :=
    ⟨_, Prod.ext h rfl⟩
  simp only [TTSClientPrivateRtRemote.getTTSConfiguration, hs, hread, Bool.not_true, Bool.false_eq_true, if_false]

theorem not_readsTruly {s : TTSClientPrivateRtRemote} (hs : s.connected = true) (config : Configuration)
    {m : Monitor TTSManager} (h : ¬(m.state.defaultConfiguration.reported m.state.others).CommaFree) :
    ¬ReadsTruly s config m := by
  intro hread
  have hlen : (split (m.state.defaultConfiguration.toString m.state.others ',') ',').length ≠ 6 :=
    fun hl => h ((m.state.defaultConfiguration.reported m.state.others).length_split_toString_iff.mp hl)
  obtain ⟨hfalse, hget⟩ := getTTSConfiguration_of_unparsed hs config hlen
  refine (hread _ m rfl).2 ?_ (congrArg Prod.fst hget)
  rw [hfalse]
  exact fun e => nomatch e

/-- The reply is read as it is exactly when none of its texts has a comma. -/
theorem readsTruly_iff (s : TTSClientPrivateRtRemote) (config : Configuration) (m : Monitor TTSManager)
    (hs : s.connected = true) :
    ReadsTruly s config m ↔ (m.state.defaultConfiguration.reported m.state.others).CommaFree := by
  constructor
  · intro h
    by_contra hcomma
    exact not_readsTruly hs config hcomma h
  · rintro hfree reply m' ⟨⟩
    obtain ⟨hok, hholds⟩ := Configuration.fromString_reported hfree config
    rw [getTTSConfiguration_of_parsed hs hok]
    exact ⟨fun _ => hholds, fun hne => absurd hok hne⟩

/-- A client of an engine whose file has everything but a comma. -/
theorem readsTruly_of_plain_file :
    ∃ m, TTSManager.load (some ["TTSEndPoint=http://tts/?".toList, "voice_for_en-US=carol".toList]) 1 = .ok m ∧
      ReadsTruly { TTSClientPrivateRtRemote.new true (some 0) with connected := true } .new ⟨false, m⟩ := by
  refine ⟨_, rfl, (readsTruly_iff _ _ _ rfl).mpr ?_⟩
  decide

/-- An endpoint with a comma: the call returns `TTS_OK` and has set nothing. -/
theorem getTTSConfiguration_unparsed_ok :
    ∃ m, TTSManager.load (some ["TTSEndPoint=http://tts/?a,b".toList]) 1 = .ok m ∧
      ¬ReadsTruly { TTSClientPrivateRtRemote.new true (some 0) with connected := true } .new ⟨false, m⟩ := by
  refine ⟨_, rfl, not_readsTruly rfl _ ?_⟩
  decide

end TTS
