import TTS.Manager

/-!
# The manager's mutex

Every operation ends, and all but `setConfiguration` end with `m_mutex` free.
`setConfiguration` locks by hand: when the string has not six fields it
returns, and when a number in it cannot be converted it throws, before the
mutex is unlocked.
-/

namespace TTS

open Monitor

/-- Six fields, with a volume and a rate that are empty or convert. -/
def ReadsConfiguration (configuration : Text) : Prop :=
  ∃ endpoint secureEndpoint language voice volume rate,
    split configuration ',' = [endpoint, secureEndpoint, language, voice, volume, rate] ∧
      (volume = [] ∨ ∃ v, stod volume = .ok v) ∧ (rate = [] ∨ ∃ r, stoi rate = .ok r)

/-- `setConfiguration` only with a string `fromString` reads to its end. -/
def ManagerOp.LeavesMutex : ManagerOp → Prop
  | .setConfiguration configuration => ReadsConfiguration configuration
  | _ => True

theorem readsField_iff {α : Type} (d : α) (conv : Text → Except StdException α) (field : Text) :
    (∃ a, (if field.isEmpty then .ok d else conv field) = .ok a) ↔ field = [] ∨ ∃ a, conv field = .ok a := by
  cases field with
  | nil => simp
  | cons x xs => simp

theorem fromString_ok_true_iff (c : TTSConfiguration) (configuration : Text) :
    (c.fromString configuration ',').1 = .ok true ↔ ReadsConfiguration configuration := by
  unfold TTSConfiguration.fromString TTSConfiguration.fromStringWith ReadsConfiguration
  simp only [stod_ok_iff]
  split
  · rename_i endpoint secureEndpoint language voice volume rate htok
    have hv := readsField_iff (.finite 100) stodExact volume
    have hr := readsField_iff 50 stoi rate
    rw [htok]
    constructor
    · intro h
      refine ⟨_, _, _, _, _, _, rfl, ?_⟩
      rw [← hv, ← hr]
      split at h
      · cases h
      · rename_i v hvol
        split at h
        · cases h
        · rename_i r hrate
          exact ⟨⟨v, hvol⟩, ⟨r, hrate⟩⟩
    · rintro ⟨_, _, _, _, _, _, he, h1, h2⟩
      simp only [List.cons.injEq, and_true] at he
      obtain ⟨rfl, rfl, rfl, rfl, rfl, rfl⟩ := he
      obtain ⟨v, hvol⟩ := hv.mpr h1
      obtain ⟨r, hrate⟩ := hr.mpr h2
      simp only [hvol, hrate]
  · rename_i hne
    constructor
    · intro h
      cases h
    · rintro ⟨_, _, _, _, _, _, he, -⟩
      exact absurd he (hne _ _ _ _ _ _)

/-! ## The operations from a free mutex -/

theorem enableTTS_releases (enable : Bool) : Releases (EngineM.enableTTS enable) :=
  releases_lockGuard (keeps_run _)

theorem destroySession_releases (sessionId : Nat) : Releases (EngineM.destroySession sessionId) :=
  releases_lockGuard (keeps_run _)

theorem requestPlayerResource_releases (body : TTSManager → TTSError × TTSManager) (internalReq : Bool) :
    Releases (EngineM.requestPlayerResource body internalReq) := by
  refine releases_bind (keeps_get _).releases fun policy => ?_
  by_cases hp : policy = .reservation
  · simp only [hp, ne_eq, not_true_eq_false, ite_false]
    cases internalReq with
    | false => exact releases_bind (releases_lockGuard (keeps_pure _)) fun _ => (keeps_run _).releases
    | true => exact (keeps_run _).releases
  · simp only [hp, ne_eq, not_false_eq_true, ite_true]
    exact (keeps_pure _).releases

theorem claimPlayerResource_releases (appId : Nat) : Releases (EngineM.claimPlayerResource appId) := by
  refine releases_bind (keeps_get _).releases fun policy => ?_
  by_cases hp : policy = .reservation
  · simp only [hp, ne_eq, not_true_eq_false, ite_false]
    exact releases_lockGuard (keeps_run _)
  · simp only [hp, ne_eq, not_false_eq_true, ite_true]
    exact (keeps_pure _).releases

theorem createSession_releases (appId : Nat) (appName : String) (keys : List String) :
    Releases (EngineM.createSession appId appName keys) := by
  refine releases_bind (releases_lockGuard (keeps_run _)) fun object => ?_
  cases object.session with
  | none => exact (keeps_pure _).releases
  | some session => exact (keeps_run _).releases

/-! ## What the operations leave -/

theorem perform_setConfiguration {m : TTSManager} {configuration : Text}
    (h : (m.defaultConfiguration.fromString configuration ',').1 = .ok true) :
    (ManagerOp.setConfiguration configuration).perform ⟨false, m⟩ =
      .done (.ok .none) ⟨false, (({ m with
        defaultConfiguration := (m.defaultConfiguration.fromString configuration ',').2
        } : TTSManager).passConfiguration).announceVoice m.voice⟩ := by
  simp [ManagerOp.perform, EngineM.setConfiguration, Bind.bind, Act.bind, Act.get, Act.onState, Act.lock, Act.run,
    Act.unlock, h]

theorem perform_setConfiguration_unread {m : TTSManager} {configuration : Text}
    (h : (m.defaultConfiguration.fromString configuration ',').1 ≠ .ok true) :
    ∃ r, (ManagerOp.setConfiguration configuration).perform ⟨false, m⟩ = .done r ⟨true, { m with
      defaultConfiguration := (m.defaultConfiguration.fromString configuration ',').2 }⟩ := by
  cases hr : (m.defaultConfiguration.fromString configuration ',').1 with
  | error e =>
    refine ⟨.error e, ?_⟩
    simp [ManagerOp.perform, EngineM.setConfiguration, Bind.bind, Act.bind, Act.get, Act.onState, Act.lock, hr]
  | ok parsed =>
    cases parsed with
    | true => exact absurd hr h
    | false =>
      refine ⟨.ok .none, ?_⟩
      simp [ManagerOp.perform, EngineM.setConfiguration, Bind.bind, Act.bind, Act.get, Act.onState, Act.lock,
        Pure.pure, Act.pure, hr]

theorem perform_createSession (m : TTSManager) (a : Nat) (n : String) (keys : List String) :
    (ManagerOp.createSession a n keys).perform ⟨false, m⟩ =
      .done (.ok (.object (m.createSession a n).1))
        ⟨false, ((m.createSession a n).1.session.map fun p =>
          (m.createSession a n).2.installCallbacks p keys).getD (m.createSession a n).2⟩ := by
  simp only [ManagerOp.perform, EngineM.createSession, Bind.bind, Act.bind, Act.lockGuard, Act.run, Act.onState,
    Bool.false_eq_true, ite_false]
  cases (m.createSession a n).1.session <;> rfl

theorem perform_requestPlayerResource (m : TTSManager) (body : TTSManager → TTSError × TTSManager)
    (internalReq : Bool) :
    EngineM.requestPlayerResource body internalReq ⟨false, m⟩ =
      if m.policy = .reservation then .done (.ok (.code (body m).1)) ⟨false, (body m).2⟩
      else .done (.ok (.code .ok)) ⟨false, m⟩ := by
  simp only [EngineM.requestPlayerResource, Bind.bind, Act.bind, Act.get, Act.onState]
  by_cases hp : m.policy = .reservation
  · rw [if_neg (not_not.mpr hp), if_pos hp]
    cases internalReq <;> rfl
  · rw [if_pos hp, if_neg hp]
    rfl

theorem perform_claimPlayerResource (m : TTSManager) (a : Nat) :
    (ManagerOp.claimPlayerResource a).perform ⟨false, m⟩ =
      if m.policy = .reservation then
        .done (.ok (.code (m.claimPlayerResource a).1)) ⟨false, (m.claimPlayerResource a).2⟩
      else .done (.ok (.code .ok)) ⟨false, m⟩ := by
  simp only [ManagerOp.perform, EngineM.claimPlayerResource, Bind.bind, Act.bind, Act.get, Act.onState]
  by_cases hp : m.policy = .reservation
  · rw [if_neg (not_not.mpr hp), if_pos hp]
    rfl
  · rw [if_pos hp, if_neg hp]
    rfl

theorem setConfiguration_endsFree_iff (configuration : Text) (m : TTSManager) :
    ((ManagerOp.setConfiguration configuration).perform ⟨false, m⟩).EndsFree ↔ ReadsConfiguration configuration := by
  rw [← fromString_ok_true_iff m.defaultConfiguration]
  by_cases h : (m.defaultConfiguration.fromString configuration ',').1 = .ok true
  · rw [perform_setConfiguration h]
    exact iff_of_true rfl h
  · obtain ⟨r, hm⟩ := perform_setConfiguration_unread h
    rw [hm]
    exact iff_of_false (fun h => nomatch h) h

/-- **Lock discipline.** From a free mutex an operation ends with the mutex
free exactly when it is not a `setConfiguration` with an unreadable string. -/
theorem perform_endsFree_iff (op : ManagerOp) (m : TTSManager) :
    (op.perform ⟨false, m⟩).EndsFree ↔ op.LeavesMutex := by
  cases op with
  | setConfiguration configuration => exact setConfiguration_endsFree_iff configuration m
  | enableTTS enable => exact iff_of_true (enableTTS_releases enable m) trivial
  | destroySession sessionId => exact iff_of_true (destroySession_releases sessionId m) trivial
  | createSession appId appName keys => exact iff_of_true (createSession_releases appId appName keys m) trivial
  | reservePlayerResource | releasePlayerResource =>
    exact iff_of_true (requestPlayerResource_releases _ _ m) trivial
  | claimPlayerResource appId => exact iff_of_true (claimPlayerResource_releases appId m) trivial
  | isTTSEnabled | listVoices | getConfiguration | isSessionActiveForApp | getResourceAllocationPolicy =>
    exact iff_of_true ((keeps_get _).releases m) trivial

/-- A string of two fields is refused with the mutex held, and the next call blocks on it. -/
theorem setConfiguration_keeps_mutex :
    ¬ ((ManagerOp.setConfiguration "http://a,http://b".toList).perform ⟨false, .new .new ∅ .open 1⟩).EndsFree ∧
      (do
        let _ ← (ManagerOp.setConfiguration "http://a,http://b".toList).perform
        (ManagerOp.enableTTS true).perform : EngineM ManagerReply) ⟨false, .new .new ∅ .open 1⟩ = .blocked := by
  refine ⟨fun h => ?_, rfl⟩
  cases h

end TTS
