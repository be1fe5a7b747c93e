import TTS.Reservation

/-!
# Runs of the engine

The manager's operations and the calls that clients make on session objects,
one after the other, under any policy, while the speaker thread is idle. The
calls on a session do not take the manager's mutex, and a client may keep an
object whose session was destroyed.
-/

namespace TTS

open Monitor Transition

inductive SessionCall
  | speak (id : Nat) (text : Text) (secure : Bool)
  | abortAndClearPending
  | setPreemptiveSpeak (preemptive : Bool)
  | requestExtendedEvents (eventflags : Nat)

inductive EngineCall
  | manager (op : ManagerOp)
  | session (p : Nat) (call : SessionCall)

/-- A call on the object `s` at `p`: the code it returns and the state it leaves. -/
def TTSManager.callSession (m : TTSManager) (p : Nat) (s : TTSSession) : SessionCall → TTSError × TTSManager
  | .speak id text secure =>
    (s.speak,
      if s.speak = .ok then
        { m with speaker := m.speaker.speak p id text secure s.configuration.preemptiveSpeaking }
      else m)
  | .abortAndClearPending =>
    (.ok, { m with
      objects := m.objects.modify p fun s => (s.abortAndClearPending p m.speaker).1
      speaker := (s.abortAndClearPending p m.speaker).2 })
  | .setPreemptiveSpeak preemptive =>
    (.ok, { m with
      objects := m.objects.modify p fun s =>
        { s with configuration := s.configuration.setPreemptiveSpeak preemptive } })
  | .requestExtendedEvents eventflags =>
    (.ok, { m with objects := m.objects.modify p fun s => { s with extendedEvents := eventflags } })

def engine (policy : ResourceAllocationPolicy) : Machine (Monitor TTSManager) EngineCall where
  init m := ∃ configuration others maxFailures, m = ⟨false, .new configuration others policy maxFailures⟩
  step m
    | .manager op =>
      match op.perform m with
      | .done _ m' => some m'
      | .blocked => none
    | .session p call => (m.state.objects[p]?).map fun s => { m with state := (m.state.callSession p s call).2 }

/-! ## What a step does to the members -/

/-- The members an operation leaves, the mutex aside. -/
def ManagerOp.effect (m : TTSManager) : ManagerOp → TTSManager
  | .enableTTS enable => m.enableTTS enable
  | .setConfiguration configuration =>
    let config := m.defaultConfiguration.fromString configuration ','
    let m' : TTSManager := { m with defaultConfiguration := config.2 }
    if config.1 = .ok true then m'.passConfiguration.announceVoice m.voice else m'
  | .reservePlayerResource appId =>
    if m.policy = .reservation then (m.reservePlayerResource appId).2 else m
  | .releasePlayerResource appId =>
    if m.policy = .reservation then (m.releasePlayerResource appId).2 else m
  | .claimPlayerResource appId =>
    if m.policy = .reservation then (m.claimPlayerResource appId).2 else m
  | .createSession appId appName keys =>
    let object := m.createSession appId appName
    (object.1.session.map fun p => object.2.installCallbacks p keys).getD object.2
  | .destroySession sessionId => (m.destroySession sessionId).2
  | _ => m

theorem perform_effect {op : ManagerOp} {m : TTSManager} {r : Except StdException ManagerReply}
    {m' : Monitor TTSManager} (h : op.perform ⟨false, m⟩ = .done r m') : m'.state = op.effect m := by
  cases op with
  | setConfiguration configuration =>
    by_cases hr : (m.defaultConfiguration.fromString configuration ',').1 = .ok true
    · rw [perform_setConfiguration hr] at h
      cases h
      exact (if_pos hr).symm
    · obtain ⟨r', hm⟩ := perform_setConfiguration_unread hr
      rw [hm] at h
      cases h
      exact (if_neg hr).symm
  | createSession a n keys =>
    rw [perform_createSession] at h
    cases h
    rfl
  | claimPlayerResource a =>
    rw [perform_claimPlayerResource] at h
    simp only [ManagerOp.effect]
    split at h <;> cases h
    · exact (if_pos ‹_›).symm
    · exact (if_neg ‹_›).symm
  | reservePlayerResource a | releasePlayerResource a =>
    simp only [ManagerOp.perform, EngineM.reservePlayerResource, EngineM.releasePlayerResource,
      perform_requestPlayerResource] at h
    simp only [ManagerOp.effect]
    split at h <;> cases h
    · exact (if_pos ‹_›).symm
    · exact (if_neg ‹_›).symm
  | enableTTS enable | destroySession id =>
    cases h
    rfl
  | isTTSEnabled | listVoices | getConfiguration | isSessionActiveForApp | getResourceAllocationPolicy =>
    cases h
    rfl

theorem perform_held {op : ManagerOp} {m : TTSManager} {r : Except StdException ManagerReply}
    {m' : Monitor TTSManager} (h : op.perform ⟨true, m⟩ = .done r m') : m' = ⟨true, m⟩ := by
  cases op with
  | reservePlayerResource a | releasePlayerResource a | claimPlayerResource a =>
    simp only [ManagerOp.perform, EngineM.reservePlayerResource, EngineM.releasePlayerResource,
      EngineM.claimPlayerResource, EngineM.requestPlayerResource, Bind.bind, Act.bind, Act.get, Act.onState] at h
    split at h
    · cases h
      rfl
    · cases h
  | setConfiguration | enableTTS | destroySession | createSession => cases h
  | isTTSEnabled | listVoices | getConfiguration | isSessionActiveForApp | getResourceAllocationPolicy =>
    cases h
    rfl

theorem engine_manager_done {policy : ResourceAllocationPolicy} {m m' : Monitor TTSManager} {op : ManagerOp}
    (h : (engine policy).step m (.manager op) = some m') : ∃ r, op.perform m = .done r m' := by
  simp only [engine] at h
  cases hd : op.perform m with
  | blocked =>
    rw [hd] at h
    cases h
  | done r m'' =>
    rw [hd] at h
    obtain rfl := Option.some.inj h
    exact ⟨r, rfl⟩

theorem engine_step {policy : ResourceAllocationPolicy} {m m' : Monitor TTSManager} {call : EngineCall}
    (h : (engine policy).step m call = some m') :
    m' = m ∨
      (∃ op, call = .manager op ∧ m'.state = op.effect m.state) ∨
      ∃ p s c, call = .session p c ∧ m.state.objects[p]? = some s ∧ m'.state = (m.state.callSession p s c).2 := by
  cases call with
  | manager op =>
    obtain ⟨r, hd⟩ := engine_manager_done h
    obtain ⟨held, m⟩ := m
    cases held with
    | true => exact .inl (perform_held hd)
    | false => exact .inr (.inl ⟨op, rfl, perform_effect hd⟩)
  | session p c =>
    obtain ⟨s, hs, rfl⟩ := Option.map_eq_some_iff.mp h
    exact .inr (.inr ⟨p, s, c, rfl, hs, rfl⟩)

/-! ## What neither a session call nor a configuration touches -/

structure SameGrant (m m' : TTSManager) : Prop where
  appMap : m'.appMap = m.appMap
  sessionMap : m'.sessionMap = m.sessionMap
  policy : m'.policy = m.policy
  reservedApp : m'.reservedApp = m.reservedApp
  claimedApp : m'.claimedApp = m.claimedApp
  activeSession : m'.activeSession = m.activeSession
  ttsEnabled : m'.ttsEnabled = m.ttsEnabled
  counter : m'.counter = m.counter
  ids : ∀ p, m'.ids p = m.ids p
  holds : ∀ p, m'.holds p = m.holds p

theorem SameGrant.refl (m : TTSManager) : SameGrant m m :=
  ⟨rfl, rfl, rfl, rfl, rfl, rfl, rfl, rfl, fun _ => rfl, fun _ => rfl⟩

theorem SameRegistry.sameGrant {m m' : TTSManager} (h : SameRegistry m m')
    (ha : m'.activeSession = m.activeSession) (hh : ∀ p, m'.holds p = m.holds p) : SameGrant m m' :=
  ⟨h.appMap, h.sessionMap, h.policy, h.reservedApp, h.claimedApp, ha, h.ttsEnabled, h.counter, h.ids, hh⟩

namespace TTSSession

def Kept (s s' : TTSSession) : Prop :=
  s'.appId = s.appId ∧ s'.sessionId = s.sessionId ∧ s'.speaker = s.speaker

theorem cancelled_kept (s : TTSSession) (ids : List Nat) : s.Kept (s.cancelled ids) := by
  unfold cancelled
  split
  · exact ⟨rfl, rfl, rfl⟩
  · split <;> exact ⟨rfl, rfl, rfl⟩

theorem abortAndClearPending_kept (s : TTSSession) (self : Nat) (sp : TTSSpeaker) :
    s.Kept (s.abortAndClearPending self sp).1 := by
  unfold abortAndClearPending
  split
  · exact cancelled_kept s _
  · exact ⟨rfl, rfl, rfl⟩

theorem setConfiguration_kept (s : TTSSession) (config : TTSConfiguration) (speaking : Bool) :
    s.Kept (s.setConfiguration config speaking) := by
  unfold setConfiguration
  split <;> exact ⟨rfl, rfl, rfl⟩

end TTSSession

namespace TTSManager

theorem sameObject_modify {objects : List TTSSession} {p : Nat} {f : TTSSession → TTSSession}
    (hf : ∀ s : TTSSession, s.Kept (f s)) (q : Nat) :
    ((objects.modify p f)[q]?).map (fun s => (s.appId, s.sessionId, s.speaker)) =
      (objects[q]?).map fun s => (s.appId, s.sessionId, s.speaker) := by
  rw [List.getElem?_modify]
  cases objects[q]? with
  | none => rfl
  | some s =>
    obtain ⟨ha, hi, hs⟩ := hf s
    by_cases h : p = q <;> simp [h, ha, hi, hs]

theorem sameObject_ids (m m' : TTSManager) {q : Nat}
    (h : (m'.objects[q]?).map (fun s => (s.appId, s.sessionId, s.speaker)) =
      (m.objects[q]?).map fun s => (s.appId, s.sessionId, s.speaker)) :
    m'.ids q = m.ids q ∧ m'.holds q = m.holds q := by
  have hi : ∀ m : TTSManager, m.ids q =
      ((m.objects[q]?).map fun s => (s.appId, s.sessionId, s.speaker)).map fun x => (x.1, x.2.1) := by
    intro m
    rw [Option.map_map]
    rfl
  have hh : ∀ m : TTSManager, m.holds q =
      (((m.objects[q]?).map fun s => (s.appId, s.sessionId, s.speaker)).map fun x => x.2.2).getD false := by
    intro m
    rw [Option.map_map]
    rfl
  rw [hi m', hi m, hh m', hh m, h]
  exact ⟨rfl, rfl⟩

theorem sameGrant_modify (m : TTSManager) (p : Nat) (f : TTSSession → TTSSession) (sp : TTSSpeaker)
    (hf : ∀ s : TTSSession, s.Kept (f s)) :
    SameGrant m { m with objects := m.objects.modify p f, speaker := sp } := by
  have h := fun q => sameObject_ids m { m with objects := m.objects.modify p f, speaker := sp }
    (sameObject_modify hf q)
  exact ⟨rfl, rfl, rfl, rfl, rfl, rfl, rfl, rfl, fun q => (h q).1, fun q => (h q).2⟩

theorem sameGrant_callSession (m : TTSManager) (p : Nat) (s : TTSSession) (c : SessionCall) :
    SameGrant m (m.callSession p s c).2 := by
  cases c with
  | speak id text secure =>
    simp only [callSession]
    split
    · exact ⟨rfl, rfl, rfl, rfl, rfl, rfl, rfl, rfl, fun _ => rfl, fun _ => rfl⟩
    · exact .refl m
  | abortAndClearPending => exact sameGrant_modify m p _ _ fun s => s.abortAndClearPending_kept p m.speaker
  | setPreemptiveSpeak | requestExtendedEvents => exact sameGrant_modify m p _ m.speaker fun _ => ⟨rfl, rfl, rfl⟩

theorem sameGrant_createSession (m : TTSManager) (a : Nat) (n : String) (keys : List String) :
    SameGrant (m.createSession a n).2 (ManagerOp.effect m (.createSession a n keys)) ∧
      (ManagerOp.effect m (.createSession a n keys)).speaker = (m.createSession a n).2.speaker := by
  simp only [ManagerOp.effect]
  cases (m.createSession a n).1.session with
  | none => exact ⟨.refl _, rfl⟩
  | some p =>
    have hregistry := sameRegistry_installCallbacks (m.createSession a n).2 p keys
    exact ⟨hregistry.sameGrant rfl (holds_installCallbacks _ p keys), rfl⟩

theorem sameGrant_setConfiguration (m : TTSManager) (configuration : Text) :
    SameGrant m (ManagerOp.effect m (.setConfiguration configuration)) ∧
      (ManagerOp.effect m (.setConfiguration configuration)).speaker = m.speaker := by
  have hpass : ∀ m : TTSManager, SameGrant m m.passConfiguration := by
    intro m
    have h : ∀ (its : List (Nat × Nat)) (q : Nat) (objects : List TTSSession),
        ((its.foldl (fun objects it => objects.modify it.2 fun s =>
          s.setConfiguration m.defaultConfiguration.mirrorEndPoints (m.speaker.isSpeakingClient it.2))
            objects)[q]?).map (fun s => (s.appId, s.sessionId, s.speaker)) =
          (objects[q]?).map fun s => (s.appId, s.sessionId, s.speaker) := by
      intro its q
      induction its with
      | nil => exact fun _ => rfl
      | cons it its ih =>
        intro objects
        rw [List.foldl_cons, ih]
        exact sameObject_modify (fun s => s.setConfiguration_kept _ _) q
    have h' := fun q => sameObject_ids m m.passConfiguration (h m.sessionMap.toList q m.objects)
    exact ⟨rfl, rfl, rfl, rfl, rfl, rfl, rfl, rfl, fun q => (h' q).1, fun q => (h' q).2⟩
  have hannounce : ∀ (m : TTSManager) (v : Text), SameGrant m (m.announceVoice v) ∧
      (m.announceVoice v).speaker = m.speaker := by
    intro m v
    unfold announceVoice
    split <;> exact ⟨⟨rfl, rfl, rfl, rfl, rfl, rfl, rfl, rfl, fun _ => rfl, fun _ => rfl⟩, rfl⟩
  simp only [ManagerOp.effect]
  split
  · have h1 := hpass { m with defaultConfiguration := (m.defaultConfiguration.fromString configuration ',').2 }
    obtain ⟨h2, h3⟩ := hannounce (({ m with
      defaultConfiguration := (m.defaultConfiguration.fromString configuration ',').2
      } : TTSManager).passConfiguration) m.voice
    exact ⟨⟨h2.1.trans h1.1, h2.2.trans h1.2, h2.3.trans h1.3, h2.4.trans h1.4, h2.5.trans h1.5, h2.6.trans h1.6,
      h2.7.trans h1.7, h2.8.trans h1.8, fun q => (h2.ids q).trans (h1.ids q),
      fun q => (h2.holds q).trans (h1.holds q)⟩, h3⟩
  · exact ⟨⟨rfl, rfl, rfl, rfl, rfl, rfl, rfl, rfl, fun _ => rfl, fun _ => rfl⟩, rfl⟩

end TTSManager

end TTS
