import TTS.EngineRuns
import TTS.Mirror
import TTS.ValueMap

/-!
# What the manager's operations leave

Under any policy only `createSession` and `destroySession` edit the session and
connection maps: the one enters a new session, the other erases a session and
the first connection that named it. `m_ttsEnabled` changes with the event that
tells the clients.
-/

namespace TTS

open Monitor

def Event.ttsState (e : Event) : Option Bool := if e.name = "tts_state_changed" then some (e.flag "enabled") else none

def Announces (m m' : TTSManager) : Prop :=
  ∃ es, m'.events = m.events ++ es ∧ m'.ttsEnabled = Mirror.replay Event.ttsState m.ttsEnabled es

theorem Announces.trans {m m' m'' : TTSManager} (h : Announces m m') (h' : Announces m' m'') : Announces m m'' := by
  obtain ⟨es, hes, he⟩ := h
  obtain ⟨es', hes', he'⟩ := h'
  refine ⟨es ++ es', ?_, ?_⟩
  · rw [hes', hes, List.append_assoc]
  · rw [he', he, Mirror.replay_append]

theorem announces_nothing {m m' : TTSManager} (he : m'.events = m.events) (ht : m'.ttsEnabled = m.ttsEnabled) :
    Announces m m' :=
  ⟨[], by rw [he, List.append_nil], ht⟩

structure Framed (m m' : TTSManager) : Prop where
  sessionMap : m'.sessionMap = m.sessionMap
  connectionMap : m'.connectionMap = m.connectionMap
  ids : ∀ p, m'.ids p = m.ids p
  announces : Announces m m'

theorem Framed.refl (m : TTSManager) : Framed m m := ⟨rfl, rfl, fun _ => rfl, announces_nothing rfl rfl⟩

theorem Framed.trans {m m' m'' : TTSManager} (h : Framed m m') (h' : Framed m' m'') : Framed m m'' := by
  refine ⟨h'.sessionMap.trans h.sessionMap, h'.connectionMap.trans h.connectionMap, ?_, h.announces.trans h'.announces⟩
  intro p
  exact (h'.ids p).trans (h.ids p)

theorem framed_of_same {m m' : TTSManager} (hs : m'.sessionMap = m.sessionMap)
    (hc : m'.connectionMap = m.connectionMap) (ho : m'.objects = m.objects) (he : m'.events = m.events)
    (ht : m'.ttsEnabled = m.ttsEnabled) : Framed m m' := by
  refine ⟨hs, hc, fun p => ?_, announces_nothing he ht⟩
  unfold TTSManager.ids
  rw [ho]

theorem SameRegistry.framed {m m' : TTSManager} (h : SameRegistry m m')
    (hc : m'.connectionMap = m.connectionMap) (he : m'.events = m.events) : Framed m m' :=
  ⟨h.sessionMap, hc, h.ids, announces_nothing he h.ttsEnabled⟩

namespace TTSManager

theorem framed_setActive (m : TTSManager) (p : Nat) (n : Bool) : Framed m (m.setActive p n) :=
  (m.sameRegistry_setActive p n).framed rfl rfl

theorem framed_setInactive (m : TTSManager) (p : Nat) (n : Bool) : Framed m (m.setInactive p n) :=
  (m.sameRegistry_setInactive p n).framed rfl rfl

theorem framed_ensurePipeline (m : TTSManager) (b : Bool) : Framed m (m.ensurePipeline b) :=
  (m.sameRegistry_ensurePipeline b).framed rfl rfl

theorem framed_kept (notify : Bool) : Kept notify Framed where
  refl := .refl
  trans := .trans
  ensurePipeline := framed_ensurePipeline
  activeSession _ _ := framed_of_same rfl rfl rfl rfl rfl
  setActive m p := m.framed_setActive p notify
  setInactive m p := m.framed_setInactive p notify

theorem framed_keptGrants : KeptGrants Framed where
  toKept := framed_kept true
  reservedApp _ _ := framed_of_same rfl rfl rfl rfl rfl
  claimedApp _ _ := framed_of_same rfl rfl rfl rfl rfl

theorem framed_enableTTS (m : TTSManager) (enable : Bool) : Framed m (m.enableTTS enable) := by
  by_cases hne : m.ttsEnabled = enable
  · rw [enableTTS_same hne]
    exact .refl m
  have hset : Framed m (m.setEnabled enable) := ⟨rfl, rfl, fun _ => rfl, _, rfl, by cases enable <;> rfl⟩
  exact hset.trans (enableTTS_kept hne (fun _ => framed_kept true) fun _ => framed_kept false)

theorem framed_setConfiguration (m : TTSManager) (configuration : Text) :
    Framed m (ManagerOp.effect m (.setConfiguration configuration)) := by
  obtain ⟨h, -⟩ := m.sameGrant_setConfiguration configuration
  suffices hs : (ManagerOp.effect m (.setConfiguration configuration)).connectionMap = m.connectionMap ∧
      Announces m (ManagerOp.effect m (.setConfiguration configuration)) by
    exact ⟨h.sessionMap, hs.1, h.ids, hs.2⟩
  simp only [ManagerOp.effect, announceVoice]
  split
  · split
    · exact ⟨rfl, _, rfl, rfl⟩
    · exact ⟨rfl, announces_nothing rfl rfl⟩
  · exact ⟨rfl, announces_nothing rfl rfl⟩

theorem framed_callSession (m : TTSManager) (p : Nat) (s : TTSSession) (c : SessionCall) :
    Framed m (m.callSession p s c).2 := by
  have h := m.sameGrant_callSession p s c
  have hsame : (m.callSession p s c).2.connectionMap = m.connectionMap ∧ (m.callSession p s c).2.events = m.events := by
    cases c with
    | speak id text secure =>
      simp only [callSession]
      split <;> exact ⟨rfl, rfl⟩
    | abortAndClearPending | setPreemptiveSpeak | requestExtendedEvents => exact ⟨rfl, rfl⟩
  exact ⟨h.sessionMap, hsame.1, h.ids, announces_nothing hsame.2 h.ttsEnabled⟩

/-! ## Creating and destroying sessions -/

theorem framed_addSession (m : TTSManager) (a : Nat) (n : String) :
    Framed (m.enterSession a n) (m.addSession a n) :=
  m.addSession_kept a n (fun _ => (framed_kept true).toKeptActive) fun _ => (framed_kept false).toKeptActive

theorem effect_createSession (m : TTSManager) (a : Nat) (n : String) (keys : List String) :
    ManagerOp.effect m (.createSession a n keys) = m ∨
      (∀ p, m.Live p → m.appId p ≠ a) ∧
        Framed (m.enterSession a n) (ManagerOp.effect m (.createSession a n keys)) := by
  simp only [ManagerOp.effect]
  rcases m.createSession_cases a n with e | ⟨hno, e⟩
  · rw [e]
    exact .inl rfl
  · rw [e]
    exact .inr ⟨hno, (m.framed_addSession a n).trans ((sameRegistry_installCallbacks _ _ keys).framed rfl rfl)⟩

theorem sessionMap_enterSession (m : TTSManager) (a : Nat) (n : String) (id : Nat) :
    (m.enterSession a n).sessionMap[id]? =
      if m.nextSessionId = id then some m.objects.length else m.sessionMap[id]? :=
  getElem?_insert _ _ _ _

def closedFd (m : TTSManager) (sessionId : Nat) : Option Nat :=
  if sessionId ∈ m.sessionMap then (ValueMap.firstWith m.connectionMap sessionId).map Prod.fst else none

def withoutSession (m : TTSManager) (sessionId : Nat) : TTSManager :=
  { m with
    sessionMap := m.sessionMap.erase sessionId
    connectionMap := (m.closedFd sessionId).elim m.connectionMap m.connectionMap.erase }

theorem destroySession_sessions {m : TTSManager} {id p : Nat} (h : m.sessionMap[id]? = some p) :
    Framed (m.withoutSession id) (m.destroySession id).2 := by
  have hmem : id ∈ m.sessionMap := (mem_iff_getElem? _ _).mpr ⟨p, h⟩
  rw [destroySession_of_known h]
  generalize hr : (if m.policy = .reservation then (m.releasePlayerResource (m.appId p)).2
    else m.setInactive p false) = r
  have hrel : Framed m r := by
    rw [← hr]
    split
    · exact framed_keptGrants.releasePlayerResource m _
    · exact m.framed_setInactive p false
  have hclose : Framed (m.withoutSession id) ((r.leaveMaps id p).closeConnection id) := by
    have hfirst : (r.leaveMaps id p).connectionMap.toList.find? (fun es => es.2 = id) =
        ValueMap.firstWith m.connectionMap id := by
      rw [← hrel.connectionMap]
      rfl
    unfold closeConnection withoutSession closedFd
    rw [hfirst, if_pos hmem]
    have hmap := congrArg (·.erase id) hrel.sessionMap
    cases ValueMap.firstWith m.connectionMap id with
    | none => exact ⟨hmap, hrel.connectionMap, hrel.ids, hrel.announces⟩
    | some es => exact ⟨hmap, congrArg (·.erase es.1) hrel.connectionMap, hrel.ids, hrel.announces⟩
  unfold closeSession
  split
  · exact hclose.trans (framed_ensurePipeline _ false)
  · exact hclose

end TTSManager

theorem effect_framed (m : TTSManager) {op : ManagerOp} (hc : ∀ a n keys, op ≠ .createSession a n keys)
    (hd : ∀ id, op ≠ .destroySession id) : Framed m (op.effect m) := by
  cases op with
  | createSession a n keys => exact absurd rfl (hc a n keys)
  | destroySession id => exact absurd rfl (hd id)
  | enableTTS enable => exact m.framed_enableTTS enable
  | setConfiguration configuration => exact m.framed_setConfiguration configuration
  | reservePlayerResource a =>
    simp only [ManagerOp.effect]
    split
    · exact TTSManager.framed_keptGrants.reservePlayerResource m a
    · exact .refl m
  | releasePlayerResource a =>
    simp only [ManagerOp.effect]
    split
    · exact TTSManager.framed_keptGrants.releasePlayerResource m a
    · exact .refl m
  | claimPlayerResource a =>
    simp only [ManagerOp.effect]
    split
    · exact TTSManager.framed_keptGrants.claimPlayerResource m a
    · exact .refl m
  | isTTSEnabled | listVoices | getConfiguration | isSessionActiveForApp | getResourceAllocationPolicy => exact .refl m

/-! ## The flag -/

theorem effect_announces (m : TTSManager) (op : ManagerOp) : Announces m (op.effect m) := by
  by_cases hc : ∃ a n keys, op = .createSession a n keys
  · obtain ⟨a, n, keys, rfl⟩ := hc
    rcases m.effect_createSession a n keys with he | ⟨-, h⟩
    · rw [he]
      exact announces_nothing rfl rfl
    · exact h.announces
  by_cases hd : ∃ id, op = .destroySession id
  · obtain ⟨id, rfl⟩ := hd
    simp only [ManagerOp.effect]
    cases hp : m.sessionMap[id]? with
    | none =>
      rw [TTSManager.destroySession_of_unknown hp]
      exact announces_nothing rfl rfl
    | some p => exact (TTSManager.destroySession_sessions hp).announces
  · exact (effect_framed m (fun a n keys e => hc ⟨a, n, keys, e⟩) fun id e => hd ⟨id, e⟩).announces

theorem engine_announces {policy : ResourceAllocationPolicy} {m m' : Monitor TTSManager} {call : EngineCall}
    (h : (engine policy).step m call = some m') : Announces m.state m'.state := by
  rcases engine_step h with rfl | ⟨op, -, he⟩ | ⟨p, s, c, -, -, he⟩
  · exact announces_nothing rfl rfl
  · rw [he]
    exact effect_announces m.state op
  · rw [he]
    exact (m.state.framed_callSession p s c).announces

end TTS
