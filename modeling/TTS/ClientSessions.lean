import TTS.Client
import TTS.Registry
import TTS.Transition

/-!
# Sessions across engine restarts

Any number of clients create and destroy sessions while the engine crashes and
is started again, with its ids counted from 1 each time. A call of a client and
a step of its startup thread are one step each; a request on a connection to a
process that is gone fails at the sender.
-/

namespace TTS

open Transition

/-- What passed between clients and engine processes, oldest first. -/
inductive SessionRecord
  | created (client incarnation id : Nat)
  | destroy (client incarnation id : Nat)
  deriving DecidableEq, Repr

/-- The engine processes are numbered; `engine` is the state of the running one. -/
structure ClientSystem where
  incarnation : Nat
  engine : Option TTSManager
  clients : Nat → Option TTSClientPrivateRtRemote
  log : List SessionRecord

namespace ClientSystem

inductive Label
  | engineStart (configuration : TTSConfiguration) (others : Others) (policy : ResourceAllocationPolicy)
    (maxFailures : Nat)
  | engineCrash
  | construct (c : Nat) (callback found : Bool)
  | locate (c : Nat) (found : Bool)
  | postConnect (c : Nat)
  | crashNotice (c : Nat)
  | awaitCrash (c : Nat)
  | awaitEngine (c : Nat) (running : Bool)
  | createSession (c appId : Nat) (appName : String)
  | destroySession (c id : Nat)
  | destruct (c : Nat)

def setClient (st : ClientSystem) (c : Nat) (s : Option TTSClientPrivateRtRemote) :
    Nat → Option TTSClientPrivateRtRemote := fun c' => if c' = c then s else st.clients c'

def reached (st : ClientSystem) (s : TTSClientPrivateRtRemote) : Option TTSManager :=
  if s.manager = some st.incarnation then st.engine else none

def located (st : ClientSystem) (found : Bool) : Option Nat :=
  if found && st.engine.isSome then some st.incarnation else none

def sendDestroy (st : ClientSystem) (c : Nat) (s : TTSClientPrivateRtRemote) (ids : List Nat) : ClientSystem :=
  match st.reached s with
  | none => st
  | some m =>
    { st with
      engine := some (ids.foldl (fun m id => (m.destroySession id).2) m)
      log := st.log ++ ids.map (.destroy c st.incarnation) }

def clientStep (st : ClientSystem) (c : Nat) (f : TTSClientPrivateRtRemote → Option ClientSystem) :
    Option ClientSystem := (st.clients c).bind f

def startupStep (st : ClientSystem) (c : Nat) (here : Startup)
    (f : TTSClientPrivateRtRemote → Option TTSClientPrivateRtRemote) : Option ClientSystem :=
  st.clientStep c fun s =>
    if s.startup = here then (f s).map fun s' => { st with clients := st.setClient c (some s') } else none

def createStep (st : ClientSystem) (c appId : Nat) (appName : String) (s : TTSClientPrivateRtRemote) : ClientSystem :=
  match if s.connected then st.reached s else none with
  | none => { st with clients := st.setClient c (some (s.createSession none).2) }
  | some m =>
    let (object, m) := m.createSession appId appName
    { st with
      engine := some ((object.session.map fun p => m.installCallbacks p s.eventCallbacks).getD m)
      clients := st.setClient c (some (s.createSession (some object)).2)
      log := st.log ++ (object.id.map fun id => SessionRecord.created c st.incarnation id).toList }

def destroyStep (st : ClientSystem) (c id : Nat) (s : TTSClientPrivateRtRemote) : ClientSystem :=
  let ids := (s.destroyRequest id).toList
  let reply := (st.reached s).map fun m => (m.destroySession id).1
  { st.sendDestroy c s ids with clients := st.setClient c (some (s.destroySession id reply).2) }

def destructStep (st : ClientSystem) (c : Nat) (s : TTSClientPrivateRtRemote) : ClientSystem :=
  { st.sendDestroy c s (s.cleanupConnection false).1 with clients := st.setClient c none }

def step (st : ClientSystem) : Label → Option ClientSystem
  | .engineStart configuration others policy maxFailures =>
    if st.engine.isSome then none
    else
      some { st with
        incarnation := st.incarnation + 1
        engine := some (.new configuration others policy maxFailures) }
  | .engineCrash => if st.engine.isSome then some { st with engine := none } else none
  | .construct c callback found =>
    if (st.clients c).isSome then none
    else some { st with clients := st.setClient c (some (.new callback (st.located found))) }
  | .locate c found => st.startupStep c .locate fun s => some (s.locate (st.located found))
  | .postConnect c => st.startupStep c .postConnect fun s => some (s.postConnect ((st.reached s).map TTSManager.policy))
  | .awaitCrash c => st.startupStep c .monitor TTSClientPrivateRtRemote.awaitCrash
  | .awaitEngine c running => st.startupStep c .restart fun s => some (s.awaitEngine running)
  | .crashNotice c =>
    st.clientStep c fun s =>
      -- the disconnect callback of an object whose process is gone
      if s.manager.isSome && (st.reached s).isNone then
        some { st with clients := st.setClient c (some s.rtServerCrashCB) }
      else none
  | .createSession c appId appName => st.clientStep c fun s => some (st.createStep c appId appName s)
  | .destroySession c id => st.clientStep c fun s => some (st.destroyStep c id s)
  | .destruct c => st.clientStep c fun s => some (st.destructStep c s)

def start : ClientSystem := ⟨0, none, fun _ => none, []⟩

def machine : Machine ClientSystem Label where
  init st := st = start
  step := step

/-- Every `destroySession` request goes to the engine process that gave its id
to a session of the same client. -/
def OwnDestroys (log : List SessionRecord) : Prop :=
  ∀ pre post c n id, log = pre ++ .destroy c n id :: post → .created c n id ∈ pre

/-- A client is not connected with sessions in its map. -/
def CleanReconnect (st : ClientSystem) (a : Label) : Prop :=
  ∀ c s, a = .postConnect c → st.clients c = some s → ∀ id, id ∉ s.sessionMap

end ClientSystem

/-! ## Connection phases -/

structure TTSClientPrivateRtRemote.Phased (s : TTSClientPrivateRtRemote) : Prop where
  connected : s.connected = true → s.startup = .monitor ∧ s.serverCrashed = false
  starting : s.startup = .locate ∨ s.startup = .postConnect → s.serverCrashed = false

namespace TTSClientPrivateRtRemote

variable {s : TTSClientPrivateRtRemote}

theorem phased_new (callback : Bool) (found : Option Nat) : (new callback found).Phased :=
  ⟨fun h => (nomatch h), fun _ => rfl⟩

theorem Phased.not_connected (h : s.Phased) (hs : s.startup ≠ .monitor) : s.connected = false := by
  by_contra hc
  exact hs (h.connected (by simpa using hc)).1

theorem locate_frame (s : TTSClientPrivateRtRemote) (found : Option Nat) :
    (s.locate found).connected = s.connected ∧
      ∀ k, (s.locate found).manager = some k → s.manager = some k ∨ found = some k := by
  unfold TTSClientPrivateRtRemote.locate
  split
  · exact ⟨rfl, fun k hk => .inl hk⟩
  · exact ⟨rfl, fun k hk => .inr hk⟩
  · exact ⟨rfl, fun k hk => .inl hk⟩

theorem awaitEngine_frame (s : TTSClientPrivateRtRemote) (running : Bool) :
    (s.awaitEngine running).connected = s.connected ∧ (s.awaitEngine running).manager = s.manager := by
  unfold TTSClientPrivateRtRemote.awaitEngine
  split <;> exact ⟨rfl, rfl⟩

theorem Phased.locate (h : s.Phased) (hs : s.startup = .locate) (found : Option Nat) : (s.locate found).Phased := by
  have hc : s.connected = false := h.not_connected (by rw [hs]; exact fun e => nomatch e)
  have hf := h.starting (.inl hs)
  have hno : ∀ {P : Prop}, s.connected = true → P := fun e => by rw [hc] at e; cases e
  unfold TTSClientPrivateRtRemote.locate
  split <;> exact ⟨hno, fun _ => hf⟩

theorem Phased.postConnect (h : s.Phased) (hs : s.startup = .postConnect) (policy : Option ResourceAllocationPolicy) :
    (s.postConnect policy).Phased :=
  ⟨fun _ => ⟨rfl, h.starting (.inr hs)⟩, fun e => e.elim (fun e => (nomatch e)) (fun e => (nomatch e))⟩

theorem Phased.awaitCrash (h : s.Phased) {s' : TTSClientPrivateRtRemote} (hs : s.awaitCrash = some s') : s'.Phased := by
  unfold TTSClientPrivateRtRemote.awaitCrash at hs
  split at hs
  · rename_i hcrashed
    obtain rfl := Option.some.inj hs
    refine ⟨fun hc => ?_, fun e => e.elim (fun e => (nomatch e)) (fun e => (nomatch e))⟩
    have := (h.connected hc).2
    rw [hcrashed] at this
    cases this
  · cases hs

theorem Phased.awaitEngine (h : s.Phased) (hs : s.startup = .restart) (running : Bool) :
    (s.awaitEngine running).Phased := by
  have hc : s.connected = false := h.not_connected (by rw [hs]; exact fun e => nomatch e)
  have hno : ∀ {P : Prop}, s.connected = true → P := fun e => by rw [hc] at e; cases e
  unfold TTSClientPrivateRtRemote.awaitEngine
  split
  · exact ⟨hno, fun _ => rfl⟩
  · exact ⟨hno, fun e => e.elim (fun e => (nomatch e)) (fun e => (nomatch e))⟩

theorem rtServerCrashCB_cases (s : TTSClientPrivateRtRemote) :
    s.rtServerCrashCB = s ∨
      s.rtServerCrashCB.connected = false ∧ s.rtServerCrashCB.startup = s.startup ∧
        (s.connected = false → s.rtServerCrashCB.serverCrashed = s.serverCrashed) := by
  unfold rtServerCrashCB cleanupConnection
  cases s.callback with
  | false => exact .inl rfl
  | true =>
    refine .inr ?_
    cases hc : s.connected with
    | false => exact ⟨rfl, rfl, fun _ => rfl⟩
    | true => exact ⟨rfl, rfl, fun e => (nomatch e)⟩

theorem Phased.rtServerCrashCB (h : s.Phased) : s.rtServerCrashCB.Phased := by
  rcases s.rtServerCrashCB_cases with e | ⟨hc, hs, hf⟩
  · rw [e]
    exact h
  · refine ⟨fun e => (nomatch hc.symm.trans e), fun e => ?_⟩
    rw [hs] at e
    have hno : s.connected = false := h.not_connected (by rcases e with e | e <;> rw [e] <;> exact fun e => nomatch e)
    rw [hf hno]
    exact h.starting e

theorem createSession_ids {s : TTSClientPrivateRtRemote} {object : SessionObject} {id : Nat}
    (h : id ∈ (s.createSession (some object)).2.sessionMap) : id ∈ s.sessionMap ∨ object.id = some id := by
  unfold createSession at h
  split at h
  · exact .inl h
  · split at h
    · rename_i session id' enabled he
      obtain rfl := Option.some.inj he
      rw [Std.TreeMap.mem_insert] at h
      rcases h with h | h
      · exact .inr (congrArg some (Nat.compare_eq_eq.mp h))
      · exact .inl h
    · exact .inl h

end TTSClientPrivateRtRemote

/-! ## Runs -/

namespace ClientSystem

def Owns (log : List SessionRecord) (c : Nat) (s : TTSClientPrivateRtRemote) : Prop :=
  s.connected = true → ∀ id, id ∈ s.sessionMap → ∀ n, s.manager = some n → .created c n id ∈ log

theorem Owns.mono {log log' : List SessionRecord} {c : Nat} {s : TTSClientPrivateRtRemote} (h : Owns log c s)
    (hl : ∀ r ∈ log, r ∈ log') : Owns log' c s := fun hc id hid n hn => hl _ (h hc id hid n hn)

structure Kept (st : ClientSystem) : Prop where
  phased : ∀ c s, st.clients c = some s → s.Phased
  owns : ∀ c s, st.clients c = some s → Owns st.log c s
  destroys : OwnDestroys st.log

theorem ownDestroys_append {log log' : List SessionRecord} (h : OwnDestroys log)
    (hl : ∀ c n id, .destroy c n id ∈ log' → .created c n id ∈ log) : OwnDestroys (log ++ log') := by
  intro pre post c n id heq
  rcases log_split heq with ⟨as, hpre, hmem⟩ | ⟨bs, hlog⟩
  · rw [hpre]
    exact List.mem_append_left _ (hl c n id hmem)
  · exact h pre bs c n id hlog

theorem kept_of_client {st st' : ClientSystem} (h : st.Kept) {c : Nat} {s' : Option TTSClientPrivateRtRemote}
    {log : List SessionRecord} (hclients : st'.clients = st.setClient c s') (hlog : st'.log = st.log ++ log)
    (hs : ∀ s, s' = some s → s.Phased ∧ Owns (st.log ++ log) c s)
    (hd : ∀ c n id, .destroy c n id ∈ log → .created c n id ∈ st.log) : st'.Kept := by
  have hcases : ∀ c' s, st'.clients c' = some s → c' = c ∧ s' = some s ∨ st.clients c' = some s := by
    intro c' s hc
    rw [hclients] at hc
    unfold setClient at hc
    split at hc
    · rename_i he
      exact .inl ⟨he, hc⟩
    · exact .inr hc
  refine ⟨fun c' s hc => ?_, fun c' s hc => ?_, ?_⟩
  · rcases hcases c' s hc with ⟨-, he⟩ | hc
    · exact (hs s he).1
    · exact h.phased c' s hc
  · rw [hlog]
    rcases hcases c' s hc with ⟨rfl, he⟩ | hc
    · exact (hs s he).2
    · exact (h.owns c' s hc).mono fun r hr => List.mem_append_left _ hr
  · rw [hlog]
    exact ownDestroys_append h.destroys hd

theorem sendDestroy_log (st : ClientSystem) (c : Nat) (s : TTSClientPrivateRtRemote) (ids : List Nat) :
    ∃ log, (st.sendDestroy c s ids).log = st.log ++ log ∧
      ∀ c' n id, .destroy c' n id ∈ log → c' = c ∧ s.manager = some n ∧ id ∈ ids := by
  unfold sendDestroy
  cases hr : st.reached s with
  | none => exact ⟨[], (List.append_nil _).symm, fun c' n id hm => (nomatch hm)⟩
  | some m =>
    refine ⟨ids.map (.destroy c st.incarnation), rfl, fun c' n id hm => ?_⟩
    obtain ⟨id', hid, he⟩ := List.mem_map.mp hm
    obtain ⟨rfl, rfl, rfl⟩ := SessionRecord.destroy.inj he
    refine ⟨rfl, ?_, hid⟩
    unfold reached at hr
    split at hr
    · assumption
    · cases hr

theorem startup_kept {st st' : ClientSystem} (h : st.Kept) {c : Nat} {here : Startup}
    {f : TTSClientPrivateRtRemote → Option TTSClientPrivateRtRemote}
    (hf : ∀ s s', st.clients c = some s → s.Phased → s.startup = here → f s = some s' → s'.Phased ∧ Owns st.log c s')
    (hs : st.startupStep c here f = some st') : st'.Kept := by
  obtain ⟨s, hc, hs⟩ := Option.bind_eq_some_iff.mp hs
  simp only [Option.ite_none_right_eq_some, Option.map_eq_some_iff] at hs
  obtain ⟨hst, s', hs', rfl⟩ := hs
  refine kept_of_client h (c := c) rfl (List.append_nil _).symm (fun s1 e => ?_) (fun _ _ _ hm => (nomatch hm))
  obtain rfl := Option.some.inj e
  rw [List.append_nil]
  exact hf s s' hc (h.phased c s hc) hst hs'

theorem owns_of_disconnected {log : List SessionRecord} {c : Nat} {s : TTSClientPrivateRtRemote}
    (h : s.connected = false) : Owns log c s := fun hc => nomatch h.symm.trans hc

theorem destroyRequest_some {s : TTSClientPrivateRtRemote} {id id' : Nat} (h : s.destroyRequest id = some id') :
    s.connected = true ∧ id' = id ∧ id ∈ s.sessionMap := by
  unfold TTSClientPrivateRtRemote.destroyRequest TTSClientPrivateRtRemote.checkSession at h
  cases hc : s.connected with
  | false => simp [hc] at h
  | true =>
    cases hm : s.sessionMap[id]? with
    | none => simp [hc, hm] at h
    | some p =>
      simp only [hc, hm, Bool.not_true, Bool.false_eq_true, if_false, Option.some.injEq] at h
      exact ⟨rfl, h.symm, (mem_iff_getElem? _ _).mpr ⟨p, hm⟩⟩

theorem create_kept {st : ClientSystem} (h : st.Kept) {c appId : Nat} {appName : String}
    {s : TTSClientPrivateRtRemote} (hc : st.clients c = some s) : (st.createStep c appId appName s).Kept := by
  have hphased : ∀ reply, (s.createSession reply).2.Phased := by
    intro reply
    obtain ⟨map, enabled, he⟩ := s.createSession_connection reply
    rw [he]
    exact ⟨(h.phased c s hc).connected, (h.phased c s hc).starting⟩
  unfold createStep
  split
  · refine kept_of_client h (c := c) rfl (List.append_nil _).symm (fun s1 e => ?_) (fun _ _ _ hm => (nomatch hm))
    obtain rfl := Option.some.inj e
    refine ⟨hphased none, ?_⟩
    have hsame : (s.createSession none).2 = s := by
      unfold TTSClientPrivateRtRemote.createSession
      split <;> rfl
    rw [hsame, List.append_nil]
    exact h.owns c s hc
  · rename_i m hr
    refine kept_of_client h (c := c) rfl rfl (fun s1 e => ?_) (fun c' n id hm => ?_)
    · obtain rfl := Option.some.inj e
      refine ⟨hphased _, fun hcon id hid n hn => ?_⟩
      obtain ⟨map, enabled, he⟩ := s.createSession_connection (some (m.createSession appId appName).1)
      rw [he] at hcon hn
      rcases TTSClientPrivateRtRemote.createSession_ids hid with hold | hnew
      · exact List.mem_append_left _ (h.owns c s hc hcon id hold n hn)
      · -- the answering process is the one the client talks to
        obtain rfl : n = st.incarnation := by
          rw [if_pos hcon, reached] at hr
          split at hr
          · rename_i hm
            exact Option.some.inj (hn.symm.trans hm)
          · cases hr
        apply List.mem_append_right
        rw [hnew]
        exact List.mem_singleton.mpr rfl
    · cases hid : (m.createSession appId appName).1.id with
      | none => simp [hid] at hm
      | some id' => simp [hid] at hm

theorem destroy_kept {st : ClientSystem} (h : st.Kept) {c id : Nat} {s : TTSClientPrivateRtRemote}
    (hc : st.clients c = some s) : (st.destroyStep c id s).Kept := by
  obtain ⟨log, hlog, hsent⟩ := st.sendDestroy_log c s (s.destroyRequest id).toList
  refine kept_of_client h (c := c) rfl hlog (fun s1 e => ?_) (fun c' n id' hm => ?_)
  · obtain rfl := Option.some.inj e
    have howns := (h.owns c s hc).mono fun r hr => List.mem_append_left log hr
    rcases s.destroySession_connection id ((st.reached s).map fun m => (m.destroySession id).1) with he | he <;> rw [he]
    · exact ⟨h.phased c s hc, howns⟩
    · refine ⟨⟨(h.phased c s hc).connected, (h.phased c s hc).starting⟩, fun hcon id' hid n hn => ?_⟩
      exact howns hcon id' (Std.TreeMap.mem_of_mem_erase hid) n hn
  · obtain ⟨rfl, hn, hid⟩ := hsent c' n id' hm
    obtain ⟨hcon, rfl, hmem⟩ := destroyRequest_some (Option.mem_toList.mp hid)
    exact h.owns c' s hc hcon id' hmem n hn

theorem cleanupConnection_ids {s : TTSClientPrivateRtRemote} {id : Nat} (h : id ∈ (s.cleanupConnection false).1) :
    s.connected = true ∧ id ∈ s.sessionMap := by
  unfold TTSClientPrivateRtRemote.cleanupConnection at h
  cases hc : s.connected with
  | false => simp [hc] at h
  | true =>
    simp only [hc, if_true, Bool.false_eq_true, if_false] at h
    exact ⟨rfl, Std.TreeMap.mem_keys.mp h⟩

theorem destruct_kept {st : ClientSystem} (h : st.Kept) {c : Nat} {s : TTSClientPrivateRtRemote}
    (hc : st.clients c = some s) : (st.destructStep c s).Kept := by
  obtain ⟨log, hlog, hsent⟩ := st.sendDestroy_log c s (s.cleanupConnection false).1
  refine kept_of_client h (c := c) rfl hlog (fun s1 e => (nomatch e)) (fun c' n id' hm => ?_)
  obtain ⟨rfl, hn, hid⟩ := hsent c' n id' hm
  obtain ⟨hcon, hmem⟩ := cleanupConnection_ids hid
  exact h.owns c' s hc hcon id' hmem n hn

theorem step_kept {st st' : ClientSystem} {a : Label} (h : st.Kept) (ho : st.CleanReconnect a)
    (hs : machine.step st a = some st') : st'.Kept := by
  cases a with
  | engineStart configuration others policy maxFailures =>
    simp only [machine, step, Option.ite_none_left_eq_some, Option.some.injEq] at hs
    obtain ⟨-, rfl⟩ := hs
    exact ⟨h.phased, h.owns, h.destroys⟩
  | engineCrash =>
    simp only [machine, step, Option.ite_none_right_eq_some, Option.some.injEq] at hs
    obtain ⟨-, rfl⟩ := hs
    exact ⟨h.phased, h.owns, h.destroys⟩
  | construct c callback found =>
    simp only [machine, step, Option.ite_none_left_eq_some, Option.some.injEq] at hs
    obtain ⟨-, rfl⟩ := hs
    refine kept_of_client h (c := c) rfl (List.append_nil _).symm (fun s1 e => ?_) (fun _ _ _ hm => (nomatch hm))
    obtain rfl := Option.some.inj e
    exact ⟨TTSClientPrivateRtRemote.phased_new _ _, owns_of_disconnected rfl⟩
  | locate c found =>
    refine startup_kept h (fun s s' hc hp hst he => ?_) hs
    obtain rfl := Option.some.inj he
    refine ⟨hp.locate hst _, owns_of_disconnected ?_⟩
    rw [(s.locate_frame _).1]
    exact hp.not_connected (by rw [hst]; exact fun e => nomatch e)
  | postConnect c =>
    refine startup_kept h (fun s s' hc hp hst he => ?_) hs
    obtain rfl := Option.some.inj he
    -- nothing is owned yet
    exact ⟨hp.postConnect hst _, fun _ id hid => absurd hid (ho c s rfl hc id)⟩
  | awaitCrash c =>
    refine startup_kept h (fun s s' hc hp hst he => ⟨hp.awaitCrash he, ?_⟩) hs
    unfold TTSClientPrivateRtRemote.awaitCrash at he
    simp only [Option.ite_none_right_eq_some, Option.some.injEq] at he
    obtain ⟨-, rfl⟩ := he
    exact h.owns c s hc
  | awaitEngine c running =>
    refine startup_kept h (fun s s' hc hp hst he => ?_) hs
    obtain rfl := Option.some.inj he
    refine ⟨hp.awaitEngine hst running, owns_of_disconnected ?_⟩
    rw [(s.awaitEngine_frame running).1]
    exact hp.not_connected (by rw [hst]; exact fun e => nomatch e)
  | crashNotice c =>
    obtain ⟨s, hc, hs⟩ := Option.bind_eq_some_iff.mp hs
    simp only [Option.ite_none_right_eq_some, Option.some.injEq] at hs
    obtain ⟨-, rfl⟩ := hs
    refine kept_of_client h (c := c) rfl (List.append_nil _).symm (fun s1 e => ?_) (fun _ _ _ hm => (nomatch hm))
    obtain rfl := Option.some.inj e
    refine ⟨(h.phased c s hc).rtServerCrashCB, ?_⟩
    rcases s.rtServerCrashCB_cases with he | ⟨hcon, -, -⟩
    · rw [he, List.append_nil]
      exact h.owns c s hc
    · exact owns_of_disconnected hcon
  | createSession c appId appName =>
    obtain ⟨s, hc, hs⟩ := Option.bind_eq_some_iff.mp hs
    obtain rfl := Option.some.inj hs
    exact create_kept h hc
  | destroySession c id =>
    obtain ⟨s, hc, hs⟩ := Option.bind_eq_some_iff.mp hs
    obtain rfl := Option.some.inj hs
    exact destroy_kept h hc
  | destruct c =>
    obtain ⟨s, hc, hs⟩ := Option.bind_eq_some_iff.mp hs
    obtain rfl := Option.some.inj hs
    exact destruct_kept h hc

/-- **Clients destroy their own sessions.** In every run whose clients reconnect
with an empty session map, each request goes to the engine process that gave
the id to a session of the same client. -/
theorem clients_destroy_own {st : ClientSystem} (h : machine.ReachableIf CleanReconnect st) : OwnDestroys st.log := by
  have hk : st.Kept := by
    refine Machine.ReachableIf.invariant (I := Kept) ?_ (fun _ _ _ hI ho hs => step_kept hI ho hs) h
    rintro _ rfl
    refine ⟨fun c s hc => (nomatch hc), fun c s hc => (nomatch hc), fun pre post c n id heq => ?_⟩
    cases pre <;> cases heq
  exact hk.destroys

theorem cleanReconnect_of_ne (st : ClientSystem) {a : Label} (h : ∀ c, a ≠ .postConnect c) : st.CleanReconnect a :=
  fun c _ e => absurd e (h c)

theorem cleanReconnect_of_empty {st : ClientSystem} {c : Nat}
    (h : ∀ s, st.clients c = some s → s.sessionMap.isEmpty = true) : st.CleanReconnect (.postConnect c) := by
  intro c' s e hs
  cases e
  exact Std.TreeMap.isEmpty_iff_forall_not_mem.mp (h s hs)

/-- A client destroys its session, the engine is started anew, and it destroys another one. -/
theorem clients_destroy_own_reconnected :
    ∃ st, machine.ReachableIf CleanReconnect st ∧ .destroy 0 2 1 ∈ st.log ∧ OwnDestroys st.log := by
  have hne : ∀ (st : ClientSystem) (a : Label), (∀ c, a ≠ .postConnect c) → st.CleanReconnect a := fun st _ h =>
    st.cleanReconnect_of_ne h
  have h0 : machine.ReachableIf CleanReconnect start := .init rfl
  have h1 := h0.step (hne _ (.engineStart .new ∅ .open 1) fun _ e => (nomatch e)) rfl
  have h2 := h1.step (hne _ (.construct 0 true true) fun _ e => (nomatch e)) rfl
  have h3 := h2.step (hne _ (.locate 0 true) fun _ e => (nomatch e)) rfl
  have h4 := h3.step (cleanReconnect_of_empty (c := 0) fun s hs => by cases hs; rfl) rfl
  have h5 := h4.step (hne _ (.createSession 0 7 "app") fun _ e => (nomatch e)) rfl
  have h6 := h5.step (hne _ (.destroySession 0 1) fun _ e => (nomatch e)) rfl
  have h7 := h6.step (hne _ .engineCrash fun _ e => (nomatch e)) rfl
  have h8 := h7.step (hne _ (.crashNotice 0) fun _ e => (nomatch e)) rfl
  have h9 := h8.step (hne _ (.engineStart .new ∅ .open 1) fun _ e => (nomatch e)) rfl
  have h10 := h9.step (hne _ (.awaitCrash 0) fun _ e => (nomatch e)) rfl
  have h11 := h10.step (hne _ (.awaitEngine 0 true) fun _ e => (nomatch e)) rfl
  have h12 := h11.step (hne _ (.locate 0 true) fun _ e => (nomatch e)) rfl
  have h13 := h12.step (cleanReconnect_of_empty (c := 0) fun s hs => by cases hs; rfl) rfl
  have h14 := h13.step (hne _ (.createSession 0 7 "app") fun _ e => (nomatch e)) rfl
  have h15 := h14.step (hne _ (.destruct 0) fun _ e => (nomatch e)) rfl
  exact ⟨_, h15, by decide, clients_destroy_own h15⟩

/-- A client keeps the id of a session over a restart of the engine, another
client gets the same id, and the first one destroys it. -/
theorem client_destroys_other : ∃ st, machine.Reachable st ∧ ¬ OwnDestroys st.log := by
  refine ⟨_, Machine.reachable_of_exec (M := machine) (s := start) rfl
    [.engineStart .new ∅ .open 1, .construct 0 true true, .locate 0 true, .postConnect 0, .createSession 0 7 "app",
      .engineCrash, .crashNotice 0, .engineStart .new ∅ .open 1, .awaitCrash 0, .awaitEngine 0 true, .locate 0 true,
      .postConnect 0, .construct 1 true true, .locate 1 true, .postConnect 1, .createSession 1 8 "other",
      .destroySession 0 1] rfl, fun h => ?_⟩
  have hd := h [.created 0 1 1, .created 1 2 1] [] 0 2 1 rfl
  revert hd
  decide

theorem stale_id_destroyed {st : ClientSystem} {c id : Nat} {s : TTSClientPrivateRtRemote} {m : TTSManager}
    (hc : st.clients c = some s) (hcon : s.connected = true) (hid : id ∈ s.sessionMap) (hr : st.reached s = some m)
    (hnew : .created c st.incarnation id ∉ st.log) :
    ∃ st', machine.step st (.destroySession c id) = some st' ∧ ¬ OwnDestroys st'.log := by
  refine ⟨st.destroyStep c id s, by simp [machine, step, clientStep, hc], fun h => hnew ?_⟩
  obtain ⟨p, hp⟩ := (mem_iff_getElem? _ _).mp hid
  have hreq : s.destroyRequest id = some id := by
    simp [TTSClientPrivateRtRemote.destroyRequest, TTSClientPrivateRtRemote.checkSession, hcon, hp]
  refine h st.log [] c st.incarnation id ?_
  simp [destroyStep, sendDestroy, hr, hreq]

end ClientSystem

end TTS
