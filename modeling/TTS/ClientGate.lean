import TTS.Client
import TTS.Reporting

/-!
# The client's gate

`m_gotResource` of a session's info is written when the session is created, by
its resource events and by forced fetches, and `speak` reads it. The engine and
any number of connected clients take steps in any order; a request takes effect
when the engine handles it, and its reply, the answer of a forced fetch and the
events of a session arrive later.
-/

namespace TTS

open Monitor Transition

/-- What a client has of a session: the reply of its creation on the way, the
info, the number of events it got, and the answers of `isActive` on their way,
each with the number of events sent before it. -/
structure Link where
  client : Nat
  reply : Option SessionObject
  info : Option SessionInfo
  handled : Nat
  fetches : List (Nat × Bool)

namespace Link

def created (l : Link) (id : Nat) : Link :=
  -- with an id of 0 `createSession` deletes the info
  { l with reply := none, info := if id = 0 then none else l.info.map fun i => { i with sessionId := id } }

def deleted (l : Link) : Link := { l with info := none }

def handle (l : Link) (listeners : List String) (e : Event) : Link :=
  { l with
    info := if e.name ∈ listeners then l.info.map fun i => i.onSessionEvent e else l.info
    handled := l.handled + 1 }

def fetch (l : Link) (sent : Nat) (active : Bool) : Link := { l with fetches := l.fetches ++ [(sent, active)] }

def fetched (l : Link) (i : Nat) : Link :=
  match l.fetches[i]? with
  | none => l
  | some f =>
    { l with
      info := l.info.map fun s => (s.isActiveSession (some (some f.2))).2
      fetches := l.fetches.eraseIdx i }

end Link

/-- `links` has the sessions of the engine's `objects`, `heard` the number of the
manager's events each client got. -/
structure GateSystem where
  engine : Monitor TTSManager
  clients : Nat → TTSClientPrivateRtRemote
  heard : Nat → Nat
  links : List Link

def ManagerOp.grants : ManagerOp → Bool
  | .enableTTS _ | .destroySession _ => true
  | .reservePlayerResource _ | .releasePlayerResource _ | .claimPlayerResource _ => true
  | _ => false

namespace GateSystem

inductive Label
  | request (op : ManagerOp)
  | createSession (c appId : Nat) (appName : String)
  | created (p : Nat)
  | destroySession (c id : Nat)
  | connectionEvent (c : Nat)
  | event (p : Nat)
  | fetch (c id : Nat)
  | fetched (p i : Nat)

def setClient (st : GateSystem) (c : Nat) (s : TTSClientPrivateRtRemote) : GateSystem :=
  { st with clients := fun c' => if c' = c then s else st.clients c' }

def modifyLink (st : GateSystem) (p : Nat) (f : Link → Link) : GateSystem := { st with links := st.links.modify p f }

def step (st : GateSystem) : Label → Option GateSystem
  | .request op =>
    if op.grants then
      match op.perform st.engine with
      | .done _ m => some { st with engine := m }
      | .blocked => none
    else none
  | .createSession c appId appName =>
    let s := st.clients c
    match (ManagerOp.createSession appId appName s.eventCallbacks).perform st.engine with
    | .done (.ok (.object object)) m =>
      -- without a session the info is deleted
      some { st with
        engine := m
        links := st.links ++
          (object.session.map fun _ => Link.mk c (some object) (some (s.sessionInfo appId appName)) 0 []).toList }
    | _ => none
  | .created p =>
    (st.links[p]?).bind fun l => l.reply.map fun object =>
      let (id, s) := (st.clients l.client).createSession (some object)
      (st.setClient l.client s).modifyLink p fun l => l.created id
  | .destroySession c id =>
    match (st.clients c).checkSession id with
    | .error _ => none
    | .ok p =>
      match (ManagerOp.destroySession id).perform st.engine with
      | .done (.ok (.code e)) m =>
        let st' := ({ st with engine := m } : GateSystem).setClient c ((st.clients c).destroySession id (some e)).2
        some (if e = .ok then st'.modifyLink p Link.deleted else st')
      | _ => none
  | .connectionEvent c =>
    (st.engine.state.events[st.heard c]?).map fun e =>
      { st.setClient c ((st.clients c).onConnectionEvent e) with
        heard := fun c' => if c' = c then st.heard c + 1 else st.heard c' }
  | .event p =>
    (st.links[p]?).bind fun l => (st.engine.state.objects[p]?).bind fun s => (s.events[l.handled]?).map fun e =>
      st.modifyLink p fun l => l.handle s.listeners e
  | .fetch c id =>
    match (st.clients c).checkSession id with
    | .error _ => none
    | .ok p =>
      -- the engine answers `isActive`
      (st.engine.state.objects[p]?).map fun s => st.modifyLink p fun l => l.fetch s.events.length s.speaker
  | .fetched p i => some (st.modifyLink p fun l => l.fetched i)

def start (configuration : TTSConfiguration) (others : Others) (policy : ResourceAllocationPolicy) (maxFailures : Nat)
    (callback : Nat → Bool) : GateSystem :=
  let m := TTSManager.new configuration others policy maxFailures
  ⟨⟨false, m⟩, fun c => (TTSClientPrivateRtRemote.new (callback c) (some 0)).postConnect (some m.policy), fun _ => 0, []⟩

def machine : Machine GateSystem Label where
  init st := ∃ configuration others policy maxFailures callback,
    st = start configuration others policy maxFailures callback
  step := step

def gotResource (st : GateSystem) (p : Nat) : Bool :=
  (((st.links[p]?).bind Link.info).map SessionInfo.gotResource).getD false

/-- With TTS enabled and nothing of a live session on its way, its client has
the flag right, and `speak` is not refused when the session is active. -/
def Agrees (st : GateSystem) : Prop :=
  st.engine.state.ttsEnabled = true → ∀ p l s info, st.links[p]? = some l → st.engine.state.objects[p]? = some s →
    l.info = some info → st.engine.state.Live p → l.reply = none → l.fetches = [] → l.handled = s.events.length →
      info.gotResource = s.speaker ∧
        (s.speaker = true → ∀ c id, (st.clients c).checkSession id = .ok p →
          (st.clients c).speak st.gotResource id (some s.speak) ≠ .sessionNotActive)

/-- Under the open policy no forced fetch of a live session is answered while
TTS is disabled, and no resource event overtakes the answer of a forced fetch
that was given before the event was sent. -/
def InOrder (st : GateSystem) : Label → Prop
  | .fetch c id => st.engine.state.policy ≠ .reservation → ∀ p, (st.clients c).checkSession id = .ok p →
      st.engine.state.Live p → st.engine.state.ttsEnabled = true
  | .event p => ∀ l s e, st.links[p]? = some l → st.engine.state.objects[p]? = some s →
      s.events[l.handled]? = some e → e.resource ≠ none → ∀ f ∈ l.fetches, l.handled < f.1
  | _ => True

end GateSystem

/-! ## One session -/

theorem SessionInfo.onSessionEvent_gotResource (s : SessionInfo) (e : Event) :
    (s.onSessionEvent e).gotResource = e.resource.getD s.gotResource := by
  unfold SessionInfo.onSessionEvent Event.resource
  split
  · rfl
  · split <;> rfl

theorem resource_name {e : Event} (h : e.resource ≠ none) :
    e.name = "resource_acquired" ∨ e.name = "resource_released" := by
  unfold Event.resource at h
  split at h
  · exact .inl ‹_›
  · split at h
    · exact .inr ‹_›
    · exact absurd rfl h

structure Paired (reserved : Bool) (live : Prop) (l : Link) (s : TTSSession) : Prop where
  listening : reserved = true → "resource_acquired" ∈ s.listeners ∧ "resource_released" ∈ s.listeners
  silent : reserved = false → ∀ e ∈ s.events, e.resource = none
  follows : reserved = true ∨ live → ∀ info, l.info = some info →
    Mirror.Follows Event.resource (if reserved then s.speaker else true)
      ⟨s.events, info.gotResource, l.handled, l.fetches⟩

namespace Paired

variable {reserved : Bool} {live live' : Prop} {l : Link} {s s' : TTSSession}

theorem reports (h : Paired reserved live l s) (hr : s.Reports reserved s') (hl : reserved = false → live' → live) :
    Paired reserved live' l s' := by
  obtain ⟨hlisten, es, hes, hval⟩ := hr
  cases reserved with
  | true =>
    refine ⟨fun _ => ?_, fun e => (nomatch e), fun _ info hi => ?_⟩
    · rw [hlisten]
      exact h.listening rfl
    · have hf := (h.follows (.inl rfl) info hi).emit es
      simp only [if_true] at hval hf ⊢
      rw [hval, hes]
      exact hf
  | false =>
    simp only [Bool.false_eq_true, if_false] at hval
    refine ⟨fun e => (nomatch e), fun _ e he => ?_, fun hlive info hi => ?_⟩
    · rw [hes] at he
      exact (List.mem_append.mp he).elim (h.silent rfl e) (hval e)
    · have hlive : live := hl rfl (hlive.resolve_left fun e => nomatch e)
      have hf := (h.follows (.inr hlive) info hi).emit es
      rw [Mirror.replay_of_silent Event.resource hval] at hf
      rw [hes]
      exact hf

theorem created (h : Paired reserved live l s) (id : Nat) : Paired reserved live (l.created id) s := by
  refine ⟨h.listening, h.silent, fun hl info hi => ?_⟩
  unfold Link.created at hi
  split at hi
  · cases hi
  · obtain ⟨info', hi', rfl⟩ := Option.map_eq_some_iff.mp hi
    exact h.follows hl info' hi'

theorem deleted (h : Paired reserved live l s) : Paired reserved live l.deleted s :=
  ⟨h.listening, h.silent, fun _ _ hi => (nomatch hi)⟩

theorem handle (h : Paired reserved live l s) {e : Event} (he : s.events[l.handled]? = some e)
    (ho : e.resource ≠ none → ∀ f ∈ l.fetches, l.handled < f.1) : Paired reserved live (l.handle s.listeners e) s := by
  refine ⟨h.listening, h.silent, fun hl info hi => ?_⟩
  have hmem : e.resource ≠ none → e.name ∈ s.listeners := by
    intro hne
    cases reserved with
    | true =>
      obtain ⟨hacq, hrel⟩ := h.listening rfl
      rcases resource_name hne with hn | hn <;> rw [hn]
      · exact hacq
      · exact hrel
    | false => exact absurd (h.silent rfl e (List.mem_of_getElem? he)) hne
  have hinfo : ∃ info', l.info = some info' ∧ info.gotResource = e.resource.getD info'.gotResource := by
    unfold Link.handle at hi
    split at hi
    · obtain ⟨info', hi', rfl⟩ := Option.map_eq_some_iff.mp hi
      exact ⟨info', hi', info'.onSessionEvent_gotResource e⟩
    · rename_i hno
      have hnone : e.resource = none := by
        by_contra hne
        exact hno (hmem hne)
      exact ⟨info, hi, by rw [hnone]; rfl⟩
  obtain ⟨info', hi', hval⟩ := hinfo
  rw [hval]
  refine (h.follows hl info' hi').handle he ?_
  by_cases hne : e.resource = none
  · exact .inl hne
  · exact .inr (ho hne)

theorem fetch (h : Paired reserved live l s) (hv : reserved = false → live → s.speaker = true) :
    Paired reserved live (l.fetch s.events.length s.speaker) s := by
  refine ⟨h.listening, h.silent, fun hl info hi => ?_⟩
  have hf := (h.follows hl info hi).fetch
  cases reserved with
  | true => exact hf
  | false =>
    have hs := hv rfl (hl.resolve_left fun e => nomatch e)
    unfold Link.fetch
    rw [hs]
    exact hf

theorem fetched (h : Paired reserved live l s) (i : Nat) : Paired reserved live (l.fetched i) s := by
  refine ⟨h.listening, h.silent, fun hl info hi => ?_⟩
  unfold Link.fetched at hi ⊢
  split at hi
  · exact h.follows hl info hi
  · rename_i f hf
    obtain ⟨info', hi', rfl⟩ := Option.map_eq_some_iff.mp hi
    exact (h.follows hl info' hi').store (List.mem_of_getElem? hf) fun g hg => List.mem_of_mem_eraseIdx hg

end Paired

/-! ## The system -/

theorem Reporting.before {m m' : TTSManager} (h : Reporting m m') {p : Nat} {s' : TTSSession}
    (hs : m'.objects[p]? = some s') :
    ∃ s : TTSSession, m.objects[p]? = some s ∧ s.Reports (decide (m.policy = .reservation)) s' := by
  have hlt : p < m.objects.length := by
    rw [← h.length]
    exact (List.getElem?_eq_some_iff.mp hs).1
  obtain ⟨s'', hs'', hr⟩ := h.objects p m.objects[p] (List.getElem?_eq_getElem hlt)
  obtain rfl := Option.some.inj (hs''.symm.trans hs)
  exact ⟨_, List.getElem?_eq_getElem hlt, hr⟩

theorem perform_grants {op : ManagerOp} (hg : op.grants = true) (m : TTSManager) :
    ∃ r m', op.perform ⟨false, m⟩ = .done r ⟨false, m'⟩ ∧ Reporting m m' ∧
      (m.policy ≠ .reservation → OpenActive m → OpenActive m' ∧ ∀ q, m'.Live q → m.Live q) := by
  have hplayer : ∀ res : TTSError × TTSManager, (m.policy = .reservation → Reporting m res.2) → ∃ r m',
        (if m.policy = .reservation then .done (.ok (.code res.1)) ⟨false, res.2⟩
          else .done (.ok (.code .ok)) ⟨false, m⟩ : Outcome StdException TTSManager ManagerReply) =
            .done r ⟨false, m'⟩ ∧ Reporting m m' ∧
          (m.policy ≠ .reservation → OpenActive m → OpenActive m' ∧ ∀ q, m'.Live q → m.Live q) := by
    intro res hb
    by_cases hp : m.policy = .reservation
    · exact ⟨_, _, if_pos hp, hb hp, fun h => absurd hp h⟩
    · exact ⟨_, m, if_neg hp, .refl m, fun _ ho => ⟨ho, fun q hq => hq⟩⟩
  cases op with
  | enableTTS enable =>
    refine ⟨_, _, rfl, TTSManager.reporting_enableTTS m enable, fun hp ho => ?_⟩
    obtain ⟨ho', hmap⟩ := TTSManager.enableTTS_openActive hp ho enable
    refine ⟨ho', fun q hq => ?_⟩
    obtain ⟨id, hid⟩ := hq
    exact ⟨id, hmap ▸ hid⟩
  | destroySession id =>
    exact ⟨_, _, rfl, TTSManager.reporting_destroySession m id, fun hp ho =>
      TTSManager.destroySession_openActive hp ho id⟩
  | reservePlayerResource a =>
    obtain ⟨r, m', e, h⟩ := hplayer (m.reservePlayerResource a) fun hp => TTSManager.reporting_reservePlayerResource hp a
    exact ⟨r, m', (perform_requestPlayerResource m _ false).trans e, h⟩
  | releasePlayerResource a =>
    obtain ⟨r, m', e, h⟩ := hplayer (m.releasePlayerResource a) fun hp => TTSManager.reporting_releasePlayerResource hp a
    exact ⟨r, m', (perform_requestPlayerResource m _ false).trans e, h⟩
  | claimPlayerResource a =>
    obtain ⟨r, m', e, h⟩ := hplayer (m.claimPlayerResource a) fun hp => TTSManager.reporting_claimPlayerResource hp a
    exact ⟨r, m', (perform_claimPlayerResource m a).trans e, h⟩
  | createSession | isTTSEnabled | listVoices | setConfiguration | getConfiguration | isSessionActiveForApp
  | getResourceAllocationPolicy => cases hg

namespace GateSystem

structure Mirrored (st : GateSystem) : Prop where
  free : st.engine.held = false
  length : st.links.length = st.engine.state.objects.length
  policy : ∀ c, (st.clients c).policy = st.engine.state.policy
  openActive : st.engine.state.policy ≠ .reservation → OpenActive st.engine.state
  paired : ∀ (p : Nat) (l : Link) (s : TTSSession), st.links[p]? = some l → st.engine.state.objects[p]? = some s →
    Paired (decide (st.engine.state.policy = .reservation)) (st.engine.state.Live p) l s

section
variable {st : GateSystem} (h : st.Mirrored)

include h in
theorem Mirrored.setClient {c : Nat} {s : TTSClientPrivateRtRemote} (hs : s.policy = (st.clients c).policy) :
    (st.setClient c s).Mirrored := by
  refine ⟨h.free, h.length, fun c' => ?_, h.openActive, h.paired⟩
  show TTSClientPrivateRtRemote.policy (if c' = c then s else st.clients c') = _
  split
  · exact hs.trans (h.policy c)
  · exact h.policy c'

include h in
theorem Mirrored.modifyLink {p : Nat} {f : Link → Link}
    (hf : ∀ l s, st.links[p]? = some l → st.engine.state.objects[p]? = some s →
      Paired (decide (st.engine.state.policy = .reservation)) (st.engine.state.Live p) l s →
        Paired (decide (st.engine.state.policy = .reservation)) (st.engine.state.Live p) (f l) s) :
    (st.modifyLink p f).Mirrored := by
  refine ⟨h.free, (List.length_modify ..).trans h.length, h.policy, h.openActive, fun q l' s hl hs => ?_⟩
  have hl : (st.links.modify p f)[q]? = some l' := hl
  rw [List.getElem?_modify] at hl
  obtain ⟨l, hl', rfl⟩ := Option.map_eq_some_iff.mp hl
  by_cases hq : p = q
  · subst hq
    rw [if_pos rfl]
    exact hf l s hl' hs (h.paired p l s hl' hs)
  · rw [if_neg hq]
    exact h.paired q l s hl' hs

include h in
theorem Mirrored.setEngine {m : TTSManager} (hr : Reporting st.engine.state m)
    (ho : st.engine.state.policy ≠ .reservation → OpenActive st.engine.state →
      OpenActive m ∧ ∀ q, m.Live q → st.engine.state.Live q) :
    Mirrored { st with engine := ⟨false, m⟩ } := by
  have hopen : st.engine.state.policy ≠ .reservation → OpenActive m ∧ ∀ q, m.Live q → st.engine.state.Live q :=
    fun hp => ho hp (h.openActive hp)
  refine ⟨rfl, h.length.trans hr.length.symm, fun c => (h.policy c).trans hr.policy.symm, fun hp => ?_,
    fun p l s' hl hs' => ?_⟩
  · have hp : m.policy ≠ .reservation := hp
    rw [hr.policy] at hp
    exact (hopen hp).1
  · obtain ⟨s, hs, hrep⟩ := hr.before hs'
    show Paired (decide (m.policy = .reservation)) (m.Live p) l s'
    rw [hr.policy]
    exact (h.paired p l s hl hs).reports hrep fun hp => (hopen (of_decide_eq_false hp)).2 p

theorem paired_new {m : TTSManager} {a id : Nat} {n : String} {configuration : TTSConfiguration} {s : TTSSession}
    (c : TTSClientPrivateRtRemote) (hc : c.policy = m.policy) (reply : Option SessionObject) (client : Nat) (live : Prop)
    (hr : (TTSSession.new a n id configuration).Reports (decide (m.policy = .reservation)) s) :
    Paired (decide (m.policy = .reservation)) live ⟨client, reply, some (c.sessionInfo a n), 0, []⟩
      { s with listeners := s.listeners ++ c.eventCallbacks } := by
  obtain ⟨-, es, hes, hval⟩ := hr
  have hes : s.events = es := hes
  by_cases hp : m.policy = .reservation
  · rw [decide_eq_true hp] at hval ⊢
    refine ⟨fun _ => ?_, fun e => (nomatch e), fun _ info hi => ?_⟩
    · simp [TTSClientPrivateRtRemote.eventCallbacks, hc, hp]
    · obtain rfl := Option.some.inj hi
      refine ⟨Nat.zero_le _, ?_, fun f hf => (nomatch hf)⟩
      have hgot : (c.sessionInfo a n).gotResource = false := by
        simp [TTSClientPrivateRtRemote.sessionInfo, hc, hp]
      rw [hgot]
      simp only [if_true] at hval ⊢
      rw [hval, hes]
      rfl
  · rw [decide_eq_false hp] at hval ⊢
    simp only [Bool.false_eq_true, if_false] at hval
    refine ⟨fun e => (nomatch e), fun _ e he => hval e (hes ▸ he), fun _ info hi => ?_⟩
    obtain rfl := Option.some.inj hi
    refine ⟨Nat.zero_le _, ?_, fun f hf => (nomatch hf)⟩
    have hgot : (c.sessionInfo a n).gotResource = true := by
      simp [TTSClientPrivateRtRemote.sessionInfo, hc, hp]
    rw [hgot]
    exact Mirror.replay_of_silent _ (fun e he => hval e (hes ▸ he)) true

include h in
theorem Mirrored.createSession {c a : Nat} {n : String} {st' : GateSystem}
    (hs : st.step (.createSession c a n) = some st') : st'.Mirrored := by
  obtain ⟨⟨held, m⟩, clients, heard, links⟩ := st
  obtain rfl : held = false := h.free
  simp only [step, perform_createSession] at hs
  obtain rfl := Option.some.inj hs
  rcases m.createSession_cases a n with e | ⟨-, e⟩
  · rw [e]
    refine ⟨rfl, ?_, h.policy, h.openActive, ?_⟩
    · exact (congrArg List.length (List.append_nil links)).trans h.length
    · simp only [Option.map_none, Option.toList_none, List.append_nil]
      exact h.paired
  rw [e]
  have hrep := m.reporting_addSession a n
  have hpol : (m.addSession a n).policy = m.policy := hrep.policy
  have hlen : (m.addSession a n).objects.length = m.objects.length + 1 :=
    hrep.length.trans (List.length_append ..)
  have hopen : m.policy ≠ .reservation → OpenActive (m.addSession a n) ∧
      ∀ q, (m.addSession a n).Live q → q = m.objects.length ∨ m.Live q := fun hp =>
    TTSManager.addSession_openActive hp (h.openActive hp) a n
  have hlinks : links.length = m.objects.length := h.length
  refine ⟨rfl, ?_, fun c' => (h.policy c').trans hpol.symm, fun hp => ?_, fun p l s' hl hs' => ?_⟩
  · show (links ++ [_]).length = (List.modify ..).length
    rw [List.length_append, List.length_modify, hlen, hlinks]
    rfl
  · have hp : (m.addSession a n).policy ≠ .reservation := hp
    rw [hpol] at hp
    exact (TTSManager.sameRegistry_installCallbacks _ _ _).openActive
      (fun q _ => TTSManager.holds_installCallbacks _ _ _ q) (hopen hp).1
  · show Paired (decide ((m.addSession a n).policy = .reservation)) ((m.addSession a n).Live p) l s'
    rw [hpol]
    have hs' : ((m.addSession a n).objects.modify m.objects.length fun s : TTSSession =>
      { s with listeners := s.listeners ++ (clients c).eventCallbacks })[p]? = some s' := hs'
    have hl : (links ++ [_])[p]? = some l := hl
    rw [List.getElem?_modify] at hs'
    obtain ⟨s'', hs'', hmod⟩ := Option.map_eq_some_iff.mp hs'
    obtain ⟨s, hs, hr⟩ := hrep.before hs''
    rw [TTSManager.getElem?_enterSession] at hs
    by_cases hp : p = m.objects.length
    · subst hp
      rw [if_pos rfl] at hs hmod
      obtain rfl := Option.some.inj hs
      rw [← hlinks, List.getElem?_concat_length] at hl
      obtain rfl := Option.some.inj hl
      rw [← hmod]
      exact paired_new (clients c) (h.policy c) _ c _ hr
    · rw [if_neg hp] at hs
      rw [if_neg (fun e => hp e.symm)] at hmod
      have hlt : p < links.length := by
        rw [hlinks]
        exact (List.getElem?_eq_some_iff.mp hs).1
      rw [List.getElem?_append_left hlt] at hl
      rw [← hmod]
      exact (h.paired p l s hl hs).reports hr fun hpn hlive =>
        ((hopen (of_decide_eq_false hpn)).2 p hlive).resolve_left hp

end

theorem step_mirrored {st st' : GateSystem} {a : Label} (h : st.Mirrored) (ho : st.InOrder a)
    (hs : st.step a = some st') : st'.Mirrored := by
  cases a with
  | request op =>
    obtain ⟨⟨held, m⟩, clients, heard, links⟩ := st
    obtain rfl : held = false := h.free
    simp only [step] at hs
    split at hs
    · rename_i hg
      obtain ⟨r, m', he, hrep, hopen⟩ := perform_grants hg m
      rw [he] at hs
      obtain rfl := Option.some.inj hs
      exact h.setEngine hrep hopen
    · cases hs
  | createSession c a n => exact h.createSession hs
  | created p =>
    obtain ⟨l, hl, hs⟩ := Option.bind_eq_some_iff.mp hs
    obtain ⟨object, -, rfl⟩ := Option.map_eq_some_iff.mp hs
    obtain ⟨_, _, he⟩ := (st.clients l.client).createSession_connection (some object)
    have hc := h.setClient (c := l.client) (s := ((st.clients l.client).createSession (some object)).2) (by rw [he])
    exact hc.modifyLink fun _ _ _ _ hp => hp.created _
  | destroySession c id =>
    obtain ⟨⟨held, m⟩, clients, heard, links⟩ := st
    obtain rfl : held = false := h.free
    simp only [step] at hs
    split at hs
    · cases hs
    · obtain ⟨r, m', he, hrep, hopen⟩ := perform_grants (show (ManagerOp.destroySession id).grants = true from rfl) m
      rw [he] at hs
      split at hs
      · rename_i e m'' heq
        obtain ⟨-, rfl⟩ := Outcome.done.inj heq
        have hclient : ((clients c).destroySession id (some e)).2.policy = (clients c).policy := by
          rcases (clients c).destroySession_connection id (some e) with he | he <;> rw [he]
        have hc := (h.setEngine hrep hopen).setClient (c := c) hclient
        obtain rfl := Option.some.inj hs
        split
        · exact hc.modifyLink fun _ _ _ _ hp => hp.deleted
        · exact hc
      · cases hs
  | connectionEvent c =>
    obtain ⟨e, -, rfl⟩ := Option.map_eq_some_iff.mp hs
    have hc := h.setClient (c := c) ((st.clients c).onConnectionEvent_policy e)
    exact ⟨hc.free, hc.length, hc.policy, hc.openActive, hc.paired⟩
  | event p =>
    obtain ⟨l, hl, hs⟩ := Option.bind_eq_some_iff.mp hs
    obtain ⟨s, hobj, hs⟩ := Option.bind_eq_some_iff.mp hs
    obtain ⟨e, he, rfl⟩ := Option.map_eq_some_iff.mp hs
    refine h.modifyLink fun l' s' hl' hs' hp => ?_
    obtain rfl := Option.some.inj (hl.symm.trans hl')
    obtain rfl := Option.some.inj (hobj.symm.trans hs')
    exact hp.handle he (ho l s e hl hobj he)
  | fetch c id =>
    simp only [step] at hs
    split at hs
    · cases hs
    · rename_i p hcheck
      obtain ⟨s, hobj, rfl⟩ := Option.map_eq_some_iff.mp hs
      refine h.modifyLink fun l' s' _ hs' hp => ?_
      obtain rfl := Option.some.inj (hobj.symm.trans hs')
      refine hp.fetch fun hpol hlive => ?_
      have hpol := of_decide_eq_false hpol
      have hholds := (h.openActive hpol).holds p hlive
      rw [ho hpol p hcheck hlive, TTSManager.holds, hobj] at hholds
      exact hholds
  | fetched p i =>
    obtain rfl := Option.some.inj hs
    exact h.modifyLink fun _ _ _ _ hp => hp.fetched i

theorem start_mirrored (configuration : TTSConfiguration) (others : Others) (policy : ResourceAllocationPolicy)
    (maxFailures : Nat) (callback : Nat → Bool) :
    (start configuration others policy maxFailures callback).Mirrored := by
  have hmap : (TTSManager.new configuration others policy maxFailures).sessionMap = ∅ := by
    unfold TTSManager.new TTSManager.setResourceAllocationPolicy
    split <;> rfl
  have hobj : (TTSManager.new configuration others policy maxFailures).objects = [] := by
    unfold TTSManager.new TTSManager.setResourceAllocationPolicy
    split <;> rfl
  refine ⟨rfl, (congrArg List.length hobj).symm, fun c => rfl, fun _ => ⟨fun id p hp => ?_, fun p hp => ?_⟩,
    fun p l s hl => (nomatch hl)⟩
  · have hp : (TTSManager.new configuration others policy maxFailures).sessionMap[id]? = some p := hp
    rw [hmap] at hp
    simp at hp
  · obtain ⟨id, hp⟩ := hp
    have hp : (TTSManager.new configuration others policy maxFailures).sessionMap[id]? = some p := hp
    rw [hmap] at hp
    simp at hp

/-- **The gate is right.** In every run whose fetches and events come in order,
a client's flag is the engine's whenever nothing of the session is on its way. -/
theorem gate_agrees {st : GateSystem} (h : machine.ReachableIf InOrder st) : st.Agrees := by
  have hm : st.Mirrored := by
    refine Machine.ReachableIf.invariant (I := Mirrored) ?_ (fun _ _ _ hI ho hs => step_mirrored hI ho hs) h
    rintro _ ⟨configuration, others, policy, maxFailures, callback, rfl⟩
    exact start_mirrored configuration others policy maxFailures callback
  intro he p l s info hl hs hi hlive _ hf hq
  have hp := hm.paired p l s hl hs
  have hgot : info.gotResource = s.speaker := by
    by_cases hpol : st.engine.state.policy = .reservation
    · rw [decide_eq_true hpol] at hp
      exact (hp.follows (.inl rfl) info hi).copy_eq hq
    · rw [decide_eq_false hpol] at hp
      have hholds := (hm.openActive hpol).holds p hlive
      rw [he, TTSManager.holds, hs] at hholds
      exact ((hp.follows (.inr hlive) info hi).copy_eq hq).trans hholds.symm
  refine ⟨hgot, fun hactive c id hcheck => ?_⟩
  have hflag : st.gotResource p = true := by
    rw [gotResource, hl]
    show ((l.info.map SessionInfo.gotResource).getD false) = true
    rw [hi]
    exact hgot.trans hactive
  unfold TTSClientPrivateRtRemote.speak
  rw [hcheck]
  simp only [hflag, Bool.not_true, Bool.false_eq_true, if_false]
  unfold TTSSession.speak
  rw [hactive]
  simp only [Bool.not_true, Bool.false_eq_true, if_false]
  split
  · simp
  · split <;> simp

theorem gate_agrees_granted :
    ∃ st, machine.ReachableIf InOrder st ∧ st.gotResource 0 = true ∧ st.Agrees := by
  have h0 : machine.ReachableIf InOrder (start .new ∅ .reservation 1 fun _ => true) := .init ⟨_, _, _, _, _, rfl⟩
  have h1 := h0.step (a := Label.createSession 0 7 "app") trivial rfl
  have h2 := h1.step (a := Label.created 0) trivial rfl
  have h3 := h2.step (a := Label.request (.reservePlayerResource 7)) trivial rfl
  have h4 := h3.step (a := Label.request (.enableTTS true)) trivial rfl
  have h5 := h4.step (a := Label.event 0) (fun l s e hl _ _ _ f hf => by
    obtain rfl := Option.some.inj hl
    cases hf) rfl
  have h6 := h5.step (a := Label.fetch 0 1) (fun hpol => absurd rfl hpol) rfl
  have h7 := h6.step (a := Label.fetched 0 0) trivial rfl
  exact ⟨_, h7, by decide, gate_agrees h7⟩

/-- A forced fetch under the open policy before TTS is enabled: the session is
active from then on, and its client refuses to speak. -/
theorem gate_refuses_active :
    ∃ st, machine.Reachable st ∧ st.engine.state.holds 0 = true ∧
      (st.clients 0).speak st.gotResource 1 (some .ok) = .sessionNotActive ∧ ¬ st.Agrees := by
  refine ⟨_, Machine.reachable_of_exec (M := machine) (s := start .new ∅ .open 1 fun _ => true) ⟨_, _, _, _, _, rfl⟩
    [.createSession 0 7 "app", .created 0, .fetch 0 1, .fetched 0 0, .request (.enableTTS true),
      .connectionEvent 0] rfl, by decide, by decide, fun h => ?_⟩
  have hgot := (h rfl 0 _ _ _ rfl rfl rfl ⟨1, rfl⟩ rfl rfl rfl).1
  revert hgot
  decide

end GateSystem

end TTS
