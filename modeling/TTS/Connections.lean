import TTS.ManagerFrames

/-!
# Monitored connections

A client tells the engine the id of its new session over a socket of its own,
and when the socket hangs up the engine destroys that session. Requests come
on another channel, so a message may be read after any of them. While each is
read before its session is destroyed, the connection map lists the sessions
that were announced, each once.
-/

namespace TTS

open Monitor Transition

structure Connection where
  fd : Nat
  session : Nat
  message : Option Text
  sessionId : Nat
  attached : Bool
  isOpen : Bool

def Connection.close (c : Connection) : Connection := { c with attached := false, isOpen := false }

def EngineCall.closedFd (m : TTSManager) : EngineCall → Option Nat
  | .manager (.destroySession sessionId) => m.closedFd sessionId
  | _ => none

def closeFd (cs : List Connection) (fd : Option Nat) : List Connection :=
  cs.map fun c => if c.isOpen ∧ fd = some c.fd then c.close else c

theorem closeFd_none (cs : List Connection) : closeFd cs none = cs := by
  unfold closeFd
  simp

structure ConnectionSystem where
  engine : Monitor TTSManager
  connections : List Connection

namespace ConnectionSystem

inductive Label
  | call (c : EngineCall)
  /-- The engine accepts the socket on which the client of `session` sends its id. -/
  | accept (session fd : Nat)
  | dispatch (i : Nat) (hup : Bool)

variable (st : ConnectionSystem)

def call (policy : ResourceAllocationPolicy) (c : EngineCall) : Option ConnectionSystem :=
  ((TTS.engine policy).step st.engine c).map fun m => ⟨m, closeFd st.connections (c.closedFd st.engine.state)⟩

def accept (session fd : Nat) : Option ConnectionSystem :=
  match st.engine.state.objects[session]? with
  | none => none
  | some s =>
    if ∀ c ∈ st.connections, c.session ≠ session ∧ (c.isOpen → c.fd ≠ fd) then
      some { st with connections := st.connections ++ [⟨fd, session, some (natToString s.sessionId), 0, true, true⟩] }
    else none

def monitorClientsSourceIOCB (i : Nat) (c : Connection) : ConnectionSystem :=
  match c.message with
  | none => st
  | some buf =>
    let sessionId := (atol buf % 2 ^ 32).toNat
    { engine := { st.engine with state := { st.engine.state with
        connectionMap := st.engine.state.connectionMap.insert c.fd sessionId } }
      connections := st.connections.set i { c with message := none, sessionId := sessionId } }

def monitorClientsSourceDestroyedCB (policy : ResourceAllocationPolicy) (i : Nat) : Option ConnectionSystem :=
  match st.connections[i]? with
  | none => none
  | some c =>
    (st.call policy (.manager (.destroySession c.sessionId))).map fun st =>
      { st with connections := st.connections.modify i fun c => { c with attached := false } }

/-- The `dispatch` of `EventSource::sourceFuncs`: input before the hang-up. -/
def dispatch (policy : ResourceAllocationPolicy) (i : Nat) (hup : Bool) : Option ConnectionSystem :=
  match st.connections[i]? with
  | none => none
  | some c =>
    if c.attached && (c.message.isSome || hup) then
      let st := st.monitorClientsSourceIOCB i c
      if hup then st.monitorClientsSourceDestroyedCB policy i else some st
    else none

def machine (policy : ResourceAllocationPolicy) : Machine ConnectionSystem Label where
  init st := (TTS.engine policy).init st.engine ∧ st.connections = []
  step st
    | .call c => st.call policy c
    | .accept session fd => st.accept session fd
    | .dispatch i hup => st.dispatch policy i hup

/-- Entries name sessions in `m_sessionMap`, each once, and nothing is left of a
session whose socket is no longer watched. Another socket may have its descriptor. -/
structure Tidy : Prop where
  present : ∀ fd id : Nat, st.engine.state.connectionMap[fd]? = some id → id ∈ st.engine.state.sessionMap
  once : ValueMap.Distinct st.engine.state.connectionMap
  gone : ∀ c ∈ st.connections, c.message = none → c.attached = false → ¬ st.engine.state.Live c.session ∧
    (c.fd ∈ st.engine.state.connectionMap → ∃ c' ∈ st.connections, c'.attached = true ∧ c'.fd = c.fd)

/-- A message is read while its session is in `m_sessionMap`; a new session gets an unused id. -/
def InTime : Label → Prop
  | .call (.manager (.createSession appId _ _)) => (∀ p, st.engine.state.Live p → st.engine.state.appId p ≠ appId) →
      st.engine.state.nextSessionId ∉ st.engine.state.sessionMap
  | .dispatch i _ => ∀ c, st.connections[i]? = some c → c.message ≠ none → st.engine.state.Live c.session
  | _ => True

end ConnectionSystem

/-! ## The invariant -/

inductive Connection.Phase (m : TTSManager) (c : Connection) (id : Nat) : Prop
  | waiting (message : c.message = some (natToString id)) (attached : c.attached = true) (isOpen : c.isOpen = true)
  | announced (message : c.message = none) (sessionId : c.sessionId = id) (attached : c.attached = true)
      (isOpen : c.isOpen = true) (listed : m.connectionMap[c.fd]? = some id) (live : m.sessionMap[id]? = some c.session)
  | ended (message : c.message = none) (attached : c.attached = false) (isOpen : c.isOpen = false)
      (gone : ¬ m.Live c.session)

def Apart (cs : List Connection) : Prop :=
  ∀ (i j : Nat) (c c' : Connection), cs[i]? = some c → cs[j]? = some c' → i ≠ j →
    c.session ≠ c'.session ∧ (c.isOpen = true → c'.isOpen = true → c.fd ≠ c'.fd)

structure Followed (m : TTSManager) (cs : List Connection) : Prop where
  named : ∀ id p : Nat, m.sessionMap[id]? = some p → ∃ a, m.ids p = some (a, id)
  bounded : ∀ p a id : Nat, m.ids p = some (a, id) → id < 2 ^ 32
  phase : ∀ c ∈ cs, ∃ a id, m.ids c.session = some (a, id) ∧ c.Phase m id
  entry : ∀ fd id : Nat, m.connectionMap[fd]? = some id → ∃ c ∈ cs, c.fd = fd ∧ c.isOpen = true ∧ c.message = none
  apart : Apart cs

theorem Apart.eq_of_session {cs : List Connection} (h : Apart cs) {c c' : Connection} (hc : c ∈ cs) (hc' : c' ∈ cs)
    (hs : c.session = c'.session) : c = c' := by
  obtain ⟨i, hi⟩ := List.getElem?_of_mem hc
  obtain ⟨j, hj⟩ := List.getElem?_of_mem hc'
  by_cases hij : i = j
  · subst hij
    exact Option.some.inj (hi.symm.trans hj)
  · exact absurd hs (h i j c c' hi hj hij).1

theorem Apart.eq_of_fd {cs : List Connection} (h : Apart cs) {c c' : Connection} (hc : c ∈ cs) (hc' : c' ∈ cs)
    (ho : c.isOpen = true) (ho' : c'.isOpen = true) (hfd : c.fd = c'.fd) : c = c' := by
  obtain ⟨i, hi⟩ := List.getElem?_of_mem hc
  obtain ⟨j, hj⟩ := List.getElem?_of_mem hc'
  by_cases hij : i = j
  · subst hij
    exact Option.some.inj (hi.symm.trans hj)
  · exact absurd hfd ((h i j c c' hi hj hij).2 ho ho')

theorem Apart.inPlace {cs cs' : List Connection} (h : Apart cs)
    (hf : ∀ (i : Nat) (c' : Connection), cs'[i]? = some c' →
      ∃ c, cs[i]? = some c ∧ c'.session = c.session ∧ c'.fd = c.fd ∧ (c'.isOpen = true → c.isOpen = true)) :
    Apart cs' := by
  intro i j c c' hi hj hij
  obtain ⟨d, hd, hs, hfd, ho⟩ := hf i c hi
  obtain ⟨d', hd', hs', hfd', ho'⟩ := hf j c' hj
  obtain ⟨hne, hopen⟩ := h i j d d' hd hd' hij
  rw [hs, hs', hfd, hfd']
  exact ⟨hne, fun o o' => hopen (ho o) (ho' o')⟩

namespace Followed

variable {m m' : TTSManager} {cs : List Connection}

theorem live_ids (h : Followed m cs) {p a id : Nat} (hp : m.Live p) (hi : m.ids p = some (a, id)) :
    m.sessionMap[id]? = some p := by
  obtain ⟨i, hm⟩ := hp
  obtain ⟨b, hb⟩ := h.named i p hm
  have he : i = id := congrArg Prod.snd (Option.some.inj (hb.symm.trans hi))
  exact he ▸ hm

theorem listed (h : Followed m cs) {fd id : Nat} (he : m.connectionMap[fd]? = some id) :
    ∃ c ∈ cs, c.fd = fd ∧ c.isOpen = true ∧ c.attached = true ∧ c.message = none ∧
      m.sessionMap[id]? = some c.session := by
  obtain ⟨c, hc, rfl, ho, hm⟩ := h.entry fd id he
  obtain ⟨a, i, -, hphase⟩ := h.phase c hc
  cases hphase with
  | waiting message => rw [hm] at message; cases message
  | announced _ _ attached _ listed live =>
    obtain rfl := Option.some.inj (listed.symm.trans he)
    exact ⟨c, hc, rfl, ho, attached, hm, live⟩
  | ended _ _ isOpen => rw [ho] at isOpen; cases isOpen

theorem distinct (h : Followed m cs) : ValueMap.Distinct m.connectionMap := by
  intro fd fd' id hfd hfd'
  obtain ⟨c, hc, rfl, -, -, -, hs⟩ := h.listed hfd
  obtain ⟨c', hc', rfl, -, -, -, hs'⟩ := h.listed hfd'
  rw [h.apart.eq_of_session hc hc' (Option.some.inj (hs.symm.trans hs'))]

theorem same (h : Followed m cs) (hs : Framed m m') : Followed m' cs := by
  refine ⟨fun id p hp => ?_, fun p a id hi => h.bounded p a id ((hs.ids p).symm.trans hi), fun c hc => ?_,
    fun fd id he => ?_, h.apart⟩
  · rw [hs.sessionMap] at hp
    rw [hs.ids]
    exact h.named id p hp
  · obtain ⟨a, id, hi, hphase⟩ := h.phase c hc
    refine ⟨a, id, (hs.ids _).trans hi, ?_⟩
    cases hphase with
    | waiting message attached isOpen => exact .waiting message attached isOpen
    | announced message sessionId attached isOpen listed live =>
      exact .announced message sessionId attached isOpen (by rw [hs.connectionMap]; exact listed)
        (by rw [hs.sessionMap]; exact live)
    | ended message attached isOpen gone =>
      refine .ended message attached isOpen fun hl => gone ?_
      unfold TTSManager.Live at hl
      rw [hs.sessionMap] at hl
      exact hl
  · rw [hs.connectionMap] at he
    exact h.entry fd id he

theorem enter (h : Followed m cs) (a : Nat) (n : String) (hfresh : m.nextSessionId ∉ m.sessionMap) :
    Followed (m.enterSession a n) cs := by
  have hids : ∀ {p x}, m.ids p = some x → (m.enterSession a n).ids p = some x := by
    intro p x hx
    rw [TTSManager.ids_enterSession, if_neg (Nat.ne_of_lt (TTSManager.lt_of_ids hx))]
    exact hx
  refine ⟨fun id p hp => ?_, fun p b id hi => ?_, fun c hc => ?_, h.entry, h.apart⟩
  · rw [TTSManager.sessionMap_enterSession] at hp
    split at hp
    · obtain rfl := Option.some.inj hp
      exact ⟨a, by rw [TTSManager.ids_enterSession, if_pos rfl, ‹m.nextSessionId = id›]⟩
    · obtain ⟨b, hb⟩ := h.named id p hp
      exact ⟨b, hids hb⟩
  · rw [TTSManager.ids_enterSession] at hi
    split at hi
    · obtain rfl := congrArg Prod.snd (Option.some.inj hi)
      exact Nat.mod_lt _ (by decide)
    · exact h.bounded p b id hi
  · obtain ⟨b, id, hi, hphase⟩ := h.phase c hc
    refine ⟨b, id, hids hi, ?_⟩
    cases hphase with
    | waiting message attached isOpen => exact .waiting message attached isOpen
    | announced message sessionId attached isOpen listed live =>
      refine .announced message sessionId attached isOpen listed ?_
      rw [TTSManager.sessionMap_enterSession, if_neg, live]
      intro e
      exact hfresh ((mem_iff_getElem? _ _).mpr ⟨c.session, e ▸ live⟩)
    | ended message attached isOpen gone =>
      refine .ended message attached isOpen ?_
      rintro ⟨i, hi'⟩
      rw [TTSManager.sessionMap_enterSession] at hi'
      split at hi'
      · exact Nat.ne_of_lt (TTSManager.lt_of_ids hi) (Option.some.inj hi').symm
      · exact gone ⟨i, hi'⟩

/-! ### Destroying a session -/

theorem closedFd_iff (h : Followed m cs) {id : Nat} (hid : id ∈ m.sessionMap) (fd : Nat) :
    m.closedFd id = some fd ↔ m.connectionMap[fd]? = some id := by
  unfold TTSManager.closedFd
  rw [if_pos hid]
  constructor
  · intro hf
    obtain ⟨es, hes, rfl⟩ := Option.map_eq_some_iff.mp hf
    exact (ValueMap.firstWith_some hes).2
  · intro hf
    rw [h.distinct.firstWith hf]
    rfl

theorem connectionMap_withoutSession (m : TTSManager) (id fd : Nat) :
    (m.withoutSession id).connectionMap[fd]? = if m.closedFd id = some fd then none else m.connectionMap[fd]? := by
  unfold TTSManager.withoutSession
  cases m.closedFd id with
  | none => rfl
  | some fd' => simp only [Option.elim, getElem?_erase, Option.some.injEq]

theorem live_withoutSession (h : Followed m cs) {id p q : Nat} (hp : m.sessionMap[id]? = some p)
    (hq : (m.withoutSession id).Live q) : m.Live q ∧ q ≠ p := by
  obtain ⟨i, hi⟩ := hq
  have hi : (m.sessionMap.erase id)[i]? = some q := hi
  rw [getElem?_erase] at hi
  split at hi
  · cases hi
  · rename_i hne
    refine ⟨⟨i, hi⟩, ?_⟩
    rintro rfl
    obtain ⟨a, ha⟩ := h.named i q hi
    obtain ⟨b, hb⟩ := h.named id q hp
    exact hne (congrArg Prod.snd (Option.some.inj (hb.symm.trans ha)))

theorem withoutSession (h : Followed m cs) {id p : Nat} (hp : m.sessionMap[id]? = some p) :
    Followed (m.withoutSession id) (closeFd cs (m.closedFd id)) := by
  have hid : id ∈ m.sessionMap := (mem_iff_getElem? _ _).mpr ⟨p, hp⟩
  have hcl := h.closedFd_iff hid
  have hmap : ∀ fd : Nat, (m.withoutSession id).connectionMap[fd]? =
      if m.connectionMap[fd]? = some id then none else m.connectionMap[fd]? := by
    intro fd
    rw [connectionMap_withoutSession]
    simp only [hcl]
  have hsess : ∀ i : Nat, (m.withoutSession id).sessionMap[i]? = if id = i then none else m.sessionMap[i]? :=
    fun i => getElem?_erase _ _ _
  refine ⟨fun i q hq => ?_, h.bounded, fun c' hc' => ?_, fun fd i he => ?_, ?_⟩
  · rw [hsess] at hq
    split at hq
    · cases hq
    · exact h.named i q hq
  · obtain ⟨c, hc, rfl⟩ := List.mem_map.mp hc'
    obtain ⟨a, i, hi, hphase⟩ := h.phase c hc
    split
    · rename_i hclose
      obtain ⟨c₀, hc₀, hfd, ho, -, hm, hs⟩ := h.listed ((hcl c.fd).mp hclose.2)
      obtain rfl := h.apart.eq_of_fd hc₀ hc ho hclose.1 hfd
      refine ⟨a, i, hi, .ended hm rfl rfl fun hl => ?_⟩
      exact (h.live_withoutSession hp hl).2 (Option.some.inj (hs.symm.trans hp))
    · rename_i hclose
      refine ⟨a, i, hi, ?_⟩
      cases hphase with
      | waiting message attached isOpen => exact .waiting message attached isOpen
      | announced message sessionId attached isOpen listed live =>
        have hne : m.connectionMap[c.fd]? ≠ some id := fun e => hclose ⟨isOpen, (hcl c.fd).mpr e⟩
        have hid : id ≠ i := fun e => hne (e ▸ listed)
        refine .announced message sessionId attached isOpen ?_ ?_
        · rw [hmap, if_neg hne]
          exact listed
        · rw [hsess, if_neg hid]
          exact live
      | ended message attached isOpen gone =>
        exact .ended message attached isOpen fun hl => gone (h.live_withoutSession hp hl).1
  · rw [hmap] at he
    split at he
    · cases he
    · rename_i hne
      obtain ⟨c, hc, rfl, ho, hm⟩ := h.entry fd i he
      refine ⟨c, List.mem_map.mpr ⟨c, hc, if_neg fun hclose => hne ((hcl c.fd).mp hclose.2)⟩, rfl, ho, hm⟩
  · refine h.apart.inPlace fun i c' hi => ?_
    simp only [closeFd, List.getElem?_map, Option.map_eq_some_iff] at hi
    obtain ⟨c, hc, rfl⟩ := hi
    refine ⟨c, hc, ?_⟩
    split
    · exact ⟨rfl, rfl, fun ho => nomatch ho⟩
    · exact ⟨rfl, rfl, fun ho => ho⟩

theorem destroySession (h : Followed m cs) (id : Nat) :
    Followed (m.destroySession id).2 (closeFd cs (m.closedFd id)) := by
  cases hp : m.sessionMap[id]? with
  | none =>
    have hid : id ∉ m.sessionMap := fun hm => by
      obtain ⟨p, hm⟩ := (mem_iff_getElem? _ _).mp hm
      rw [hp] at hm
      cases hm
    rw [TTSManager.destroySession_of_unknown hp, TTSManager.closedFd, if_neg hid, closeFd_none]
    exact h
  | some p => exact (h.withoutSession hp).same (TTSManager.destroySession_sessions hp)

theorem createSession (h : Followed m cs) (a : Nat) (n : String) (keys : List String)
    (hfresh : (∀ p, m.Live p → m.appId p ≠ a) → m.nextSessionId ∉ m.sessionMap) :
    Followed (ManagerOp.effect m (.createSession a n keys)) cs := by
  rcases m.effect_createSession a n keys with he | ⟨hno, hs⟩
  · rw [he]
    exact h
  · exact (h.enter a n (hfresh hno)).same hs

/-! ### Sockets -/

theorem accept (h : Followed m cs) {session fd : Nat} {s : TTSSession} (hs : m.objects[session]? = some s)
    (hfree : ∀ c ∈ cs, c.session ≠ session ∧ (c.isOpen = true → c.fd ≠ fd)) :
    Followed m (cs ++ [⟨fd, session, some (natToString s.sessionId), 0, true, true⟩]) := by
  refine ⟨h.named, h.bounded, fun c hc => ?_, fun fd' id he => ?_, ?_⟩
  · rcases List.mem_append.mp hc with hc | hc
    · exact h.phase c hc
    · obtain rfl := List.mem_singleton.mp hc
      refine ⟨s.appId, s.sessionId, ?_, .waiting rfl rfl rfl⟩
      rw [TTSManager.ids, hs]
      rfl
  · obtain ⟨c, hc, hrest⟩ := h.entry fd' id he
    exact ⟨c, List.mem_append_left _ hc, hrest⟩
  · intro i j c c' hi hj hij
    rw [List.getElem?_append] at hi hj
    have hlast : ∀ {k : Nat} {d : Connection}, ¬ k < cs.length →
        [(⟨fd, session, some (natToString s.sessionId), 0, true, true⟩ : Connection)][k - cs.length]? = some d →
        k = cs.length ∧ d.session = session ∧ d.fd = fd := by
      intro k d hk hd
      rw [List.getElem?_singleton] at hd
      split at hd
      · obtain rfl := Option.some.inj hd
        exact ⟨by omega, rfl, rfl⟩
      · cases hd
    split at hi <;> split at hj
    · exact h.apart i j c c' hi hj hij
    · obtain ⟨-, hs, hfd⟩ := hlast ‹_› hj
      obtain ⟨hne, hopen⟩ := hfree c (List.mem_of_getElem? hi)
      rw [hs, hfd]
      exact ⟨hne, fun ho _ => hopen ho⟩
    · obtain ⟨-, hs, hfd⟩ := hlast ‹_› hi
      obtain ⟨hne, hopen⟩ := hfree c' (List.mem_of_getElem? hj)
      rw [hs, hfd]
      exact ⟨hne.symm, fun _ ho => (hopen ho).symm⟩
    · exact absurd ((hlast ‹_› hi).1.trans (hlast ‹_› hj).1.symm) hij

theorem read_sessionId (h : Followed m cs) {p a id : Nat} (hi : m.ids p = some (a, id)) :
    (atol (natToString id) % 2 ^ 32).toNat = id := by
  have hlt := h.bounded p a id hi
  rw [atol_natToString]
  omega

theorem announce (h : Followed m cs) {i : Nat} {c : Connection} {a id : Nat} (hc : cs[i]? = some c)
    (hi : m.ids c.session = some (a, id)) (hopen : c.isOpen = true) (hatt : c.attached = true)
    (hm : c.message ≠ none) (hsess : m.sessionMap[id]? = some c.session) :
    Followed { m with connectionMap := m.connectionMap.insert c.fd id }
      (cs.set i { c with message := none, sessionId := id }) := by
  have hmap : ∀ fd : Nat, (m.connectionMap.insert c.fd id)[fd]? = if c.fd = fd then some id else m.connectionMap[fd]? :=
    fun fd => getElem?_insert _ _ _ _
  have hself : { c with message := none, sessionId := id } ∈ cs.set i { c with message := none, sessionId := id } := by
    obtain ⟨hlt, -⟩ := List.getElem?_eq_some_iff.mp hc
    exact List.mem_set hlt _
  have hother : ∀ c' ∈ cs, c' ≠ c → c' ∈ cs.set i { c with message := none, sessionId := id } := by
    intro c' hc' hne
    obtain ⟨j, hj⟩ := List.getElem?_of_mem hc'
    have hij : i ≠ j := by
      rintro rfl
      exact hne (Option.some.inj (hj.symm.trans hc))
    apply List.mem_of_getElem? (i := j)
    rw [List.getElem?_set_ne hij]
    exact hj
  refine ⟨h.named, h.bounded, fun c' hc' => ?_, fun fd id' he => ?_, ?_⟩
  · obtain ⟨j, hj⟩ := List.getElem?_of_mem hc'
    rw [List.getElem?_set] at hj
    split at hj
    · split at hj
      · obtain rfl := Option.some.inj hj
        exact ⟨a, id, hi, .announced rfl rfl hatt hopen ((hmap c.fd).trans (if_pos rfl)) hsess⟩
      · cases hj
    · rename_i hij
      have hmem := List.mem_of_getElem? hj
      obtain ⟨b, id', hi', hphase⟩ := h.phase c' hmem
      refine ⟨b, id', hi', ?_⟩
      cases hphase with
      | waiting message attached isOpen => exact .waiting message attached isOpen
      | announced message sessionId attached isOpen listed live =>
        have hne : c.fd ≠ c'.fd := (h.apart i j c c' hc hj hij).2 hopen isOpen
        exact .announced message sessionId attached isOpen ((hmap c'.fd).trans ((if_neg hne).trans listed)) live
      | ended message attached isOpen gone => exact .ended message attached isOpen gone
  · have he : (m.connectionMap.insert c.fd id)[fd]? = some id' := he
    rw [hmap] at he
    split at he
    · rename_i hfd
      exact ⟨_, hself, hfd, hopen, rfl⟩
    · obtain ⟨c', hc', hfd, ho, hm'⟩ := h.entry fd id' he
      refine ⟨c', hother c' hc' ?_, hfd, ho, hm'⟩
      rintro rfl
      exact hm hm'
  · refine h.apart.inPlace fun j c' hj => ?_
    rw [List.getElem?_set] at hj
    split at hj
    · rename_i hij
      subst hij
      split at hj
      · obtain rfl := Option.some.inj hj
        exact ⟨c, hc, rfl, rfl, fun ho => ho⟩
      · cases hj
    · exact ⟨c', hj, rfl, rfl, fun ho => ho⟩

end Followed

namespace ConnectionSystem

variable {st st' : ConnectionSystem}

theorem monitorClientsSourceIOCB_followed (h : Followed st.engine.state st.connections) {i : Nat} {c : Connection}
    (hc : st.connections[i]? = some c) (hlive : c.message ≠ none → st.engine.state.Live c.session) :
    Followed (st.monitorClientsSourceIOCB i c).engine.state (st.monitorClientsSourceIOCB i c).connections := by
  unfold monitorClientsSourceIOCB
  split
  · exact h
  · rename_i buf hbuf
    have hm : c.message ≠ none := by
      rw [hbuf]
      exact fun e => nomatch e
    obtain ⟨a, id, hi, hphase⟩ := h.phase c (List.mem_of_getElem? hc)
    have hsess := h.live_ids (hlive hm) hi
    cases hphase with
    | waiting message attached isOpen =>
      obtain rfl := Option.some.inj (hbuf.symm.trans message)
      simp only [h.read_sessionId hi]
      exact h.announce hc hi isOpen attached hm hsess
    | announced message | ended message => exact absurd message hm

theorem monitorClientsSourceIOCB_read {i : Nat} {c : Connection} (hc : st.connections[i]? = some c) :
    ∃ c', (st.monitorClientsSourceIOCB i c).connections[i]? = some c' ∧ c'.message = none ∧ c'.attached = c.attached := by
  obtain ⟨hlt, -⟩ := List.getElem?_eq_some_iff.mp hc
  unfold monitorClientsSourceIOCB
  split
  · exact ⟨c, hc, ‹_›, rfl⟩
  · exact ⟨_, List.getElem?_set_self hlt, rfl, rfl⟩

theorem destroySession_step {policy : ResourceAllocationPolicy} {m m' : Monitor TTSManager} {id : Nat}
    (h : (TTS.engine policy).step m (.manager (.destroySession id)) = some m') :
    m'.state = (m.state.destroySession id).2 := by
  obtain ⟨held, m⟩ := m
  cases held with
  | true => cases h
  | false =>
    obtain rfl := Option.some.inj h
    rfl

theorem call_followed {policy : ResourceAllocationPolicy} {c : EngineCall}
    (h : Followed st.engine.state st.connections) (ho : st.InTime (.call c)) (hs : st.call policy c = some st') :
    Followed st'.engine.state st'.connections := by
  obtain ⟨m', hm', rfl⟩ := Option.map_eq_some_iff.mp hs
  by_cases hd : ∃ id, c = .manager (.destroySession id)
  · obtain ⟨id, rfl⟩ := hd
    simp only [EngineCall.closedFd]
    rw [destroySession_step hm']
    exact h.destroySession id
  · have hnone : c.closedFd st.engine.state = none := by
      unfold EngineCall.closedFd
      split
      · exact absurd ⟨_, rfl⟩ hd
      · rfl
    simp only [hnone, closeFd_none]
    rcases engine_step hm' with rfl | ⟨op, rfl, he⟩ | ⟨p, s, call, rfl, -, he⟩
    · exact h
    · rw [he]
      by_cases hcreate : ∃ a n keys, op = .createSession a n keys
      · obtain ⟨a, n, keys, rfl⟩ := hcreate
        exact h.createSession a n keys ho
      · refine h.same (effect_framed _ (fun a n keys e => hcreate ⟨a, n, keys, e⟩) fun id e => hd ⟨id, ?_⟩)
        rw [e]
    · rw [he]
      exact h.same (TTSManager.framed_callSession _ p s call)

theorem monitorClientsSourceDestroyedCB_followed {policy : ResourceAllocationPolicy} {i : Nat} {c : Connection}
    (h : Followed st.engine.state st.connections) (hc : st.connections[i]? = some c) (hm : c.message = none)
    (hatt : c.attached = true) (hs : st.monitorClientsSourceDestroyedCB policy i = some st') :
    Followed st'.engine.state st'.connections := by
  unfold monitorClientsSourceDestroyedCB at hs
  rw [hc] at hs
  obtain ⟨st₁, hcall, rfl⟩ := Option.map_eq_some_iff.mp hs
  have h₁ := call_followed (c := .manager (.destroySession c.sessionId)) h trivial hcall
  -- the socket was closed with its session
  have hget : st₁.connections[i]? = some c.close := by
    obtain ⟨m', -, rfl⟩ := Option.map_eq_some_iff.mp hcall
    obtain ⟨a, id, -, hphase⟩ := h.phase c (List.mem_of_getElem? hc)
    cases hphase with
    | waiting message => rw [hm] at message; cases message
    | announced _ sessionId _ isOpen listed live =>
      have hfd := (h.closedFd_iff ((mem_iff_getElem? _ _).mpr ⟨_, live⟩) c.fd).mpr listed
      rw [← sessionId] at hfd
      simp only [closeFd, EngineCall.closedFd, List.getElem?_map, hc, Option.map_some, hfd, isOpen]
      simp
    | ended _ attached => rw [hatt] at attached; cases attached
  have hclosed : st₁.connections.modify i (fun c => { c with attached := false }) = st₁.connections := by
    apply List.ext_getElem?
    intro j
    rw [List.getElem?_modify]
    by_cases hij : i = j
    · subst hij
      rw [hget]
      simp [Connection.close]
    · simp [hij]
  simp only [hclosed]
  exact h₁

theorem step_followed {policy : ResourceAllocationPolicy} {a : Label} (h : Followed st.engine.state st.connections)
    (ho : st.InTime a) (hs : (machine policy).step st a = some st') : Followed st'.engine.state st'.connections := by
  cases a with
  | call c => exact call_followed h ho hs
  | accept session fd =>
    simp only [machine, ConnectionSystem.accept] at hs
    split at hs
    · cases hs
    · rename_i s hsess
      split at hs
      · rename_i hfree
        obtain rfl := Option.some.inj hs
        exact h.accept hsess hfree
      · cases hs
  | dispatch i hup =>
    simp only [machine, ConnectionSystem.dispatch] at hs
    split at hs
    · cases hs
    · rename_i c hc
      split at hs
      · rename_i hready
        have h₁ := monitorClientsSourceIOCB_followed h hc (ho c hc)
        split at hs
        · obtain ⟨c', hc', hm, hatt⟩ := monitorClientsSourceIOCB_read hc
          rw [Bool.and_eq_true] at hready
          exact monitorClientsSourceDestroyedCB_followed h₁ hc' hm (hatt.trans hready.1) hs
        · obtain rfl := Option.some.inj hs
          exact h₁
      · cases hs

theorem new_followed (policy : ResourceAllocationPolicy) (configuration : TTSConfiguration) (others : Others)
    (maxFailures : Nat) : Followed (.new configuration others policy maxFailures) [] := by
  have hnew : Framed (.new configuration others .invalid maxFailures)
      (.new configuration others policy maxFailures) := by
    cases policy <;> exact framed_of_same rfl rfl rfl rfl rfl
  refine Followed.same ⟨fun id p hp => ?_, fun p a id hi => ?_, fun c hc => ?_, fun fd id he => ?_, ?_⟩ hnew
  · have hp : (∅ : Std.TreeMap Nat Nat)[id]? = some p := hp
    rw [Std.TreeMap.getElem?_emptyc] at hp
    cases hp
  · cases hi
  · cases hc
  · have he : (∅ : Std.TreeMap Nat Nat)[fd]? = some id := he
    rw [Std.TreeMap.getElem?_emptyc] at he
    cases he
  · intro i j c c' hc
    cases hc

theorem tidy_of_followed (h : Followed st.engine.state st.connections) : st.Tidy := by
  refine ⟨fun fd id he => ?_, h.distinct, fun c hc hm hatt => ⟨?_, fun hfd => ?_⟩⟩
  · obtain ⟨c, -, -, -, -, -, hs⟩ := h.listed he
    exact (mem_iff_getElem? _ _).mpr ⟨_, hs⟩
  · obtain ⟨a, id, -, hphase⟩ := h.phase c hc
    cases hphase with
    | waiting message => rw [hm] at message; cases message
    | announced _ _ attached => rw [hatt] at attached; cases attached
    | ended _ _ _ gone => exact gone
  · obtain ⟨id, hid⟩ := (mem_iff_getElem? _ _).mp hfd
    obtain ⟨c', hc', hfd', -, hatt', -, -⟩ := h.listed hid
    exact ⟨c', hc', hatt', hfd'⟩

theorem reachable_followed {policy : ResourceAllocationPolicy} (h : (machine policy).ReachableIf InTime st) :
    Followed st.engine.state st.connections := by
  refine Machine.ReachableIf.invariant
    (I := fun st : ConnectionSystem => Followed st.engine.state st.connections) ?_ ?_ h
  · rintro st ⟨⟨configuration, others, maxFailures, hm⟩, hcs⟩
    rw [hm, hcs]
    exact new_followed policy configuration others maxFailures
  · intro st a st' hf ho hs
    exact step_followed hf ho hs

/-- **The connection map follows the sessions.** In every run in which each message is
read while its session is in `m_sessionMap`, under any policy. -/
theorem connections_tidy {policy : ResourceAllocationPolicy} (h : (machine policy).ReachableIf InTime st) : st.Tidy :=
  tidy_of_followed (reachable_followed h)

def start : ConnectionSystem := ⟨⟨false, .new .new ∅ .open 1⟩, []⟩

theorem start_init : (machine .open).init start := ⟨⟨.new, ∅, 1, rfl⟩, rfl⟩

/-- One session is destroyed by a request, another by the hang-up of its socket. -/
theorem connections_tidy_hangUp :
    ∃ st, (machine .open).exec start [.call (.manager (.createSession 1 "a" [])), .accept 0 5, .dispatch 0 false,
        .call (.manager (.createSession 2 "b" [])), .accept 1 6, .call (.manager (.destroySession 1)),
        .dispatch 1 true] = some st ∧
      st.engine.state.connectionMap.toList = [] ∧ st.Tidy := by
  refine ⟨_, rfl, by decide, ?_⟩
  have h0 : (machine .open).ReachableIf InTime start := .init start_init
  have h1 := h0.step (a := Label.call (.manager (.createSession 1 "a" []))) (fun _ => by decide) rfl
  have h2 := h1.step (a := Label.accept 0 5) trivial rfl
  have h3 := h2.step (a := Label.dispatch 0 false) (fun c hc _ => by cases hc; exact ⟨1, by decide⟩) rfl
  have h4 := h3.step (a := Label.call (.manager (.createSession 2 "b" []))) (fun _ => by decide) rfl
  have h5 := h4.step (a := Label.accept 1 6) trivial rfl
  have h6 := h5.step (a := Label.call (.manager (.destroySession 1))) trivial rfl
  have h7 := h6.step (a := Label.dispatch 1 true) (fun c hc _ => by cases hc; exact ⟨2, by decide⟩) rfl
  exact connections_tidy h7

theorem late_message_untidy {policy : ResourceAllocationPolicy} {i : Nat} {hup : Bool} {c : Connection} {buf : Text}
    (hc : st.connections[i]? = some c) (hm : c.message = some buf)
    (hgone : st.engine.state.sessionMap[(atol buf % 2 ^ 32).toNat]? = none)
    (hs : (machine policy).step st (.dispatch i hup) = some st') : ¬ st'.Tidy := by
  obtain ⟨hlt, -⟩ := List.getElem?_eq_some_iff.mp hc
  generalize hid : (atol buf % 2 ^ 32).toNat = id at hgone
  -- the entry that reading the message makes
  have hentry : ∀ st' : ConnectionSystem,
      st'.engine.state.connectionMap = st.engine.state.connectionMap.insert c.fd id →
      st'.engine.state.sessionMap = st.engine.state.sessionMap → ¬ st'.Tidy := by
    intro st' hconn hsess h
    have hmem := h.present c.fd id (by rw [hconn, getElem?_insert, if_pos rfl])
    obtain ⟨p, hp⟩ := (mem_iff_getElem? _ _).mp hmem
    rw [hsess, hgone] at hp
    cases hp
  simp only [machine, ConnectionSystem.dispatch, hc, monitorClientsSourceIOCB, hm, hid] at hs
  split at hs
  · split at hs
    · simp only [monitorClientsSourceDestroyedCB, List.getElem?_set_self hlt, call] at hs
      obtain ⟨st₁, hcall, rfl⟩ := Option.map_eq_some_iff.mp hs
      obtain ⟨m', hm', rfl⟩ := Option.map_eq_some_iff.mp hcall
      have he := (destroySession_step hm').trans (TTSManager.destroySession_of_unknown hgone)
      exact hentry _ (by simp only [he]) (by simp only [he])
    · obtain rfl := Option.some.inj hs
      exact hentry _ rfl rfl
  · cases hs

/-- `destroySession` is handled before the message the client sent earlier. -/
theorem message_after_destroySession : ∃ st, (machine .open).Reachable st ∧ ¬ st.Tidy := by
  have hrun : (machine .open).exec start [.call (.manager (.createSession 1 "a" [])), .accept 0 5,
      .call (.manager (.destroySession 1)), .dispatch 0 false] = some _ := rfl
  refine ⟨_, Machine.reachable_of_exec start_init _ hrun, fun h => ?_⟩
  have hp := h.present 5 1 (by decide)
  exact absurd hp (by decide)

end ConnectionSystem

end TTS
