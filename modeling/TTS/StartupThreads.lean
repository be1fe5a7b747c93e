import TTS.History
import TTS.Mutex

/-!
# The startup threads of a process

Every RtRemote client has a thread in `connectToTTSManager`. The threads share
the static mutex and the static `sTimeOut`, the seconds that are left for an
engine to be started again. The disconnect callback comes on another thread
and the destructor runs on a third, without a mutex in common with this one;
each access to what they share is a step.
-/

namespace TTS

open Transition

/-- Where a client is in its constructor and its thread in `connectToTTSManager`. -/
inductive StartupPc
  -- `findRemoteObject` in the constructor
  | create
  | created
  | loop
  | lock
  | find
  | found
  | connect
  | announce
  | monitor
  | relock
  | poll
  | sleep
  | decide
  | ended
  deriving DecidableEq, Repr

/-- `sMutex` is held here. -/
@[simp] def StartupPc.critical : StartupPc → Bool
  | .find | .found | .connect | .announce | .poll | .sleep | .decide => true
  | _ => false

/-- Where `rtServerCrashCB` is after its call of `onTTSServerClosed`, named
after what it does next. -/
inductive ClosingPc
  | idle
  | read
  | clear (tconnected : Bool)
  | tell
  | drop
  deriving DecidableEq, Repr

/-- Where the destructor is. -/
inductive DestructorPc
  | alive
  | clear (tconnected : Bool)
  | unregister
  | drop
  | quit
  | join
  deriving DecidableEq, Repr

/-- `sMutex` and `sTimeOut`. -/
structure StartupStatics where
  mutex : Option Nat
  timeOut : Nat
  deriving DecidableEq, Repr

/-- What a client, its thread and the callbacks into it share. `manager` and
`callback` are that the pointers are set, `registered` that the disconnect
callback will come when the engine located last goes. -/
structure StartupClient where
  pc : StartupPc
  manager : Bool
  registered : Bool
  connected : Bool
  serverCrashed : Bool
  quitStartupThread : Bool
  callback : Bool
  closing : ClosingPc
  destructor : DestructorPc
  deriving DecidableEq, Repr

namespace StartupClient

inductive Action
  /-- The constructor or the thread goes on; `answer` is that of `rtRemoteLocateObject` or `isProgramRunning`. -/
  | thread (answer : Bool)
  /-- The engine goes, and `rtServerCrashCB` is called. -/
  | crash
  | closing
  | destroy
  | quit
  deriving DecidableEq, Repr

def new (callback : Bool) : StartupClient := ⟨.create, false, false, false, false, false, callback, .idle, .alive⟩

def threadStep (z : StartupStatics) (c : Nat) (s : StartupClient) (answer : Bool) :
    Option (StartupStatics × StartupClient) :=
  match s.pc with
  | .create =>
    some (z, if answer then { s with registered := true, pc := .created } else { s with pc := .loop })
  | .created => some (z, { s with manager := true, pc := .loop })
  | .loop => some (z, { s with pc := if s.quitStartupThread then .ended else .lock })
  | .lock => if z.mutex = none then some ({ z with mutex := some c }, { s with pc := .find }) else none
  | .find =>
    if s.manager then some (z, { s with pc := .connect })
    else if answer then some (z, { s with registered := true, pc := .found })
    else some ({ z with mutex := none }, { s with pc := .ended })
  | .found => some (z, { s with manager := true, pc := .connect })
  | .connect => some (z, { s with connected := true, pc := .announce })
  | .announce => some ({ z with mutex := none }, { s with pc := .monitor })
  | .monitor =>
    if s.serverCrashed then some (z, { s with pc := .relock })
    else if s.quitStartupThread then some (z, { s with pc := .ended })
    else none
  | .relock => if z.mutex = none then some ({ z with mutex := some c }, { s with pc := .poll }) else none
  | .poll =>
    some (z, { s with pc := if !s.quitStartupThread && !answer && z.timeOut != 0 then .sleep else .decide })
  | .sleep => some ({ z with timeOut := (z.timeOut + 255) % 256 }, { s with pc := .poll })
  | .decide =>
    if s.quitStartupThread then some ({ z with mutex := none }, { s with pc := .loop })
    else if z.timeOut = 0 then some ({ z with mutex := none }, { s with quitStartupThread := true, pc := .loop })
    else some (⟨none, if z.timeOut < 30 then 30 else z.timeOut⟩, { s with serverCrashed := false, pc := .loop })
  | .ended => none

/-- `cleanupConnection(true)`, up to its notification. -/
def closingStep (s : StartupClient) : Option StartupClient :=
  match s.closing with
  | .idle => none
  | .read => some { s with closing := .clear s.connected }
  | .clear tconnected => some { s with connected := false, closing := if tconnected then .tell else .drop }
  | .tell => some { s with serverCrashed := true, closing := .drop }
  | .drop => some { s with manager := false, closing := .idle }

/-- `cleanupConnection()` in the destructor, which comes after the constructor. -/
def destructorStep (s : StartupClient) : Option StartupClient :=
  match s.destructor with
  | .alive =>
    if s.pc = .create ∨ s.pc = .created then none else some { s with destructor := .clear s.connected }
  | .clear tconnected =>
    some { s with connected := false, destructor := if tconnected then .unregister else .drop }
  | .unregister => some { s with registered := false, destructor := .drop }
  | .drop => some { s with manager := false, destructor := .quit }
  | .quit | .join => none

def step (z : StartupStatics) (c : Nat) (s : StartupClient) : Action → Option (StartupStatics × StartupClient)
  | .thread answer => s.threadStep z c answer
  | .crash =>
    if s.registered ∧ s.closing = .idle then
      some (z, { s with registered := false, closing := if s.callback then .read else .idle })
    else none
  | .closing => s.closingStep.map fun s' => (z, s')
  | .destroy => s.destructorStep.map fun s' => (z, s')
  | .quit =>
    if s.destructor = .quit then some (z, { s with quitStartupThread := true, destructor := .join }) else none

end StartupClient

inductive StartupEvent
  | slept (c : Nat)
  | resumed (c : Nat)
  | gaveUp (c : Nat)
  deriving DecidableEq, Repr

/-- What a step does about an engine that is awaited. -/
def StartupClient.events (z : StartupStatics) (c : Nat) (s : StartupClient) : StartupClient.Action → List StartupEvent
  | .thread _ =>
    match s.pc with
    | .sleep => [.slept c]
    | .decide => if s.quitStartupThread then [] else if z.timeOut = 0 then [.gaveUp c] else [.resumed c]
    | _ => []
  | _ => []

structure ClientProcess where
  statics : StartupStatics
  clients : Nat → Option StartupClient

namespace ClientProcess

inductive Label
  | construct (c : Nat) (callback : Bool)
  | client (c : Nat) (a : StartupClient.Action)
  deriving DecidableEq, Repr

def setClient (p : ClientProcess) (c : Nat) (s : StartupClient) : Nat → Option StartupClient :=
  fun d => if d = c then some s else p.clients d

def step (p : ClientProcess) : Label → Option ClientProcess
  | .construct c callback =>
    if (p.clients c).isSome then none else some { p with clients := p.setClient c (.new callback) }
  | .client c a =>
    (p.clients c).bind fun s => (s.step p.statics c a).map fun r => ⟨r.1, p.setClient c r.2⟩

def start : ClientProcess := ⟨⟨none, 30⟩, fun _ => none⟩

def machine : Machine ClientProcess Label where
  init p := p = start
  step := step

def events (p : ClientProcess) : Label → List StartupEvent
  | .construct _ _ => []
  | .client c a => (p.clients c).elim [] fun s => s.events p.statics c a

@[simp] theorem setClient_self (p : ClientProcess) (c : Nat) (s : StartupClient) : p.setClient c s c = some s := by
  simp [setClient]

theorem setClient_eq_some {p : ClientProcess} {c d : Nat} {s t : StartupClient} (h : p.setClient c s d = some t) :
    (d = c ∧ t = s) ∨ (d ≠ c ∧ p.clients d = some t) := by
  unfold setClient at h
  split at h
  next hd => exact .inl ⟨hd, (Option.some.inj h).symm⟩
  next hd => exact .inr ⟨hd, h⟩

end ClientProcess

/-! ## What a step does -/

namespace StartupClient

/-- A step of the constructor or the thread. -/
inductive Moves (z : StartupStatics) (c : Nat) (s : StartupClient) : Bool → StartupStatics → StartupClient → Prop
  | create (hpc : s.pc = .create) : Moves z c s true z { s with registered := true, pc := .created }
  | createNone (hpc : s.pc = .create) : Moves z c s false z { s with pc := .loop }
  | created {b} (hpc : s.pc = .created) : Moves z c s b z { s with manager := true, pc := .loop }
  | again {b} (hpc : s.pc = .loop) (hquit : s.quitStartupThread = false) : Moves z c s b z { s with pc := .lock }
  | leave {b} (hpc : s.pc = .loop) (hquit : s.quitStartupThread = true) : Moves z c s b z { s with pc := .ended }
  | lock {b} (hpc : s.pc = .lock) (hfree : z.mutex = none) :
    Moves z c s b { z with mutex := some c } { s with pc := .find }
  | located {b} (hpc : s.pc = .find) (hmanager : s.manager = true) : Moves z c s b z { s with pc := .connect }
  | find (hpc : s.pc = .find) (hmanager : s.manager = false) :
    Moves z c s true z { s with registered := true, pc := .found }
  | notFound (hpc : s.pc = .find) (hmanager : s.manager = false) :
    Moves z c s false { z with mutex := none } { s with pc := .ended }
  | found {b} (hpc : s.pc = .found) : Moves z c s b z { s with manager := true, pc := .connect }
  | connect {b} (hpc : s.pc = .connect) : Moves z c s b z { s with connected := true, pc := .announce }
  | announce {b} (hpc : s.pc = .announce) : Moves z c s b { z with mutex := none } { s with pc := .monitor }
  | crashed {b} (hpc : s.pc = .monitor) (hcrash : s.serverCrashed = true) : Moves z c s b z { s with pc := .relock }
  | quit {b} (hpc : s.pc = .monitor) (hcrash : s.serverCrashed = false) (hquit : s.quitStartupThread = true) :
    Moves z c s b z { s with pc := .ended }
  | relock {b} (hpc : s.pc = .relock) (hfree : z.mutex = none) :
    Moves z c s b { z with mutex := some c } { s with pc := .poll }
  | wait (hpc : s.pc = .poll) (hquit : s.quitStartupThread = false) (htime : z.timeOut ≠ 0) :
    Moves z c s false z { s with pc := .sleep }
  | done {b} (hpc : s.pc = .poll) (hdone : s.quitStartupThread = true ∨ b = true ∨ z.timeOut = 0) :
    Moves z c s b z { s with pc := .decide }
  | sleep {b} (hpc : s.pc = .sleep) : Moves z c s b { z with timeOut := (z.timeOut + 255) % 256 } { s with pc := .poll }
  | stopped {b} (hpc : s.pc = .decide) (hquit : s.quitStartupThread = true) :
    Moves z c s b { z with mutex := none } { s with pc := .loop }
  | giveUp {b} (hpc : s.pc = .decide) (hquit : s.quitStartupThread = false) (htime : z.timeOut = 0) :
    Moves z c s b { z with mutex := none } { s with quitStartupThread := true, pc := .loop }
  | resume {b} (hpc : s.pc = .decide) (hquit : s.quitStartupThread = false) (htime : z.timeOut ≠ 0) :
    Moves z c s b ⟨none, if z.timeOut < 30 then 30 else z.timeOut⟩ { s with serverCrashed := false, pc := .loop }

theorem threadStep_moves {z z' : StartupStatics} {c : Nat} {s s' : StartupClient} {answer : Bool}
    (h : s.threadStep z c answer = some (z', s')) : Moves z c s answer z' s' := by
  unfold threadStep at h
  split at h
  next hpc =>
    cases h
    cases answer with
    | true => exact .create hpc
    | false => exact .createNone hpc
  next hpc => cases h; exact .created hpc
  next hpc =>
    cases h
    split
    next hq => exact .leave hpc hq
    next hq => exact .again hpc (by simpa using hq)
  next hpc =>
    split at h
    next hfree => cases h; exact .lock hpc hfree
    next => cases h
  next hpc =>
    split at h
    next hm => cases h; exact .located hpc hm
    next hm =>
      split at h
      next ha => cases h; subst ha; exact .find hpc (by simpa using hm)
      next ha =>
        cases h
        obtain rfl : answer = false := by simpa using ha
        exact .notFound hpc (by simpa using hm)
  next hpc => cases h; exact .found hpc
  next hpc => cases h; exact .connect hpc
  next hpc => cases h; exact .announce hpc
  next hpc =>
    split at h
    next hc => cases h; exact .crashed hpc hc
    next hc =>
      split at h
      next hq => cases h; exact .quit hpc (by simpa using hc) hq
      next => cases h
  next hpc =>
    split at h
    next hfree => cases h; exact .relock hpc hfree
    next => cases h
  next hpc =>
    cases h
    split
    next hw =>
      simp only [Bool.and_eq_true, Bool.not_eq_eq_eq_not, Bool.not_true, bne_iff_ne] at hw
      obtain ⟨⟨hq, rfl⟩, ht⟩ := hw
      exact .wait hpc hq ht
    next hw =>
      refine .done hpc ?_
      simp only [Bool.and_eq_true, Bool.not_eq_eq_eq_not, Bool.not_true, bne_iff_ne, not_and, not_not] at hw
      by_cases hq : s.quitStartupThread = true
      · exact .inl hq
      · by_cases ha : answer = true
        · exact .inr (.inl ha)
        · exact .inr (.inr (hw ⟨by simpa using hq, by simpa using ha⟩))
  next hpc => cases h; exact .sleep hpc
  next hpc =>
    split at h
    next hq => cases h; exact .stopped hpc hq
    next hq =>
      split at h
      next ht => cases h; exact .giveUp hpc (by simpa using hq) ht
      next ht => cases h; exact .resume hpc (by simpa using hq) ht
  next => cases h

/-- A step of the disconnect callback. -/
inductive Closes (s : StartupClient) : StartupClient → Prop
  | read (hc : s.closing = .read) : Closes s { s with closing := .clear s.connected }
  | clear {tconnected} (hc : s.closing = .clear tconnected) :
    Closes s { s with connected := false, closing := if tconnected then .tell else .drop }
  | tell (hc : s.closing = .tell) : Closes s { s with serverCrashed := true, closing := .drop }
  | drop (hc : s.closing = .drop) : Closes s { s with manager := false, closing := .idle }

/-- A step of the destructor. -/
inductive Destroys (s : StartupClient) : StartupClient → Prop
  | read (hd : s.destructor = .alive) (hpc : s.pc ≠ .create ∧ s.pc ≠ .created) :
    Destroys s { s with destructor := .clear s.connected }
  | clear {tconnected} (hd : s.destructor = .clear tconnected) :
    Destroys s { s with connected := false, destructor := if tconnected then .unregister else .drop }
  | unregister (hd : s.destructor = .unregister) : Destroys s { s with registered := false, destructor := .drop }
  | drop (hd : s.destructor = .drop) : Destroys s { s with manager := false, destructor := .quit }

inductive Acts (z : StartupStatics) (c : Nat) (s : StartupClient) : Action → StartupStatics → StartupClient → Prop
  | thread {answer z' s'} (hm : Moves z c s answer z' s') : Acts z c s (.thread answer) z' s'
  | crash (hregistered : s.registered = true) (hidle : s.closing = .idle) :
    Acts z c s .crash z { s with registered := false, closing := if s.callback then .read else .idle }
  | closing {s'} (hc : Closes s s') : Acts z c s .closing z s'
  | destroy {s'} (hd : Destroys s s') : Acts z c s .destroy z s'
  | quit (hd : s.destructor = .quit) : Acts z c s .quit z { s with quitStartupThread := true, destructor := .join }

theorem closingStep_closes {s s' : StartupClient} (h : s.closingStep = some s') : Closes s s' := by
  unfold closingStep at h
  split at h
  next => cases h
  next hc => cases h; exact .read hc
  next hc => cases h; exact .clear hc
  next hc => cases h; exact .tell hc
  next hc => cases h; exact .drop hc

theorem destructorStep_destroys {s s' : StartupClient} (h : s.destructorStep = some s') : Destroys s s' := by
  unfold destructorStep at h
  split at h
  next hd =>
    split at h
    next => cases h
    next hpc => cases h; exact .read hd (not_or.mp hpc)
  next hd => cases h; exact .clear hd
  next hd => cases h; exact .unregister hd
  next hd => cases h; exact .drop hd
  next => cases h
  next => cases h

theorem step_acts {z z' : StartupStatics} {c : Nat} {s s' : StartupClient} {a : Action}
    (h : s.step z c a = some (z', s')) : Acts z c s a z' s' := by
  cases a with
  | thread answer => exact .thread (threadStep_moves h)
  | crash =>
    simp only [step, Option.ite_none_right_eq_some] at h
    obtain ⟨⟨hregistered, hidle⟩, h⟩ := h
    cases h
    exact .crash hregistered hidle
  | closing =>
    obtain ⟨t, ht, h⟩ := Option.map_eq_some_iff.mp h
    cases h
    exact .closing (closingStep_closes ht)
  | destroy =>
    obtain ⟨t, ht, h⟩ := Option.map_eq_some_iff.mp h
    cases h
    exact .destroy (destructorStep_destroys ht)
  | quit =>
    simp only [step, Option.ite_none_right_eq_some] at h
    obtain ⟨hd, h⟩ := h
    cases h
    exact .quit hd

/-- Only the thread touches the mutex and the seconds. -/
theorem step_others {z z' : StartupStatics} {c : Nat} {s s' : StartupClient} {a : Action}
    (h : s.step z c a = some (z', s')) (ha : ∀ answer, a ≠ .thread answer) : z' = z ∧ s'.pc = s.pc := by
  cases step_acts h with
  | thread => exact absurd rfl (ha _)
  | crash | quit => exact ⟨rfl, rfl⟩
  | closing hc => cases hc <;> exact ⟨rfl, rfl⟩
  | destroy hd => cases hd <;> exact ⟨rfl, rfl⟩

theorem step_mutex {z z' : StartupStatics} {c : Nat} {s s' : StartupClient} {a : Action}
    (h : s.step z c a = some (z', s')) : Mutex.Move c s.pc.critical s'.pc.critical z.mutex z'.mutex := by
  by_cases ha : ∃ answer, a = .thread answer
  · obtain ⟨answer, rfl⟩ := ha
    cases threadStep_moves h with
    | lock hpc hfree | relock hpc hfree =>
      rw [hpc, hfree]
      exact .acquire
    | notFound hpc | announce hpc | stopped hpc | giveUp hpc | resume hpc =>
      rw [hpc]
      exact .release _
    | create hpc | createNone hpc | created hpc | again hpc | leave hpc | located hpc | find hpc | found hpc | connect hpc
    | crashed hpc | quit hpc | wait hpc | done hpc | sleep hpc =>
      rw [hpc]
      exact .stay _ _
  · push Not at ha
    obtain ⟨rfl, hpc⟩ := step_others h ha
    rw [hpc]
    exact .stay _ _

/-- What a step does to the seconds, and what it is recorded as. -/
inductive Spends (z z' : StartupStatics) (c : Nat) : List StartupEvent → Prop
  | kept (h : z'.timeOut = z.timeOut) : Spends z z' c []
  | slept (h : z'.timeOut + 1 = z.timeOut) : Spends z z' c [.slept c]
  | gaveUp (h : z.timeOut = 0) (h' : z'.timeOut = 0) : Spends z z' c [.gaveUp c]
  | resumed (h : z.timeOut ≠ 0) (h' : z'.timeOut = 30) : Spends z z' c [.resumed c]

theorem step_spends {z z' : StartupStatics} {c : Nat} {s s' : StartupClient} {a : Action}
    (h : s.step z c a = some (z', s')) (hbound : z.timeOut ≤ 30) (hsleep : s.pc = .sleep → z.timeOut ≠ 0) :
    Spends z z' c (s.events z c a) := by
  by_cases ha : ∃ answer, a = .thread answer
  · obtain ⟨answer, rfl⟩ := ha
    cases threadStep_moves h with
    | sleep hpc =>
      have hne := hsleep hpc
      simp only [events, hpc]
      refine .slept ?_
      simp only
      omega
    | stopped hpc hquit =>
      simp only [events, hpc, hquit]
      exact .kept rfl
    | giveUp hpc hquit htime =>
      simp only [events, hpc, hquit, if_pos htime]
      exact .gaveUp htime htime
    | resume hpc hquit htime =>
      simp only [events, hpc, hquit, htime]
      refine .resumed htime ?_
      simp only
      split <;> omega
    | create hpc | createNone hpc | created hpc | again hpc | leave hpc | lock hpc | located hpc | find hpc | notFound hpc
    | found hpc | connect hpc | announce hpc | crashed hpc | quit hpc | relock hpc | wait hpc | done hpc =>
      simp only [events, hpc]
      exact .kept rfl
  · push Not at ha
    obtain ⟨rfl, -⟩ := step_others h ha
    cases a with
    | thread answer => exact absurd rfl (ha answer)
    | crash | closing | destroy | quit => exact .kept rfl

/-- Whoever changes the seconds has the mutex. -/
theorem step_seconds {z z' : StartupStatics} {c : Nat} {s s' : StartupClient} {a : Action}
    (h : s.step z c a = some (z', s')) : z'.timeOut = z.timeOut ∨ s.pc.critical = true := by
  by_cases ha : ∃ answer, a = .thread answer
  · obtain ⟨answer, rfl⟩ := ha
    cases threadStep_moves h with
    | sleep hpc | resume hpc => exact .inr (by rw [hpc]; rfl)
    | _ => exact .inl rfl
  · push Not at ha
    obtain ⟨rfl, -⟩ := step_others h ha
    exact .inl rfl

theorem step_to_sleep {z z' : StartupStatics} {c : Nat} {s s' : StartupClient} {a : Action}
    (h : s.step z c a = some (z', s')) (hsleep : s.pc = .sleep → z.timeOut ≠ 0) (hpc : s'.pc = .sleep) :
    z'.timeOut ≠ 0 := by
  by_cases ha : ∃ answer, a = .thread answer
  · obtain ⟨answer, rfl⟩ := ha
    cases threadStep_moves h with
    | wait _ _ htime => exact htime
    | _ => cases hpc
  · push Not at ha
    obtain ⟨rfl, hsame⟩ := step_others h ha
    exact hsleep (hsame ▸ hpc)

end StartupClient

namespace ClientProcess

theorem step_cases {p p' : ClientProcess} {l : Label} (h : p.step l = some p') :
    (∃ c callback, l = .construct c callback ∧ p.clients c = none ∧
      p' = { p with clients := p.setClient c (.new callback) }) ∨
    ∃ c a s z' s', l = .client c a ∧ p.clients c = some s ∧ s.step p.statics c a = some (z', s') ∧
      p' = ⟨z', p.setClient c s'⟩ := by
  cases l with
  | construct c callback =>
    simp only [step] at h
    split at h
    · cases h
    · next hc =>
      cases h
      exact .inl ⟨c, callback, rfl, by simpa using hc, rfl⟩
  | client c a =>
    obtain ⟨s, hs, hr⟩ := Option.bind_eq_some_iff.mp h
    obtain ⟨⟨z', s'⟩, hstep, rfl⟩ := Option.map_eq_some_iff.mp hr
    exact .inr ⟨c, a, s, z', s', rfl, hs, hstep, rfl⟩

/-- A step, seen from client `c`. -/
theorem step_client {p p' : ClientProcess} {l : Label} (h : p.step l = some p') {c : Nat} {s : StartupClient}
    (hc : p.clients c = some s) :
    ((∀ a, l ≠ .client c a) ∧ p'.clients c = some s) ∨
      ∃ a z' s', l = .client c a ∧ s.step p.statics c a = some (z', s') ∧ p' = ⟨z', p.setClient c s'⟩ := by
  rcases step_cases h with ⟨d, callback, rfl, hd, rfl⟩ | ⟨d, a, t, z', t', rfl, hd, hstep, rfl⟩
  · have hne : c ≠ d := by
      rintro rfl
      rw [hd] at hc
      cases hc
    exact .inl ⟨by simp, by simpa [setClient, hne] using hc⟩
  · by_cases hcd : c = d
    · subst hcd
      rw [hd] at hc
      cases hc
      exact .inr ⟨a, z', t', rfl, hstep, rfl⟩
    · exact .inl ⟨by simp [Ne.symm hcd], by simpa [setClient, hcd] using hc⟩

def critical (p : ClientProcess) (c : Nat) : Bool := (p.clients c).any fun s => s.pc.critical

/-! ## The seconds that are left -/

structure Timed (p : ClientProcess) : Prop where
  guards : Mutex.Guards p.statics.mutex p.critical
  bound : p.statics.timeOut ≤ 30
  sleeping : ∀ c s, p.clients c = some s → s.pc = .sleep → p.statics.timeOut ≠ 0

theorem critical_setClient (p : ClientProcess) (z : StartupStatics) (c : Nat) (s : StartupClient) :
    (ClientProcess.mk z (p.setClient c s)).critical c = s.pc.critical := by
  simp [critical]

theorem critical_of_ne (p : ClientProcess) (z : StartupStatics) {c d : Nat} (s : StartupClient) (h : d ≠ c) :
    (ClientProcess.mk z (p.setClient c s)).critical d = p.critical d := by
  simp [critical, setClient, h]

theorem critical_eq {p : ClientProcess} {c : Nat} {s : StartupClient} (h : p.clients c = some s) :
    p.critical c = s.pc.critical := by
  simp [critical, h]

theorem start_timed : start.Timed := by
  refine ⟨fun c => ?_, Nat.le_refl 30, ?_⟩
  · simp [start, critical]
  · rintro c s hc
    cases hc

theorem step_timed {p p' : ClientProcess} {l : Label} (h : p.Timed) (hs : p.step l = some p') : p'.Timed := by
  rcases step_cases hs with ⟨c, callback, -, hc, rfl⟩ | ⟨c, a, s, z', s', -, hc, hstep, rfl⟩
  · refine ⟨fun d => ?_, h.bound, fun d s hd hpc => ?_⟩
    · by_cases hd : d = c
      · subst hd
        have hout := h.guards d
        rw [critical_setClient]
        simpa [critical, hc, StartupClient.new] using hout
      · rw [critical_of_ne p p.statics _ hd]
        exact h.guards d
    · rcases setClient_eq_some hd with ⟨-, rfl⟩ | ⟨-, hd⟩
      · cases hpc
      · exact h.sleeping d s hd hpc
  · have hspends := StartupClient.step_spends hstep h.bound (h.sleeping c s hc)
    have hbound := h.bound
    refine ⟨?_, ?_, fun d t hd hpc => ?_⟩
    · refine h.guards.step (i := c) ?_ fun d hd => critical_of_ne p z' s' hd
      rw [critical_setClient, critical_eq hc]
      exact StartupClient.step_mutex hstep
    · generalize s.events p.statics c a = es at hspends
      cases hspends <;> (simp only; omega)
    · rcases setClient_eq_some hd with ⟨rfl, rfl⟩ | ⟨hdc, hd⟩
      · exact StartupClient.step_to_sleep hstep (h.sleeping d s hc) hpc
      · rcases StartupClient.step_seconds hstep with htime | hcrit
        · exact htime ▸ h.sleeping d t hd hpc
        · -- the mutex is that of the client in the sleep
          have hdcrit : p.critical d = true := by simp [critical_eq hd, hpc]
          exact absurd (h.guards.unique hdcrit (by rw [critical_eq hc, hcrit])) hdc

theorem reachable_timed {p : ClientProcess} (h : machine.Reachable p) : p.Timed :=
  h.invariant (I := Timed) (fun _ hi => by rw [hi]; exact start_timed) fun _ _ _ hI hs => step_timed hI hs

/-- The seconds slept by all the threads since one of them last saw an engine started again. -/
def waited : List StartupEvent → Nat :=
  List.foldl (fun n e => match e with
    | .slept _ => n + 1
    | .resumed _ => 0
    | .gaveUp _ => n) 0

@[simp] theorem waited_slept (h : List StartupEvent) (c : Nat) : waited (h ++ [.slept c]) = waited h + 1 := by
  simp [waited]

@[simp] theorem waited_resumed (h : List StartupEvent) (c : Nat) : waited (h ++ [.resumed c]) = 0 := by
  simp [waited]

@[simp] theorem waited_gaveUp (h : List StartupEvent) (c : Nat) : waited (h ++ [.gaveUp c]) = waited h := by
  simp [waited]

def WithinBudget (before : List StartupEvent) : StartupEvent → Prop
  | .slept _ | .resumed _ => waited before < 30
  | .gaveUp _ => waited before = 30

theorem step_within {p p' : ClientProcess} {l : Label} {h : List StartupEvent} (ht : p.Timed)
    (hbudget : p.statics.timeOut + waited h = 30) (hh : Each WithinBudget h) (hs : p.step l = some p') :
    p'.statics.timeOut + waited (h ++ p.events l) = 30 ∧ Each WithinBudget (h ++ p.events l) := by
  rcases step_cases hs with ⟨c, callback, rfl, hc, rfl⟩ | ⟨c, a, s, z', s', rfl, hc, hstep, rfl⟩
  · simpa [events] using ⟨hbudget, hh⟩
  · have hspends := StartupClient.step_spends hstep ht.bound (ht.sleeping c s hc)
    have hevents : p.events (.client c a) = s.events p.statics c a := by simp [events, hc]
    rw [hevents]
    simp only
    generalize s.events p.statics c a = es at hspends
    cases hspends with
    | kept h =>
      rw [List.append_nil, h]
      exact ⟨hbudget, hh⟩
    | slept h =>
      refine ⟨by rw [waited_slept]; omega, hh.snoc ?_⟩
      simp only [WithinBudget]
      omega
    | gaveUp h h' =>
      refine ⟨by rw [waited_gaveUp]; omega, hh.snoc ?_⟩
      simp only [WithinBudget]
      omega
    | resumed h h' =>
      refine ⟨by rw [waited_resumed, h'], hh.snoc ?_⟩
      simp only [WithinBudget]
      omega

/-- **Thirty seconds for all clients together.** Between two restarts of the engine the threads of a process sleep at most
thirty seconds, whichever of them it is that sleeps; one sees the engine started only before they are over, and one
gives up only when they are. -/
theorem startup_budget {r : Recorded ClientProcess StartupEvent} (h : (machine.recorded events).Reachable r) :
    r.state.statics.timeOut + waited r.history = 30 ∧ Each WithinBudget r.history := by
  induction h with
  | init hi =>
    obtain ⟨hst, hh⟩ := hi
    rw [hst, hh]
    exact ⟨rfl, each_nil⟩
  | step hr _ hs ih =>
    obtain ⟨hstep, hhist⟩ := Machine.recorded_step hs
    rw [hhist]
    have hstate : machine.Reachable _ := Machine.ReachableIf.forget hr
    exact step_within (reachable_timed hstate) ih.1 ih.2 hstep

/-- The thread of client `c` goes on with these answers. -/
def goesOn (c : Nat) (answers : List Bool) : List Label := answers.map fun answer => .client c (.thread answer)

/-- Client `c` is made and connects. -/
def connects (c : Nat) : List Label := .construct c true :: goesOn c (List.replicate 7 true)

/-- The engine goes, and the disconnect callback of client `c` returns. -/
def loses (c : Nat) : List Label := .client c .crash :: List.replicate 4 (.client c .closing)

/-- Client 0 connects, the engine goes, and its thread sleeps all of the thirty seconds. -/
def waitsInVain : List Label := connects 0 ++ loses 0 ++ goesOn 0 (List.replicate 65 false)

set_option maxRecDepth 2000 in
theorem startup_budget_vain :
    ∃ r : Recorded ClientProcess StartupEvent, r.history = List.replicate 30 (.slept 0) ++ [.gaveUp 0] ∧
      r.state.statics.timeOut + waited r.history = 30 ∧ Each WithinBudget r.history := by
  have hr := Machine.reachable_of_exec (M := machine.recorded events) (s := ⟨start, []⟩) ⟨rfl, rfl⟩ waitsInVain rfl
  exact ⟨_, rfl, startup_budget hr⟩

end ClientProcess

end TTS
