import TTS.Transition
import TTS.EventSource

/-!
# The event queue and its timer

Any thread may call `sendEvent`; the timer callback runs on the main loop, one
invocation at a time. Each unlocked test of the queue and each section that
holds `m_mutex` is one step. The callback decides that the queue is empty in
one step and zeroes `m_timeoutId` in a later one.
-/

namespace TTS

open Transition

inductive HandlerPc
  | idle
  | test (source : Nat)
  | pop (source : Nat)
  | emit (source : Nat) (obj : Event)
  | again (source : Nat)
  | keep (source : Nat)
  | clear (source : Nat)
  | remove (source : Nat)
  deriving DecidableEq, Repr

/-- An event source, the timer sources attached for it, and what was pushed
and handed to the emitter so far. -/
structure EventLoop (φ : Type) where
  self : TTSEventSource φ
  sources : List Nat
  lastSource : Nat
  pc : HandlerPc
  pushed : List Event
  emitted : List Event

inductive EventLoop.Label (φ : Type)
  | sendEvent (e : Event)
  | listener (r : ListenerRequest φ)
  | dispatch (source : Nat)
  | handler (call : Nat → Reply) (arrivals : Nat → List (ListenerRequest φ))

section
variable {φ : Type} (rt : RtEmit φ)

def EventLoop.sendEvent (st : EventLoop φ) (e : Event) : EventLoop φ :=
  let st := { st with
    self := { st.self with eventQueue := st.self.eventQueue ++ [e] }
    pushed := st.pushed ++ [e] }
  if st.self.timeoutId = 0 then
    { st with
      self := { st.self with timeoutId := st.lastSource + 1 }
      sources := st.sources ++ [st.lastSource + 1]
      lastSource := st.lastSource + 1 }
  else st

def EventLoop.handle (st : EventLoop φ) (call : Nat → Reply) (arrivals : Nat → List (ListenerRequest φ)) :
    Option (EventLoop φ) :=
  match st.pc with
  | .idle => none
  | .test s => some { st with pc := if st.self.eventQueue.isEmpty then .clear s else .pop s }
  | .pop s =>
    match st.self.eventQueue with
    | [] => none
    | obj :: rest => some { st with self := { st.self with eventQueue := rest }, pc := .emit s obj }
  | .emit s obj =>
    some { st with
      self := (st.self.emitEvent rt call arrivals obj).2
      emitted := st.emitted ++ [obj]
      pc := .again s }
  | .again s => some { st with pc := if st.self.eventQueue.isEmpty then .clear s else .keep s }
  -- `G_SOURCE_CONTINUE`, the source stays attached
  | .keep _ => some { st with pc := .idle }
  | .clear s => some { st with self := { st.self with timeoutId := 0 }, pc := .remove s }
  -- `G_SOURCE_REMOVE`
  | .remove s => some { st with sources := st.sources.erase s, pc := .idle }

def EventLoop.step (st : EventLoop φ) : EventLoop.Label φ → Option (EventLoop φ)
  | .sendEvent e => some (st.sendEvent e)
  | .listener r => some { st with self := { st.self with emit := st.self.emit.request rt r } }
  | .dispatch s => if st.pc = .idle ∧ s ∈ st.sources then some { st with pc := .test s } else none
  | .handler call arrivals => st.handle rt call arrivals

def EventLoop.machine : Machine (EventLoop φ) (EventLoop.Label φ) where
  init st := st.self.eventQueue = [] ∧ st.self.timeoutId = 0 ∧ st.sources = [] ∧ st.pc = .idle ∧
    st.pushed = [] ∧ st.emitted = []
  step := EventLoop.step rt

/-- No `sendEvent` between the test that found the queue empty and `m_timeoutId = 0`. -/
def EventLoop.SendOutsideWindow (st : EventLoop φ) (a : EventLoop.Label φ) : Prop :=
  ∀ e s, a = .sendEvent e → st.pc ≠ .clear s

def EventLoop.NoStranded (st : EventLoop φ) : Prop :=
  st.self.eventQueue ≠ [] → st.pc = .idle → st.sources ≠ []

def EventLoop.InOrder (st : EventLoop φ) : Prop := st.emitted <+: st.pushed

end

@[simp] theorem emitEvent_eventQueue {φ : Type} (rt : RtEmit φ) (call : Nat → Reply)
    (arrivals : Nat → List (ListenerRequest φ)) (self : TTSEventSource φ) (obj : Event) :
    (self.emitEvent rt call arrivals obj).2.eventQueue = self.eventQueue := by
  simp only [TTSEventSource.emitEvent]
  cases (self.emit.send rt call arrivals obj.name).error <;> rfl

@[simp] theorem emitEvent_timeoutId {φ : Type} (rt : RtEmit φ) (call : Nat → Reply)
    (arrivals : Nat → List (ListenerRequest φ)) (self : TTSEventSource φ) (obj : Event) :
    (self.emitEvent rt call arrivals obj).2.timeoutId = self.timeoutId := by
  simp only [TTSEventSource.emitEvent]
  cases (self.emit.send rt call arrivals obj.name).error <;> rfl

/-! ## Order of delivery -/

def HandlerPc.inHand : HandlerPc → List Event
  | .emit _ obj => [obj]
  | _ => []

section
variable {φ : Type} {rt : RtEmit φ}

/-- The channel a state stands for, and how the queue splits what was pushed. -/
def EventLoop.Carries (st : EventLoop φ) (c : Channel Event) : Prop :=
  c = ⟨st.pushed, st.emitted⟩ ∧ st.pushed = st.emitted ++ st.pc.inHand ++ st.self.eventQueue

theorem sendEvent_carries {st : EventLoop φ} {c : Channel Event} (h : st.Carries c) (e : Event) :
    ∃ c', (Channel.machine Event).Steps c c' ∧ (st.sendEvent e).Carries c' := by
  obtain ⟨rfl, hp⟩ := h
  refine ⟨⟨st.pushed ++ [e], st.emitted⟩, .single ⟨.send e, rfl⟩, ?_⟩
  unfold EventLoop.sendEvent EventLoop.Carries
  simp only
  split
  · exact ⟨rfl, by simp [hp]⟩
  · exact ⟨rfl, by simp [hp]⟩

theorem handle_carries {st st' : EventLoop φ} {c : Channel Event} (h : st.Carries c) {call : Nat → Reply}
    {arrivals : Nat → List (ListenerRequest φ)} (hs : st.handle rt call arrivals = some st') :
    ∃ c', (Channel.machine Event).Steps c c' ∧ st'.Carries c' := by
  obtain ⟨rfl, hp⟩ := h
  unfold EventLoop.handle at hs
  cases hpc : st.pc with
  | idle => simp [hpc] at hs
  | test s =>
    simp only [hpc, Option.some.injEq] at hs
    subst hs
    refine ⟨_, .refl, rfl, ?_⟩
    simp only [hpc, HandlerPc.inHand] at hp
    simp only [hp]
    split <;> rfl
  | pop s =>
    simp only [hpc] at hs
    cases hq : st.self.eventQueue with
    | nil => simp [hq] at hs
    | cons obj rest =>
      simp only [hq, Option.some.injEq] at hs
      subst hs
      exact ⟨_, .refl, rfl, by simp [hp, hpc, hq, HandlerPc.inHand]⟩
  | emit s obj =>
    simp only [hpc, Option.some.injEq] at hs
    subst hs
    simp only [hpc, HandlerPc.inHand] at hp
    -- the object in hand is the next item the channel delivers
    refine ⟨⟨st.pushed, st.emitted ++ [obj]⟩, .single ⟨.deliver, ?_⟩, rfl, ?_⟩
    · simp [Channel.machine, hp]
    · simp [hp, HandlerPc.inHand]
  | again s =>
    simp only [hpc, Option.some.injEq] at hs
    subst hs
    refine ⟨_, .refl, rfl, ?_⟩
    simp only [hpc, HandlerPc.inHand] at hp
    simp only [hp]
    split <;> rfl
  | keep s | clear s | remove s =>
    simp only [hpc, Option.some.injEq] at hs
    subst hs
    exact ⟨_, .refl, rfl, by simp [hp, hpc, HandlerPc.inHand]⟩

/-- **The queue is a channel.** Whatever the interleaving, pushes are sends
and the emitter receives what the channel delivers. -/
theorem eventLoop_refines_channel (ok : EventLoop φ → EventLoop.Label φ → Prop) :
    Machine.Refines (EventLoop.machine rt) ok (Channel.machine Event) EventLoop.Carries where
  init st h := by
    obtain ⟨hq, -, -, hpc, hp, he⟩ := h
    exact ⟨⟨[], []⟩, rfl, by simp [hp, he], by simp [hp, he, hpc, hq, HandlerPc.inHand]⟩
  step st a st' c h _ hs := by
    cases a with
    | sendEvent e =>
      simp only [EventLoop.machine, EventLoop.step, Option.some.injEq] at hs
      subst hs
      exact sendEvent_carries h e
    | listener r =>
      simp only [EventLoop.machine, EventLoop.step, Option.some.injEq] at hs
      subst hs
      exact ⟨c, .refl, h⟩
    | dispatch s =>
      simp only [EventLoop.machine, EventLoop.step, Option.ite_none_right_eq_some, Option.some.injEq] at hs
      obtain ⟨⟨hi, -⟩, rfl⟩ := hs
      obtain ⟨rfl, hp⟩ := h
      exact ⟨_, .refl, rfl, by simpa [hi, HandlerPc.inHand] using hp⟩
    | handler call arrivals => exact handle_carries h hs

theorem eventLoop_inOrder {ok : EventLoop φ → EventLoop.Label φ → Prop} {st : EventLoop φ}
    (h : (EventLoop.machine rt).ReachableIf ok st) : st.InOrder := by
  obtain ⟨c, hc, rfl, -⟩ := (eventLoop_refines_channel ok).reachable h
  exact Channel.delivered_prefix hc

end

/-! ## The timer -/

section
variable {φ : Type} {rt : RtEmit φ}

def HandlerPc.Timer (timeoutId : Nat) (sources : List Nat) (queue : List Event) : HandlerPc → Prop
  | .idle => timeoutId = 0 ∧ sources = [] ∧ queue = [] ∨ timeoutId ≠ 0 ∧ sources = [timeoutId]
  | .test s | .emit s _ | .again s => timeoutId = s ∧ s ≠ 0 ∧ sources = [s]
  | .pop s | .keep s => timeoutId = s ∧ s ≠ 0 ∧ sources = [s] ∧ queue ≠ []
  | .clear s => timeoutId = s ∧ s ≠ 0 ∧ sources = [s] ∧ queue = []
  | .remove s =>
    timeoutId = 0 ∧ sources = [s] ∧ queue = [] ∨ timeoutId ≠ 0 ∧ timeoutId ≠ s ∧ sources = [s, timeoutId]

structure EventLoop.TimerInv (st : EventLoop φ) : Prop where
  timer : st.pc.Timer st.self.timeoutId st.sources st.self.eventQueue
  given : ∀ s ∈ st.sources, s ≤ st.lastSource

theorem sendEvent_timer {st : EventLoop φ} (h : st.TimerInv) (e : Event) (hw : ∀ s, st.pc ≠ .clear s) :
    (st.sendEvent e).TimerInv := by
  obtain ⟨ht, hg⟩ := h
  unfold EventLoop.sendEvent
  simp only
  split
  · rename_i h0
    refine ⟨?_, ?_⟩
    · cases hpc : st.pc with
      | idle => simp_all [HandlerPc.Timer]
      | remove s =>
        -- the old source is still attached, the new one has a later id
        simp only [hpc, h0, HandlerPc.Timer] at ht
        obtain ⟨-, hs, -⟩ | ⟨h, -⟩ := ht
        · have := hg s (by simp [hs])
          refine Or.inr ⟨by simp, ?_, by simp [hs]⟩
          simp only; omega
        · exact absurd rfl h
      | clear s => exact absurd hpc (hw s)
      | test s | pop s | emit s _ | again s | keep s =>
        simp only [hpc, HandlerPc.Timer] at ht
        exact absurd (ht.1.symm.trans h0) ht.2.1
    · intro s hs
      rcases List.mem_append.mp hs with hs | hs
      · have := hg s hs
        simp only; omega
      · simp only [List.mem_singleton] at hs
        simp only; omega
  · rename_i h0
    refine ⟨?_, hg⟩
    cases hpc : st.pc with
    | clear s => exact absurd hpc (hw s)
    | _ => simp_all [HandlerPc.Timer]

theorem handle_timer {st st' : EventLoop φ} (h : st.TimerInv) {call : Nat → Reply}
    {arrivals : Nat → List (ListenerRequest φ)} (hs : st.handle rt call arrivals = some st') : st'.TimerInv := by
  obtain ⟨ht, hg⟩ := h
  unfold EventLoop.handle at hs
  cases hpc : st.pc with
  | idle => simp [hpc] at hs
  | test s | again s =>
    simp only [hpc, Option.some.injEq] at hs
    subst hs
    refine ⟨?_, hg⟩
    simp only [hpc, HandlerPc.Timer] at ht
    cases st.self.eventQueue <;> simp [HandlerPc.Timer, ht]
  | pop s =>
    simp only [hpc] at hs
    cases hq : st.self.eventQueue with
    | nil => simp [hq] at hs
    | cons obj rest =>
      simp only [hq, Option.some.injEq] at hs
      subst hs
      simp only [hpc, HandlerPc.Timer] at ht
      exact ⟨⟨ht.1, ht.2.1, ht.2.2.1⟩, hg⟩
  | emit s obj =>
    simp only [hpc, Option.some.injEq] at hs
    subst hs
    simp only [hpc, HandlerPc.Timer] at ht
    exact ⟨by simpa [HandlerPc.Timer] using ht, hg⟩
  | keep s =>
    simp only [hpc, Option.some.injEq] at hs
    subst hs
    simp only [hpc, HandlerPc.Timer] at ht
    obtain ⟨h1, h2, h3, -⟩ := ht
    exact ⟨Or.inr ⟨by simpa [h1] using h2, by simp [h1, h3]⟩, hg⟩
  | clear s =>
    simp only [hpc, Option.some.injEq] at hs
    subst hs
    simp only [hpc, HandlerPc.Timer] at ht
    exact ⟨Or.inl ⟨rfl, ht.2.2.1, ht.2.2.2⟩, hg⟩
  | remove s =>
    simp only [hpc, Option.some.injEq] at hs
    subst hs
    simp only [hpc, HandlerPc.Timer] at ht
    refine ⟨?_, fun t ht => hg t (List.mem_of_mem_erase ht)⟩
    obtain ⟨h1, h2, h3⟩ | ⟨h1, h2, h3⟩ := ht
    · exact Or.inl ⟨h1, by simp [h2], h3⟩
    · exact Or.inr ⟨h1, by simp [h3]⟩

theorem eventLoop_timer {st : EventLoop φ}
    (h : (EventLoop.machine rt).ReachableIf EventLoop.SendOutsideWindow st) : st.TimerInv := by
  refine Machine.ReachableIf.invariant ?_ ?_ h
  · intro st hi
    obtain ⟨hq, ht, hs, hpc, -, -⟩ := hi
    exact ⟨by simp [hpc, ht, hs, hq, HandlerPc.Timer], by simp [hs]⟩
  · intro st a st' hI ho hs
    cases a with
    | sendEvent e =>
      simp only [EventLoop.machine, EventLoop.step, Option.some.injEq] at hs
      subst hs
      exact sendEvent_timer hI e fun s => ho e s rfl
    | listener r =>
      simp only [EventLoop.machine, EventLoop.step, Option.some.injEq] at hs
      subst hs
      exact ⟨hI.timer, hI.given⟩
    | dispatch s =>
      simp only [EventLoop.machine, EventLoop.step, Option.ite_none_right_eq_some, Option.some.injEq] at hs
      obtain ⟨⟨hi, hm⟩, rfl⟩ := hs
      have ht := hI.timer
      simp only [hi, HandlerPc.Timer] at ht
      obtain ⟨-, h, -⟩ | ⟨h0, h⟩ := ht
      · simp [h] at hm
      · rw [h, List.mem_singleton] at hm
        exact ⟨⟨hm.symm, hm ▸ h0, hm ▸ h⟩, hI.given⟩
    | handler call arrivals => exact handle_timer hI hs

/-- **No stranded event, in order.** In every run whose pushes fall outside the
callback's closing window, a waiting event has a timer and the emitter sees a
prefix of the pushes. -/
theorem eventLoop_no_stranded {st : EventLoop φ}
    (h : (EventLoop.machine rt).ReachableIf EventLoop.SendOutsideWindow st) : st.NoStranded ∧ st.InOrder := by
  refine ⟨fun hq hpc hs => ?_, eventLoop_inOrder h⟩
  have ht := (eventLoop_timer h).timer
  simp only [hpc, HandlerPc.Timer, hs] at ht
  obtain ⟨-, -, h⟩ | ⟨-, h⟩ := ht
  · exact hq h
  · cases h

theorem eventLoop_no_stranded_started :
    let start : EventLoop Nat := ⟨⟨Emit.idle [⟨"started", 1⟩], [], 0, false⟩, [], 0, .idle, [], []⟩
    (start.sendEvent (Event.new "started")).NoStranded ∧ (start.sendEvent (Event.new "started")).InOrder :=
  @eventLoop_no_stranded Nat ⟨fun l h => l ++ [h], fun l h => l.erase h⟩ _
    (.step (a := .sendEvent (Event.new "started")) (.init ⟨rfl, rfl, rfl, rfl, rfl, rfl⟩)
      (fun _ _ _ h => by cases h) rfl)

/-- The callback has found the queue empty, then an event is pushed, then the
callback zeroes the id and returns: no timer is left for the event. -/
theorem eventLoop_strands :
    ∃ st : EventLoop Nat, (EventLoop.machine ⟨fun l h => l ++ [h], fun l h => l.erase h⟩).Reachable st ∧
      ¬ (st.NoStranded ∧ st.InOrder) := by
  let ok : Nat → Reply := fun _ => ⟨.ok, .bool true⟩
  let step : EventLoop.Label Nat := .handler ok fun _ => []
  let start : EventLoop Nat := ⟨⟨Emit.idle [⟨"started", 1⟩, ⟨"spoke", 1⟩], [], 0, false⟩, [], 0, .idle, [], []⟩
  let last : EventLoop Nat :=
    { start with
      self := { start.self with eventQueue := [Event.new "spoke"] }
      lastSource := 1
      pushed := [Event.new "started", Event.new "spoke"]
      emitted := [Event.new "started"] }
  refine ⟨last, Machine.reachable_of_exec (s := start) ⟨rfl, rfl, rfl, rfl, rfl, rfl⟩
    [.sendEvent (Event.new "started"), .dispatch 1, step, step, step, step,
      .sendEvent (Event.new "spoke"), step, step] rfl, ?_⟩
  rintro ⟨h, -⟩
  exact h (by decide) rfl rfl

theorem sendEvent_in_window {st : EventLoop φ} (h : st.TimerInv) {s : Nat} (hpc : st.pc = .clear s) (e : Event)
    (call : Nat → Reply) :
    ∃ st', (EventLoop.machine rt).exec st
      [.sendEvent e, .handler call (fun _ => []), .handler call (fun _ => [])] = some st' ∧ ¬ st'.NoStranded := by
  have ht := h.timer
  simp only [hpc, HandlerPc.Timer] at ht
  obtain ⟨h1, h2, h3, h4⟩ := ht
  refine ⟨{ st with
    self := { st.self with eventQueue := [e], timeoutId := 0 }
    sources := []
    pc := .idle
    pushed := st.pushed ++ [e] }, ?_, fun hn => hn (by simp) rfl rfl⟩
  simp [Machine.exec, EventLoop.machine, EventLoop.step, EventLoop.sendEvent, EventLoop.handle, hpc, h1, h2, h3, h4]

end

end TTS
