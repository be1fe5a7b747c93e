import Mathlib.Data.List.Basic
import TTS.Common

/-!
# Event sources

`Emit.send` calls the listeners of an event one after the other and erases
the broken ones while it walks; `TTSEventSource.handleEvent` takes one queued
event, sends it and then acts on the single code `Emit.send` returned. What
the base class `rtEmit` does to add or delete a listener is a parameter.
-/

namespace TTS

structure EmitEntry (φ : Type) where
  n : String
  f : φ
  deriving DecidableEq, Repr

/-- `rtEmit::addListener` and `rtEmit::delListener`. -/
structure RtEmit (φ : Type) where
  addListener : List (EmitEntry φ) → EmitEntry φ → List (EmitEntry φ)
  delListener : List (EmitEntry φ) → EmitEntry φ → List (EmitEntry φ)

structure Emit (φ : Type) where
  mEntries : List (EmitEntry φ)
  sendingEvents : Bool
  addListenerQueue : List (EmitEntry φ)
  delListenerQueue : List (EmitEntry φ)

inductive ListenerRequest (φ : Type)
  | add (h : EmitEntry φ)
  | del (h : EmitEntry φ)

structure Reply where
  error : RtError
  discard : RtValue
  deriving DecidableEq, Repr

def RtError.disconnected (e : RtError) : Bool := e == .epipe || e == .streamClosed

def Reply.broken (r : Reply) : Bool :=
  r.error.disconnected || r.discard == .num TTSError.objectDestroyed.code

section
variable {φ : Type} (rt : RtEmit φ)

def Emit.addListenerOrQueue (e : Emit φ) (h : EmitEntry φ) : Emit φ :=
  if !e.sendingEvents then { e with mEntries := rt.addListener e.mEntries h }
  else { e with addListenerQueue := e.addListenerQueue ++ [h] }

def Emit.delListenerOrQueue (e : Emit φ) (h : EmitEntry φ) : Emit φ :=
  if !e.sendingEvents then { e with mEntries := rt.delListener e.mEntries h }
  else { e with delListenerQueue := e.delListenerQueue ++ [h] }

def Emit.request (e : Emit φ) : ListenerRequest φ → Emit φ
  | .add h => e.addListenerOrQueue rt h
  | .del h => e.delListenerOrQueue rt h

/-- The loop of `Emit::Send`: the entries kept in front of the iterator, the
code of the latest call, and the listeners called so far. -/
structure SendState (φ : Type) where
  emit : Emit φ
  kept : List (EmitEntry φ)
  error : RtError
  called : List φ

variable (call : Nat → Reply) (arrivals : Nat → List (ListenerRequest φ))

/-- One turn of the loop, at the entry that was number `i` of the list.
`call i` is what its listener answers, `arrivals i` the requests made meanwhile. -/
def sendTurn (eventName : String) (st : SendState φ) (entry : EmitEntry φ × Nat) : SendState φ :=
  if entry.1.n = eventName then
    let st := { st with
      emit := (arrivals entry.2).foldl (Emit.request rt) st.emit
      error := (call entry.2).error
      called := st.called ++ [entry.1.f] }
    if (call entry.2).broken then st else { st with kept := st.kept ++ [entry.1] }
  else { st with kept := st.kept ++ [entry.1] }

def Emit.runDeferred (e : Emit φ) : Emit φ :=
  { e with
    mEntries := e.delListenerQueue.foldl rt.delListener (e.addListenerQueue.foldl rt.addListener e.mEntries)
    addListenerQueue := []
    delListenerQueue := [] }

def Emit.send (e : Emit φ) (eventName : String) : SendState φ :=
  let st := e.mEntries.zipIdx.foldl (sendTurn rt call arrivals eventName)
    ⟨{ e with sendingEvents := true }, [], .ok, []⟩
  { st with emit := ({ st.emit with mEntries := st.kept, sendingEvents := false } : Emit φ).runDeferred rt }

structure TTSEventSource (φ : Type) where
  emit : Emit φ
  eventQueue : List Event
  timeoutId : Nat
  isRemoteClientHanging : Bool

def TTSEventSource.setListener (self : TTSEventSource φ) (h : EmitEntry φ) : TTSEventSource φ :=
  { self with emit := self.emit.addListenerOrQueue rt h }

def TTSEventSource.delListener (self : TTSEventSource φ) (h : EmitEntry φ) : TTSEventSource φ :=
  { self with emit := self.emit.delListenerOrQueue rt h }

/-- Sends `obj` and handles the code; also the listeners called. -/
def TTSEventSource.emitEvent (self : TTSEventSource φ) (obj : Event) : List φ × TTSEventSource φ :=
  let st := self.emit.send rt call arrivals obj.name
  let rc := st.error
  let self := { self with emit := st.emit }
  let self :=
    if rc == .timeout || rc.disconnected then
      let self := { self with isRemoteClientHanging := true }
      if rc.disconnected then { self with emit := { self.emit with mEntries := [] } } else self
    else if rc == .ok then { self with isRemoteClientHanging := false }
    else self
  (st.called, self)

inductive SourceResult
  | continue
  | remove
  deriving DecidableEq, Repr

def TTSEventSource.handleEvent (self : TTSEventSource φ) : SourceResult × List φ × TTSEventSource φ :=
  match self.eventQueue with
  | [] => (.remove, [], { self with timeoutId := 0 })
  | obj :: rest =>
    let (called, self) := ({ self with eventQueue := rest } : TTSEventSource φ).emitEvent rt call arrivals obj
    if self.eventQueue.isEmpty then (.remove, called, { self with timeoutId := 0 })
    else (.continue, called, self)

end

/-! ## What a list of entries and their answers ask for -/

section
variable {φ : Type} (call : Nat → Reply) (eventName : String)

def registered (entries : List (EmitEntry φ × Nat)) : List (EmitEntry φ × Nat) :=
  entries.filter fun entry => entry.1.n = eventName

def reportsBroken (entry : EmitEntry φ × Nat) : Bool := entry.1.n = eventName && (call entry.2).broken

def survivors (entries : List (EmitEntry φ × Nat)) : List (EmitEntry φ) :=
  (entries.filter fun entry => !reportsBroken call eventName entry).map Prod.fst

def lastError (e : RtError) (entries : List (EmitEntry φ × Nat)) : RtError :=
  ((registered eventName entries).getLast?.map fun entry => (call entry.2).error).getD e

end

section
variable {φ : Type} (rt : RtEmit φ) (call : Nat → Reply) (eventName : String)

theorem lastError_cons (e : RtError) (entry : EmitEntry φ × Nat) (entries : List (EmitEntry φ × Nat)) :
    lastError call eventName e (entry :: entries) =
      lastError call eventName (if entry.1.n = eventName then (call entry.2).error else e) entries := by
  unfold lastError registered
  by_cases h : entry.1.n = eventName
  · simp only [h, decide_true, List.filter_cons_of_pos, List.getLast?_cons, ite_true]
    cases (entries.filter fun entry => entry.1.n = eventName).getLast? <;> rfl
  · simp [h]

theorem lastError_connected {call : Nat → Reply} (h : ∀ i, (call i).error.disconnected = false)
    (entries : List (EmitEntry φ × Nat)) : (lastError call eventName .ok entries).disconnected = false := by
  unfold lastError
  cases (registered eventName entries).getLast? with
  | none => rfl
  | some entry => exact h entry.2

theorem survivors_healthy {call : Nat → Reply} (h : ∀ i, (call i).broken = false) (entries : List (EmitEntry φ)) :
    survivors call eventName entries.zipIdx = entries := by
  have hkept : ∀ entry ∈ entries.zipIdx, (!reportsBroken call eventName entry) = true := by
    intro entry _
    rw [reportsBroken, h, Bool.and_false]
    rfl
  rw [survivors, List.filter_eq_self.mpr hkept, List.zipIdx_map_fst]

theorem sendTurn_quiet (st : SendState φ) (entry : EmitEntry φ × Nat) :
    sendTurn rt call (fun _ => []) eventName st entry =
      { emit := st.emit
        kept := st.kept ++ survivors call eventName [entry]
        error := if entry.1.n = eventName then (call entry.2).error else st.error
        called := st.called ++ (registered eventName [entry]).map fun entry => entry.1.f } := by
  unfold sendTurn survivors registered reportsBroken
  by_cases h : entry.1.n = eventName
  · by_cases hb : (call entry.2).broken <;> simp [h, hb]
  · simp [h]

/-- **The loop.** Every registered listener is called once in order, and what
is kept is the list without the entries that reported themselves broken. -/
theorem foldl_sendTurn_quiet (entries : List (EmitEntry φ × Nat)) (st : SendState φ) :
    entries.foldl (sendTurn rt call (fun _ => []) eventName) st =
      { emit := st.emit
        kept := st.kept ++ survivors call eventName entries
        error := lastError call eventName st.error entries
        called := st.called ++ (registered eventName entries).map fun entry => entry.1.f } := by
  induction entries generalizing st with
  | nil => simp [survivors, registered, lastError]
  | cons entry entries ih =>
    rw [List.foldl_cons, ih, sendTurn_quiet, lastError_cons]
    have hs : survivors call eventName (entry :: entries) =
        survivors call eventName [entry] ++ survivors call eventName entries := by
      simp only [survivors, ← List.map_append, ← List.filter_append, List.singleton_append]
    have hr : registered eventName (entry :: entries) =
        registered eventName [entry] ++ registered eventName entries := by
      simp only [registered, ← List.filter_append, List.singleton_append]
    simp only [hs, hr, List.map_append, List.append_assoc]

def Emit.idle (entries : List (EmitEntry φ)) : Emit φ := ⟨entries, false, [], []⟩

theorem Emit.send_idle (entries : List (EmitEntry φ)) :
    (Emit.idle entries).send rt call (fun _ => []) eventName =
      { emit := Emit.idle (survivors call eventName entries.zipIdx)
        kept := survivors call eventName entries.zipIdx
        error := lastError call eventName .ok entries.zipIdx
        called := (registered eventName entries.zipIdx).map fun entry => entry.1.f } := by
  unfold Emit.send
  rw [foldl_sendTurn_quiet]
  simp [Emit.idle, Emit.runDeferred]

/-! ## Healthy listeners -/

theorem registered_zipIdx (entries : List (EmitEntry φ)) (k : Nat) :
    (registered eventName (entries.zipIdx k)).map (fun entry => entry.1.f) =
      (entries.filter fun entry => entry.n = eventName).map fun entry => entry.f := by
  induction entries generalizing k with
  | nil => rfl
  | cons entry entries ih =>
    have ih := ih (k + 1)
    unfold registered at *
    by_cases h : entry.n = eventName <;> simp [h, ih]

/-- The event's listeners were each called once in list order, and the entries
left are those whose own call did not report them broken. -/
def HealthyKept (entries : List (EmitEntry φ)) (called : List φ) (after : TTSEventSource φ) : Prop :=
  called = (entries.filter fun entry => entry.n = eventName).map (fun entry => entry.f) ∧
    after.emit.mEntries = survivors call eventName entries.zipIdx

/-- The listener called last did not report a closed connection, or no entry is healthy. -/
def LastConnected (entries : List (EmitEntry φ)) : Prop :=
  (lastError call eventName .ok entries.zipIdx).disconnected = false ∨
    ∀ entry ∈ entries.zipIdx, reportsBroken call eventName entry = true

theorem survivors_eq_nil (entries : List (EmitEntry φ × Nat)) :
    survivors call eventName entries = [] ↔ ∀ entry ∈ entries, reportsBroken call eventName entry = true := by
  unfold survivors
  rw [List.map_eq_nil_iff, List.filter_eq_nil_iff]
  simp

theorem emitEvent_emit (entries : List (EmitEntry φ)) (queue : List Event) (t : Nat) (hanging : Bool) (obj : Event) :
    ((⟨Emit.idle entries, queue, t, hanging⟩ : TTSEventSource φ).emitEvent rt call (fun _ => []) obj).2.emit =
      .idle (if (lastError call obj.name .ok entries.zipIdx).disconnected then []
        else survivors call obj.name entries.zipIdx) := by
  unfold TTSEventSource.emitEvent
  rw [Emit.send_idle]
  cases lastError call obj.name .ok entries.zipIdx <;> simp [RtError.disconnected, Emit.idle]

theorem emitEvent_called (self : TTSEventSource φ) (arrivals : Nat → List (ListenerRequest φ)) (obj : Event) :
    (self.emitEvent rt call arrivals obj).1 = (self.emit.send rt call arrivals obj.name).called := rfl

/-- **One broken listener and the others.** Handling a queued event keeps the
healthy listeners exactly when the code that decides, the last one, does not
say that the connection is closed. -/
theorem handleEvent_keeps_healthy_iff (entries : List (EmitEntry φ)) (obj : Event) (rest : List Event)
    (t : Nat) (hanging : Bool) :
    (let out := (⟨Emit.idle entries, obj :: rest, t, hanging⟩ : TTSEventSource φ).handleEvent rt call fun _ => []
     HealthyKept call obj.name entries out.2.1 out.2.2) ↔ LastConnected call obj.name entries := by
  have hc : ∀ out : SourceResult × List φ × TTSEventSource φ,
      out = (⟨Emit.idle entries, obj :: rest, t, hanging⟩ : TTSEventSource φ).handleEvent rt call (fun _ => []) →
      out.2.1 = (entries.filter fun entry => entry.n = obj.name).map (fun entry => entry.f) ∧
        out.2.2.emit.mEntries = if (lastError call obj.name .ok entries.zipIdx).disconnected then []
          else survivors call obj.name entries.zipIdx := by
    intro out ho
    subst ho
    have hm := congrArg Emit.mEntries (emitEvent_emit rt call entries rest t hanging obj)
    have hl : ((⟨Emit.idle entries, rest, t, hanging⟩ : TTSEventSource φ).emitEvent rt call (fun _ => []) obj).1 =
        (entries.filter fun entry => entry.n = obj.name).map fun entry => entry.f := by
      rw [emitEvent_called, Emit.send_idle]
      exact registered_zipIdx obj.name entries 0
    unfold TTSEventSource.handleEvent
    simp only
    split <;> exact ⟨hl, hm⟩
  obtain ⟨hl, hm⟩ := hc _ rfl
  simp only [HealthyKept, LastConnected, hl, hm, true_and]
  rw [← survivors_eq_nil]
  cases (lastError call obj.name .ok entries.zipIdx).disconnected with
  | false => simp
  | true =>
    simp only [ite_true, Bool.true_eq_false, false_or]
    exact eq_comm

/-- Two listeners of one event: the first answers, the second's pipe is
broken, and the first is dropped with it. -/
theorem handleEvent_drops_healthy :
    ¬ (let out := (⟨Emit.idle [⟨"voice_changed", 1⟩, ⟨"voice_changed", 2⟩], [Event.new "voice_changed"], 7, false⟩ :
          TTSEventSource Nat).handleEvent ⟨fun l h => l ++ [h], fun l h => l.erase h⟩
            (fun i => if i = 0 then ⟨.ok, .bool true⟩ else ⟨.epipe, .empty⟩) fun _ => []
       HealthyKept (fun i => if i = 0 then ⟨.ok, .bool true⟩ else ⟨.epipe, .empty⟩) "voice_changed"
        [⟨"voice_changed", 1⟩, ⟨"voice_changed", 2⟩] out.2.1 out.2.2) := by
  unfold HealthyKept
  decide

end

end TTS
