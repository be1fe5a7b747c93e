import TTS.EventSource
import TTS.Changes

/-!
# Listeners added and deleted during `Send`

While `Emit::Send` calls the listeners, additions and deletions go to a queue
each. The additions are run first, so that a listener deleted and then added
again in one `Send` is gone after it.
-/

namespace TTS

open Changes

section
variable {φ : Type}

/-- `rtEmit` adds a listener at the end unless it is there, and deletes it if it is. -/
structure RtEmit.Documented [DecidableEq φ] (rt : RtEmit φ) : Prop where
  addListener : ∀ entries h, rt.addListener entries h = addTo entries h
  delListener : ∀ entries h, rt.delListener entries h = entries.erase h

def ListenerRequest.change : ListenerRequest φ → Change (EmitEntry φ)
  | .add h => .add h
  | .del h => .del h

/-- The requests made while `Send` calls the listeners of an event, in the order they come. -/
def requests (eventName : String) (arrivals : Nat → List (ListenerRequest φ)) (entries : List (EmitEntry φ × Nat)) :
    List (ListenerRequest φ) :=
  (registered eventName entries).flatMap fun entry => arrivals entry.2

variable {rt : RtEmit φ} (call : Nat → Reply) (arrivals : Nat → List (ListenerRequest φ)) (eventName : String)

/-! ## The queues -/

theorem Emit.request_sending (rs : List (ListenerRequest φ)) {e : Emit φ} (h : e.sendingEvents = true) :
    rs.foldl (Emit.request rt) e =
      { e with
        addListenerQueue := e.addListenerQueue ++ adds (rs.map ListenerRequest.change)
        delListenerQueue := e.delListenerQueue ++ dels (rs.map ListenerRequest.change) } := by
  induction rs generalizing e with
  | nil => simp [adds, dels]
  | cons r rs ih =>
    have hr : (e.request rt r).sendingEvents = true := by
      cases r <;> simp [request, addListenerOrQueue, delListenerOrQueue, h]
    rw [List.foldl_cons, ih hr]
    cases r <;> simp [request, addListenerOrQueue, delListenerOrQueue, h, ListenerRequest.change]

/-! ## The loop -/

theorem foldl_sendTurn (entries : List (EmitEntry φ × Nat)) (st : SendState φ) :
    entries.foldl (sendTurn rt call arrivals eventName) st =
      { entries.foldl (sendTurn rt call (fun _ => []) eventName) st with
        emit := (requests eventName arrivals entries).foldl (Emit.request rt) st.emit } := by
  induction entries generalizing st with
  | nil => rfl
  | cons entry entries ih =>
    rw [List.foldl_cons, List.foldl_cons, ih, foldl_sendTurn_quiet, foldl_sendTurn_quiet, sendTurn_quiet]
    unfold sendTurn requests registered survivors reportsBroken
    by_cases hn : entry.1.n = eventName
    · by_cases hb : (call entry.2).broken <;> simp [hn, hb]
    · simp [hn]

/-! ## The changes -/

variable [DecidableEq φ]

theorem Emit.request_idle (hrt : rt.Documented) (rs : List (ListenerRequest φ)) (entries : List (EmitEntry φ)) :
    rs.foldl (Emit.request rt) (.idle entries) = .idle (run entries (rs.map ListenerRequest.change)) := by
  induction rs generalizing entries with
  | nil => rfl
  | cons r rs ih =>
    have hr : (Emit.idle entries).request rt r = .idle (r.change.apply entries) := by
      cases r with
      | add h => exact congrArg Emit.idle (hrt.addListener entries h)
      | del h => exact congrArg Emit.idle (hrt.delListener entries h)
    rw [List.foldl_cons, hr, ih]
    rfl

theorem Emit.runDeferred_documented (hrt : rt.Documented) (entries : List (EmitEntry φ)) (sending : Bool)
    (cs : List (Change (EmitEntry φ))) :
    (⟨entries, sending, adds cs, dels cs⟩ : Emit φ).runDeferred rt = ⟨batch entries cs, sending, [], []⟩ := by
  have hadd : rt.addListener = addTo := funext fun entries => funext (hrt.addListener entries)
  have hdel : rt.delListener = List.erase := funext fun entries => funext (hrt.delListener entries)
  unfold runDeferred
  rw [hadd, hdel, batch, List.diff_eq_foldl]

theorem Emit.send_idle_batch (hrt : rt.Documented) (entries : List (EmitEntry φ)) :
    ((Emit.idle entries).send rt call arrivals eventName).emit =
      .idle (batch (survivors call eventName entries.zipIdx)
        ((requests eventName arrivals entries.zipIdx).map ListenerRequest.change)) := by
  unfold send
  rw [foldl_sendTurn, foldl_sendTurn_quiet, request_sending _ rfl]
  simp only [idle, List.nil_append]
  rw [runDeferred_documented hrt]

/-! ## The order of the changes -/

/-- What the requests made during `Send` leave is what they would leave if made
after it, one by one. -/
def OrderKept (rt : RtEmit φ) (entries : List (EmitEntry φ)) : Prop :=
  ((Emit.idle entries).send rt call arrivals eventName).emit.mEntries =
    ((requests eventName arrivals entries.zipIdx).foldl (Emit.request rt)
      ((Emit.idle entries).send rt call (fun _ => []) eventName).emit).mEntries

theorem orderKept_iff_batch (hrt : rt.Documented) (entries : List (EmitEntry φ)) :
    OrderKept call arrivals eventName rt entries ↔
      run (survivors call eventName entries.zipIdx)
          ((requests eventName arrivals entries.zipIdx).map ListenerRequest.change) =
        batch (survivors call eventName entries.zipIdx)
          ((requests eventName arrivals entries.zipIdx).map ListenerRequest.change) := by
  unfold OrderKept
  rw [Emit.send_idle_batch _ _ _ hrt, Emit.send_idle, Emit.request_idle hrt]
  exact eq_comm

omit [DecidableEq φ] in
theorem nodup_survivors {entries : List (EmitEntry φ)} (h : entries.Nodup) :
    (survivors call eventName entries.zipIdx).Nodup := by
  have hsub : (survivors call eventName entries.zipIdx).Sublist (entries.zipIdx.map Prod.fst) :=
    List.filter_sublist.map Prod.fst
  rw [List.zipIdx_map_fst] at hsub
  exact hsub.nodup h

/-- The emitters a source comes to have. -/
inductive Emit.Built (rt : RtEmit φ) : Emit φ → Prop
  | new : Built rt (.idle [])
  | request {e : Emit φ} (r : ListenerRequest φ) : Built rt e → Built rt (e.request rt r)
  | send {e : Emit φ} (call : Nat → Reply) (arrivals : Nat → List (ListenerRequest φ)) (eventName : String) :
    Built rt e → Built rt (e.send rt call arrivals eventName).emit

/-- Between two sends the queues are empty, and no listener is there twice. -/
theorem Emit.Built.idle (hrt : rt.Documented) {e : Emit φ} (h : Built rt e) : e = .idle e.mEntries ∧ e.mEntries.Nodup := by
  induction h with
  | new => exact ⟨rfl, List.nodup_nil⟩
  | @request e r _ ih =>
    have hr := request_idle hrt [r] e.mEntries
    rw [← ih.1, List.foldl_cons, List.foldl_nil] at hr
    rw [hr]
    exact ⟨rfl, nodup_run ih.2 _⟩
  | @send e call arrivals eventName _ ih =>
    have hs := send_idle_batch call arrivals eventName hrt e.mEntries
    rw [← ih.1] at hs
    rw [hs]
    exact ⟨rfl, nodup_batch (nodup_survivors call eventName ih.2) _⟩

/-- The order is kept unless some listener is added back after its deletion in the
same `Send`; over a list without duplicates, exactly then it is not. -/
theorem orderKept_iff (rt : RtEmit φ) (hrt : rt.Documented) (entries : List (EmitEntry φ)) :
    ((∀ h, ¬ Restores ((requests eventName arrivals entries.zipIdx).map ListenerRequest.change) h) →
        OrderKept call arrivals eventName rt entries) ∧
      (entries.Nodup → OrderKept call arrivals eventName rt entries →
        ∀ h, ¬ Restores ((requests eventName arrivals entries.zipIdx).map ListenerRequest.change) h) := by
  rw [orderKept_iff_batch _ _ _ hrt]
  constructor
  · exact fun h => run_eq_batch h _
  · exact fun hnodup => (run_eq_batch_iff (nodup_survivors call eventName hnodup) _).mp

/-- `rtEmit`, by its documentation. -/
def RtEmit.documented : RtEmit φ := ⟨addTo, List.erase⟩

end

/-- The first of two listeners adds a third, the second deletes the first. -/
theorem orderKept_added :
    ((Emit.idle [⟨"spoke", 1⟩, ⟨"spoke", 2⟩]).send .documented (fun _ => ⟨.ok, .empty⟩)
        (fun i => if i = 0 then [.add ⟨"spoke", 3⟩] else [.del ⟨"spoke", 1⟩]) "spoke").emit.mEntries =
        [⟨"spoke", 2⟩, ⟨"spoke", 3⟩] ∧
      OrderKept (fun _ => ⟨.ok, .empty⟩) (fun i => if i = 0 then [.add ⟨"spoke", 3⟩] else [.del ⟨"spoke", 1⟩]) "spoke"
        .documented [⟨"spoke", 1⟩, ⟨"spoke", 2⟩] := by
  refine ⟨by decide, (orderKept_iff _ _ _ .documented ⟨fun _ _ => rfl, fun _ _ => rfl⟩ _).1 ?_⟩
  rintro h ⟨before, after, he, hdel, -⟩
  have hrequests : (requests "spoke" (fun i => if i = 0 then [.add ⟨"spoke", 3⟩] else [.del ⟨"spoke", 1⟩])
      [⟨"spoke", 1⟩, ⟨"spoke", 2⟩].zipIdx).map ListenerRequest.change =
        [.add (⟨"spoke", 3⟩ : EmitEntry Nat), .del ⟨"spoke", 1⟩] := by decide
  rw [hrequests] at he
  have hadd : .add h ∈ before ++ .add h :: after := List.mem_append_right _ List.mem_cons_self
  have hdel : .del h ∈ before ++ .add h :: after := List.mem_append_left _ hdel
  rw [← he] at hadd hdel
  simp only [List.mem_cons, Change.add.injEq, Change.del.injEq, reduceCtorEq, List.not_mem_nil, or_false, false_or] at hadd hdel
  rw [hadd] at hdel
  exact absurd hdel (by decide)

/-- A listener is deleted and added again by the one that is called, and is gone. -/
theorem orderKept_not_restored :
    ¬ OrderKept (fun _ => ⟨.ok, .empty⟩) (fun _ => [.del ⟨"spoke", 1⟩, .add ⟨"spoke", 1⟩]) "spoke" .documented
      [⟨"spoke", 1⟩] := by
  unfold OrderKept
  decide

end TTS
