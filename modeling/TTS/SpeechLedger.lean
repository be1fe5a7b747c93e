import TTS.Ledger
import TTS.Stages

/-!
# The ledger of speeches

The speaker with its thread and its callers is a ledger: `queueData` accepts,
`dequeueData` takes, the terminal callback finishes, `clearAllSpeechesFrom`
withdraws the speeches of a client and `flushQueue` drops all that wait.
-/

namespace TTS

open Transition

def acceptedIn (log : List Record) : List SpeechData :=
  log.filterMap fun
    | .queued d => some d
    | _ => none

def cancelledIn (log : List Record) : List SpeechData :=
  log.flatMap fun
    | .cancelled _ ds => ds
    | _ => []

def reportedIn (log : List Record) : List SpeechData :=
  log.filterMap fun
    | .callback _ (.ended _) d => some d
    | _ => none

def droppedIn (log : List Record) : List SpeechData :=
  log.flatMap fun
    | .flushed ds => ds
    | _ => []

namespace SpeakerSystem

def ledger (st : SpeakerSystem) : Ledger SpeechData where
  accepted := acceptedIn st.log
  waiting := st.speaker.queue
  inHand := st.pc.stage.inHand
  withdrawn := cancelledIn st.log
  finished := reportedIn st.log
  dropped := droppedIn st.log

def Keeps (st : SpeakerSystem) (l : Ledger SpeechData) : Prop :=
  l = st.ledger ∧ ∀ d ∈ acceptedIn st.log, d.serial < st.speaker.queued

end SpeakerSystem

structure SameEntries (log log' : List Record) : Prop where
  accepted : acceptedIn log' = acceptedIn log
  cancelled : cancelledIn log' = cancelledIn log
  reported : reportedIn log' = reportedIn log
  dropped : droppedIn log' = droppedIn log

theorem SameEntries.refl (log : List Record) : SameEntries log log := ⟨rfl, rfl, rfl, rfl⟩

theorem sameEntries_append {log log' : List Record} (h : SameEntries [] log') : SameEntries log (log ++ log') := by
  obtain ⟨h1, h2, h3, h4⟩ := h
  refine ⟨?_, ?_, ?_, ?_⟩
  · rw [acceptedIn, List.filterMap_append]
    exact (congrArg _ h1).trans (List.append_nil _)
  · rw [cancelledIn, List.flatMap_append]
    exact (congrArg _ h2).trans (List.append_nil _)
  · rw [reportedIn, List.filterMap_append]
    exact (congrArg _ h3).trans (List.append_nil _)
  · rw [droppedIn, List.flatMap_append]
    exact (congrArg _ h4).trans (List.append_nil _)

theorem sameEntries_quiet {log : List Record} (h : ∀ r ∈ log, r.isQuiet = true) : SameEntries [] log := by
  induction log with
  | nil => exact .refl []
  | cons r log ih =>
    have hr := h r List.mem_cons_self
    have hl := ih fun x hx => h x (List.mem_cons_of_mem r hx)
    obtain ⟨h1, h2, h3, h4⟩ := hl
    cases r with
    | callback c cb d =>
      cases cb with
      | ended k => cases hr
      | _ => exact ⟨h1, h2, h3, h4⟩
    | answered c id state => exact ⟨h1, h2, h3, h4⟩
    | _ => cases hr

namespace SpeakerSystem

theorem keeps_of_same {st st' : SpeakerSystem} {l : Ledger SpeechData} (h : st.Keeps l)
    (hq : st'.speaker.queue = st.speaker.queue) (hn : st'.speaker.queued = st.speaker.queued)
    (hh : st'.pc.stage.inHand = st.pc.stage.inHand) (hl : SameEntries st.log st'.log) :
    ∃ l', Ledger.machine.Steps l l' ∧ st'.Keeps l' := by
  obtain ⟨rfl, hs⟩ := h
  refine ⟨st.ledger, .refl, ?_, ?_⟩
  · simp only [ledger, hl.accepted, hl.cancelled, hl.reported, hl.dropped, hq, hh]
  · rw [hl.accepted, hn]
    exact hs

theorem keeps_take {st st' : SpeakerSystem} {l : Ledger SpeechData} (h : st.Keeps l) {d : SpeechData}
    (hq : st.speaker.queue = d :: st'.speaker.queue) (hn : st'.speaker.queued = st.speaker.queued)
    (hh : st.pc.stage.inHand = none) (hh' : st'.pc.stage.inHand = some d) (hl : SameEntries st.log st'.log) :
    ∃ l', Ledger.machine.Steps l l' ∧ st'.Keeps l' := by
  obtain ⟨rfl, hs⟩ := h
  refine ⟨st'.ledger, .single ⟨.take, ?_⟩, rfl, ?_⟩
  · simp only [Ledger.machine, Ledger.step, ledger, hh, hh', hq, hl.accepted, hl.cancelled, hl.reported, hl.dropped]
  · rw [hl.accepted, hn]
    exact hs

theorem keeps_finish {st st' : SpeakerSystem} {l : Ledger SpeechData} (h : st.Keeps l) {d : SpeechData} {c : Nat}
    {k : Terminal} (hq : st'.speaker.queue = st.speaker.queue) (hn : st'.speaker.queued = st.speaker.queued)
    (hh : st.pc.stage.inHand = some d) (hh' : st'.pc.stage.inHand = none)
    (hl : st'.log = st.log ++ [.callback c (.ended k) d]) : ∃ l', Ledger.machine.Steps l l' ∧ st'.Keeps l' := by
  obtain ⟨rfl, hs⟩ := h
  have ha : acceptedIn st'.log = acceptedIn st.log := by simp [acceptedIn, hl]
  refine ⟨st'.ledger, .single ⟨.finish, ?_⟩, rfl, ?_⟩
  · simp [Ledger.machine, Ledger.step, ledger, hh, hh', hq, hl, acceptedIn, cancelledIn, reportedIn, droppedIn]
  · rw [ha, hn]
    exact hs

theorem thread_keeps {st : SpeakerSystem} {l : Ledger SpeechData} (h : st.Keeps l) {pc : ThreadPc} {s : TTSSpeaker}
    {log : List Record} (hm : st.pc.Moves st.speaker pc s log) :
    ∃ l', Ledger.machine.Steps l l' ∧ ({ st with pc := pc, speaker := s, log := st.log ++ log } : SpeakerSystem).Keeps l' := by
  have hchose : ∀ d, SameEntries st.log (st.log ++ [.chose d]) := fun d => sameEntries_append ⟨rfl, rfl, rfl, rfl⟩
  have hnil : SameEntries st.log (st.log ++ []) := sameEntries_append (.refl [])
  have hand : ∀ {a b : Stage}, a = b → a.inHand = b.inHand := fun e => congrArg Stage.inHand e
  cases hm with
  | quiet stage view log_quiet =>
    exact keeps_of_same h view.queue view.queued (hand stage) (sameEntries_append (sameEntries_quiet log_quiet))
  | take stage stage' _ queue =>
    refine keeps_take h queue ?_ (hand stage) (hand stage') hnil
    rfl
  | fail stage stage' _ queue =>
    refine keeps_take h queue ?_ (hand stage) (hand stage') (hchose _)
    rfl
  | failReport stage stage' view =>
    exact keeps_finish h view.queue view.queued (hand stage) (hand stage') rfl
  | report stage stage' => exact keeps_finish h rfl rfl (hand stage) (hand stage') rfl
  | speak stage stage' | pass stage stage' _ | clear stage stage' =>
    exact keeps_of_same h rfl rfl ((hand stage').trans (hand stage).symm) hnil
  | interrupt stage stage' _ | pick stage stage' _ =>
    exact keeps_of_same h rfl rfl ((hand stage').trans (hand stage).symm) (hchose _)

inductive QueueMove (s : TTSSpeaker) : TTSSpeaker → List Record → Prop
  | flush : QueueMove s s.flushQueue [.flushed s.queue]
  | queue (d : SpeechData) : QueueMove s (s.queueData d) [.queued { d with serial := s.queued }]
  | erase (client : Nat) : QueueMove s (s.eraseFrom client).2 [.cancelled client (s.eraseFrom client).1]
  | same {s' log} (queue : s'.queue = s.queue) (queued : s'.queued = s.queued) (entries : SameEntries [] log) :
    QueueMove s s' log

theorem queueMove_of_moves {pc pc' : CallPc} {s s' : TTSSpeaker} {log : List Record} (hm : pc.Moves s pc' s' log) :
    QueueMove s s' log := by
  have hnone : SameEntries [] [] := .refl []
  cases hm with
  | flush => exact .flush
  | queue d => exact .queue d
  | erase c => exact .erase c
  | other _ _ view log_quiet => exact .same view.queue view.queued (sameEntries_quiet log_quiet)
  | release => exact .same rfl rfl ⟨rfl, rfl, rfl, rfl⟩
  | quit =>
    split
    · exact .same rfl rfl hnone
    · exact .same rfl rfl hnone
  | found | notFound | speaking | silent | cancel => exact .same rfl rfl hnone

theorem caller_moves {pc : CallPc} {s : TTSSpeaker} {mv : Move CallPc} (hr : pc.run s = some mv) :
    QueueMove s mv.speaker mv.log := queueMove_of_moves (CallPc.run_moves hr)

theorem QueueMove.reported {s s' : TTSSpeaker} {log : List Record} (hm : QueueMove s s' log) : reportedIn log = [] := by
  cases hm with
  | same _ _ entries => exact entries.reported
  | _ => rfl

theorem caller_keeps {st st' : SpeakerSystem} {l : Ledger SpeechData} (h : st.Keeps l) {log : List Record}
    (hm : QueueMove st.speaker st'.speaker log) (hlog : st'.log = st.log ++ log) (hpc : st'.pc = st.pc) :
    ∃ l', Ledger.machine.Steps l l' ∧ st'.Keeps l' := by
  have hh : st'.pc.stage.inHand = st.pc.stage.inHand := by rw [hpc]
  generalize hs' : st'.speaker = s' at hm
  cases hm with
  | same queue queued entries =>
    exact keeps_of_same h (hs' ▸ queue) (hs' ▸ queued) hh (hlog ▸ sameEntries_append entries)
  | flush =>
    obtain ⟨rfl, hs⟩ := h
    refine ⟨st'.ledger, .single ⟨.drop, ?_⟩, rfl, ?_⟩
    · simp [Ledger.machine, Ledger.step, ledger, hh, hs', hlog, acceptedIn, cancelledIn, reportedIn, droppedIn,
        TTSSpeaker.flushQueue]
    · simpa [hs', hlog, acceptedIn, TTSSpeaker.flushQueue] using hs
  | erase client =>
    obtain ⟨rfl, hs⟩ := h
    refine ⟨st'.ledger, .single ⟨.withdraw fun d => d.client = client, ?_⟩, rfl, ?_⟩
    · simp [Ledger.machine, Ledger.step, ledger, hh, hs', hlog, acceptedIn, cancelledIn, reportedIn, droppedIn,
        TTSSpeaker.eraseFrom]
    · simpa [hs', hlog, acceptedIn, TTSSpeaker.eraseFrom] using hs
  | queue d =>
    obtain ⟨rfl, hs⟩ := h
    -- the serial number is new
    have hnew : ({ d with serial := st.speaker.queued } : SpeechData) ∉ acceptedIn st.log := fun hm =>
      Nat.lt_irrefl _ (hs _ hm)
    have ha : acceptedIn st'.log = acceptedIn st.log ++ [{ d with serial := st.speaker.queued }] := by
      simp [hlog, acceptedIn]
    refine ⟨st'.ledger, .single ⟨.accept { d with serial := st.speaker.queued }, ?_⟩, rfl, ?_⟩
    · simp only [Ledger.machine, Ledger.step, ledger, hnew, if_false, ha]
      simp [hh, hs', hlog, cancelledIn, reportedIn, droppedIn, TTSSpeaker.queueData]
    · rw [ha, hs']
      intro x hx
      rcases List.mem_append.mp hx with hx | hx
      · exact Nat.lt_succ_of_lt (hs x hx)
      · rw [List.mem_singleton.mp hx]
        exact Nat.lt_succ_self _

/-- **One step of the system is a few steps of the ledger.** -/
theorem step_keeps {st st' : SpeakerSystem} {a : Label} {l : Ledger SpeechData} (h : st.Keeps l)
    (hs : machine.step st a = some st') : ∃ l', Ledger.machine.Steps l l' ∧ st'.Keeps l' := by
  cases step_happens hs with
  | fault | call => exact keeps_of_same h rfl rfl rfl (.refl _)
  | thread _ moves => exact thread_keeps h moves
  | caller _ run => exact caller_keeps h (caller_moves run) rfl rfl
  | bus view log_quiet =>
    exact keeps_of_same h view.queue view.queued rfl (sameEntries_append (sameEntries_quiet log_quiet))

/-- **The speaker is a ledger of speeches.** -/
theorem machine_refines : Machine.Refines machine (fun _ _ => True) Ledger.machine Keeps where
  init := by
    rintro _ ⟨maxFailures, rfl⟩
    exact ⟨.empty, rfl, rfl, fun d hd => nomatch hd⟩
  step _ _ _ _ h _ hs := step_keeps h hs

end SpeakerSystem

/-! ## Own clients -/

def Record.Own : Record → Prop
  | .cancelled c ds => ∀ d ∈ ds, d.client = c
  | .callback c (.ended _) d => d.client = c
  | _ => True

theorem ended_not_mem {log : List Record} (h : reportedIn log = []) (c : Nat) (k : Terminal) (d : SpeechData) :
    .callback c (.ended k) d ∉ log := by
  intro hm
  exact nomatch (List.filterMap_eq_nil_iff.mp h) _ hm

theorem Record.own_of_sameEntries {log : List Record} (h : SameEntries [] log) : ∀ r ∈ log, r.Own := by
  intro r hr
  have hc : ∀ c ds, .cancelled c ds ∈ log → ds = [] := by
    intro c ds hm
    exact (List.flatMap_eq_nil_iff.mp h.cancelled) _ hm
  cases r with
  | cancelled c ds =>
    rw [hc c ds hr]
    exact fun d hd => nomatch hd
  | callback c cb d =>
    cases cb with
    | ended k => exact absurd hr (ended_not_mem h.reported c k d)
    | _ => trivial
  | _ => trivial

namespace SpeakerSystem

theorem moves_own {pc pc' : ThreadPc} {s s' : TTSSpeaker} {log : List Record} (hm : pc.Moves s pc' s' log) :
    ∀ r ∈ log, r.Own := by
  cases hm with
  | quiet _ _ log_quiet => exact Record.own_of_sameEntries (sameEntries_quiet log_quiet)
  | failReport | report =>
    intro r hr
    rw [List.mem_singleton.mp hr]
    rfl
  | _ => exact Record.own_of_sameEntries ⟨rfl, rfl, rfl, rfl⟩

theorem queueMove_own {s s' : TTSSpeaker} {log : List Record} (hm : QueueMove s s' log) : ∀ r ∈ log, r.Own := by
  cases hm with
  | same _ _ entries => exact Record.own_of_sameEntries entries
  | erase client =>
    intro r hr
    rw [List.mem_singleton.mp hr]
    intro d hd
    simpa using (List.mem_filter.mp hd).2
  | _ =>
    intro r hr
    rw [List.mem_singleton.mp hr]
    trivial

theorem step_own {st st' : SpeakerSystem} {a : Label} (h : ∀ r ∈ st.log, r.Own) (hs : machine.step st a = some st') :
    ∀ r ∈ st'.log, r.Own := by
  have happend : ∀ {log : List Record}, (∀ r ∈ log, r.Own) → ∀ r ∈ st.log ++ log, r.Own := by
    intro log hl r hr
    exact (List.mem_append.mp hr).elim (h r) (hl r)
  cases step_happens hs with
  | fault | call => exact h
  | thread _ moves => exact happend (moves_own moves)
  | caller _ run => exact happend (queueMove_own (caller_moves run))
  | bus _ log_quiet => exact happend (Record.own_of_sameEntries (sameEntries_quiet log_quiet))

theorem reachable_own {st : SpeakerSystem} (h : machine.Reachable st) : ∀ r ∈ st.log, r.Own := by
  refine Machine.Reachable.invariant (I := fun st : SpeakerSystem => ∀ r ∈ st.log, r.Own) ?_
    (fun _ _ _ hI hs => step_own hI hs) h
  rintro _ ⟨maxFailures, rfl⟩
  exact fun r hr => nomatch hr

/-! ## Every accepted speech has one place -/

theorem reachable_serial {st : SpeakerSystem} (h : machine.Reachable st) {d : SpeechData} (hd : .queued d ∈ st.log) :
    d.serial < st.speaker.queued := by
  obtain ⟨l, -, -, hs⟩ := machine_refines.reachable h
  exact hs d (List.mem_filterMap.mpr ⟨_, hd, rfl⟩)

def accounted (st : SpeakerSystem) (d : SpeechData) : Nat :=
  st.speaker.queue.count d + st.pc.stage.inHand.toList.count d + (cancelledIn st.log).count d +
    (reportedIn st.log).count d

theorem reachable_places_le_one {st : SpeakerSystem} (h : machine.Reachable st) (d : SpeechData) :
    st.accounted d + (droppedIn st.log).count d ≤ 1 := by
  obtain ⟨l, hl, rfl, -⟩ := machine_refines.reachable h
  have hb := Ledger.reachable_balanced hl
  have hle : st.ledger.places d ≤ 1 := hb.places d ▸ List.nodup_iff_count_le_one.mp hb.nodup d
  simpa [Ledger.places, ledger, accounted] using hle

theorem not_reported_of_inHand {st : SpeakerSystem} (h : machine.Reachable st) {d : SpeechData}
    (hd : st.pc.stage.inHand = some d) : d ∉ reportedIn st.log := by
  intro hm
  have hle := reachable_places_le_one h d
  have hcount := List.count_pos_iff.mpr hm
  have hone : st.pc.stage.inHand.toList.count d = 1 := by simp [hd]
  unfold accounted at hle
  omega

def OwnPlaces (st : SpeakerSystem) (d : SpeechData) : Prop :=
  (∀ c ds, .cancelled c ds ∈ st.log → d ∈ ds → c = d.client) ∧
    ∀ c k, .callback c (.ended k) d ∈ st.log → c = d.client

theorem reachable_ownPlaces {st : SpeakerSystem} (h : machine.Reachable st) (d : SpeechData) : st.OwnPlaces d := by
  have hown := reachable_own h
  constructor
  · intro c ds hc hd
    exact (hown _ hc d hd).symm
  · intro c k hk
    exact (hown _ hk).symm

/-- **No accepted speech disappears** but by a flush: a queued speech waits, is
being processed, was returned to its own client, was reported to its own client
by one terminal callback, or was flushed, and only one of these. -/
theorem speech_in_one_place {st : SpeakerSystem} (h : machine.Reachable st) {d : SpeechData}
    (hd : .queued d ∈ st.log) : st.accounted d + (droppedIn st.log).count d = 1 ∧ st.OwnPlaces d := by
  refine ⟨?_, reachable_ownPlaces h d⟩
  obtain ⟨l, hl, rfl, -⟩ := machine_refines.reachable h
  have hmem : d ∈ acceptedIn st.log := List.mem_filterMap.mpr ⟨_, hd, rfl⟩
  have hone := Ledger.places_eq_one hl hmem
  simpa [Ledger.places, ledger, accounted] using hone

/-- Two speeches of two clients: one is taken, the other waits. -/
theorem speech_in_one_place_waiting :
    ∃ st d, machine.Reachable st ∧ .queued d ∈ st.log ∧ d.client = 8 ∧
      st.accounted d + (droppedIn st.log).count d = 1 ∧ st.OwnPlaces d := by
  have hst := reachable_of_run 1
    [.call 0 (.speak 7 1 "hi".toList false false), .caller 0, .call 1 (.speak 8 1 "ho".toList false false), .caller 1,
      .thread true, .thread true, .thread true, .thread true, .thread true, .thread true, .thread true, .thread true,
      .thread true] rfl
  have hd : Record.queued ⟨8, false, 1, "ho".toList, 1⟩ ∈
      [Record.queued ⟨7, false, 1, "hi".toList, 0⟩, Record.queued ⟨8, false, 1, "ho".toList, 1⟩] := by decide
  exact ⟨_, _, hst, hd, rfl, speech_in_one_place hst hd⟩

/-- The preemptive `speak` of one client clears the waiting speech of another,
which nobody hears of again. -/
theorem flushed_speech_has_no_place :
    ¬ ∀ st d, machine.Reachable st → .queued d ∈ st.log → st.accounted d = 1 ∧ st.OwnPlaces d := by
  intro h
  have hst := reachable_of_run 1
    [.call 0 (.speak 7 1 "hi".toList false false), .caller 0, .call 1 (.speak 8 2 "ho".toList false true), .caller 1,
      .caller 1, .caller 1] rfl
  have hone := (h _ ⟨7, false, 1, "hi".toList, 0⟩ hst (by decide)).1
  revert hone
  decide

end SpeakerSystem

end TTS
