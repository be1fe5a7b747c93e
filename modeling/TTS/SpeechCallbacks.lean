import TTS.MessageHandler

/-!
# What the clients are told

The callbacks come in turns, one speech at a time: `willSpeak`, any changes
of state, and the terminal callback, all to the client of the speech. A speech
cancelled before its `willSpeak`, or one that met no pipeline, has the
terminal callback only. The terminal callback takes no lock, so that it may
overtake a change of state that the message handler is about to tell.
-/

namespace TTS

open Transition

def callbacksIn (log : List Record) : List (Nat × Callback × SpeechData) :=
  log.filterMap fun
    | .callback c cb d => some (c, cb, d)
    | _ => none

/-- The callbacks so far, the speech whose turn is not over, and the one whose
turn is over but for a change of state that comes late. -/
inductive Turns : List (Nat × Callback × SpeechData) → Option SpeechData → Option SpeechData → Prop
  | nil : Turns [] none none
  | willSpeak {cbs late} (h : Turns cbs none late) (d : SpeechData) :
    Turns (cbs ++ [(d.client, .willSpeak, d)]) (some d) none
  | changed {cbs d late} (h : Turns cbs (some d) late) (notice : Notice) :
    Turns (cbs ++ [(d.client, notice.callback, d)]) (some d) none
  | ended {cbs d late} (h : Turns cbs (some d) late) (k : Terminal) :
    Turns (cbs ++ [(d.client, .ended k, d)]) none (some d)
  | late {cbs d} (h : Turns cbs none (some d)) (notice : Notice) :
    Turns (cbs ++ [(d.client, notice.callback, d)]) none none
  | untold {cbs k late} (h : Turns cbs none late) (d : SpeechData) (terminal : k = .interrupted ∨ k = .playbackerror) :
    Turns (cbs ++ [(d.client, .ended k, d)]) none none

namespace ThreadPc

/-- The speech whose turn it is, by the thread's position. Only where `m_flushed`
was set in time is there none. -/
def TurnOf (flushed : Bool) (turn : Option SpeechData) : ThreadPc → Prop
  | .speakTest d | .choose d => turn = some d ∨ turn = none ∧ flushed = true
  | .speakEnter d | .speakGuard d | .speakPlay d | .waitAudio d | .audioStop d | .audioEnd d | .speakLeave d
  | .chooseNetwork d | .choosePlayback d => turn = some d
  | .report d k => turn = some d ∨ turn = none ∧ k = .interrupted
  | _ => turn = none

theorem turnOf_free {pc : ThreadPc} {flushed : Bool} {turn : Option SpeechData} (hf : pc.stage = .free) :
    pc.TurnOf flushed turn ↔ turn = none := by
  cases pc <;> first | exact Iff.rfl | cases hf

theorem TurnOf.mono {pc : ThreadPc} {flushed flushed' : Bool} {turn : Option SpeechData} (h : pc.TurnOf flushed turn)
    (hf : flushed = true → flushed' = true) : pc.TurnOf flushed' turn := by
  cases pc with
  | speakTest d | choose d => exact h.imp id fun hn => ⟨hn.1, hf hn.2⟩
  | _ => exact h

theorem TurnOf.inHand {pc : ThreadPc} {flushed : Bool} {d : SpeechData} (h : pc.TurnOf flushed (some d)) :
    pc.stage.inHand = some d := by
  cases pc <;> simp_all [TurnOf, stage, Stage.inHand]

/-- The speech that the message handler finds is that of the turn. -/
theorem TurnOf.current {pc : ThreadPc} {s : TTSSpeaker} {turn : Option SpeechData} (h : pc.TurnOf s.flushed turn)
    (hp : pc.Points s) {c : Nat} {d : SpeechData} (hc : s.clientSpeaking = some c) (hd : s.currentSpeech = some d) :
    turn = some d ∧ c = d.client := by
  cases pc <;> simp_all [Points, TurnOf]

/-- It is the turn of `d`, or it was and the thread is about to clear `m_clientSpeaking`. -/
def About (turn late : Option SpeechData) (d : SpeechData) (pc : ThreadPc) : Prop :=
  turn = some d ∨ turn = none ∧ late = some d ∧ pc = .clearSpeaking

end ThreadPc

/-! ## Steps -/

theorem callbacksIn_append (log log' : List Record) : callbacksIn (log ++ log') = callbacksIn log ++ callbacksIn log' :=
  List.filterMap_append

/-- Some turn goes on after the new entries of the log, and what it was about before, that it is about still. -/
def TurnsOn (cbs : List (Nat × Callback × SpeechData)) (turn : Option SpeechData) (pc : ThreadPc) (flushed : Bool)
    (log : List Record) : Prop :=
  ∃ turn' late', Turns (cbs ++ callbacksIn log) turn' late' ∧ pc.TurnOf flushed turn' ∧
    ∀ d, turn = some d → pc.About turn' late' d

section
variable {cbs : List (Nat × Callback × SpeechData)} {turn late : Option SpeechData}

theorem turnsOn_silent {pc : ThreadPc} {flushed : Bool} (h : Turns cbs turn late) (hpc : pc.TurnOf flushed turn)
    {log : List Record} (hlog : callbacksIn log = []) : TurnsOn cbs turn pc flushed log :=
  ⟨turn, late, by rwa [hlog, List.append_nil], hpc, fun _ hd => .inl hd⟩

theorem turnsOn_ended {flushed : Bool} {d : SpeechData} {k : Terminal} (h : Turns cbs turn late)
    (hd : turn = some d ∨ turn = none ∧ k = .interrupted) :
    TurnsOn cbs turn .clearSpeaking flushed [.callback d.client (.ended k) d] := by
  rcases hd with rfl | ⟨rfl, hk⟩
  · exact ⟨none, some d, h.ended k, rfl, fun d' hd' => .inr ⟨rfl, hd', rfl⟩⟩
  · exact ⟨none, none, h.untold d (.inl hk), rfl, fun d' hd' => nomatch hd'⟩

/-- **A step of the thread goes on with the turn.** -/
theorem ThreadPc.run_turns {pc : ThreadPc} {s : TTSSpeaker} (h : Turns cbs turn late) (hpc : pc.TurnOf s.flushed turn)
    {choice : Bool} {mv : Move ThreadPc} (hr : pc.run choice s = some (.ok mv)) :
    TurnsOn cbs turn mv.pc mv.speaker.flushed mv.log := by
  by_cases hf : pc.stage = .free
  · have hnone := (turnOf_free hf).mp hpc
    rcases run_of_free hf hr with ⟨hst, hlog, -⟩ | ⟨d, rest, -, ⟨rfl, rfl⟩ | ⟨rfl, rfl⟩⟩
    · refine turnsOn_silent h ?_ (by rw [hlog]; rfl)
      exact (turnOf_free hst).mpr hnone
    · refine turnsOn_silent h ?_ rfl
      exact hnone
    · refine turnsOn_silent h ?_ rfl
      exact hnone
  cases pc with
  | failedReport d =>
    obtain rfl := Except.ok.inj (Option.some.inj hr)
    obtain rfl : turn = none := hpc
    exact ⟨none, none, h.untold d (.inr rfl), rfl, fun d' hd' => nomatch hd'⟩
  | setSpeaking d =>
    obtain rfl := Except.ok.inj (Option.some.inj hr)
    refine turnsOn_silent h ?_ rfl
    exact hpc
  | willSpeak d =>
    obtain rfl := Except.ok.inj (Option.some.inj hr)
    obtain rfl : turn = none := hpc
    by_cases hflag : s.flushed = true
    · refine turnsOn_silent h ?_ (by simp [hflag, callbacksIn])
      exact .inr ⟨rfl, hflag⟩
    · exact ⟨some d, none, by simpa [hflag, callbacksIn] using h.willSpeak d, .inl rfl, fun d' hd' => nomatch hd'⟩
  | speakTest d =>
    simp only [run, run.go] at hr
    obtain rfl := Except.ok.inj (Option.some.inj hr)
    by_cases hflag : s.flushed = true
    · refine turnsOn_silent h ?_ rfl
      simp only [hflag]
      exact hpc.imp id fun hn => ⟨hn.1, rfl⟩
    · have hd : turn = some d := hpc.resolve_right fun hn => hflag hn.2
      refine turnsOn_silent h ?_ rfl
      simp only [hflag]
      exact hd
  | speakGuard d =>
    simp only [run, run.go] at hr
    split at hr <;> (obtain rfl := Except.ok.inj (Option.some.inj hr); refine turnsOn_silent h ?_ rfl; exact hpc)
  | waitAudio d =>
    simp only [run, run.go] at hr
    split at hr
    · obtain rfl := Except.ok.inj (Option.some.inj hr)
      refine turnsOn_silent h ?_ rfl
      exact hpc
    · cases hr
  | speakLeave d =>
    obtain rfl := Except.ok.inj (Option.some.inj hr)
    refine turnsOn_silent h ?_ rfl
    exact .inl hpc
  | speakEnter | speakPlay | audioStop | audioEnd =>
    obtain rfl := Except.ok.inj (Option.some.inj hr)
    refine turnsOn_silent h ?_ rfl
    exact hpc
  | choose d =>
    simp only [run, run.go, run.say] at hr
    split at hr
    · obtain rfl := Except.ok.inj (Option.some.inj hr)
      refine turnsOn_silent h ?_ rfl
      exact hpc.imp id fun hn => ⟨hn.1, rfl⟩
    next hflag =>
      obtain rfl := Except.ok.inj (Option.some.inj hr)
      refine turnsOn_silent h ?_ rfl
      exact hpc.resolve_right fun hn => hflag hn.2
  | chooseNetwork d =>
    simp only [run, run.go, run.say] at hr
    split at hr
    · obtain rfl := Except.ok.inj (Option.some.inj hr)
      refine turnsOn_silent h ?_ rfl
      exact .inl hpc
    · obtain rfl := Except.ok.inj (Option.some.inj hr)
      refine turnsOn_silent h ?_ rfl
      exact hpc
  | choosePlayback d =>
    obtain rfl := Except.ok.inj (Option.some.inj hr)
    refine turnsOn_silent h ?_ rfl
    exact .inl hpc
  | report d k =>
    obtain rfl := Except.ok.inj (Option.some.inj hr)
    exact turnsOn_ended h hpc
  | clearSpeaking =>
    obtain rfl := Except.ok.inj (Option.some.inj hr)
    refine turnsOn_silent h ?_ rfl
    exact hpc
  | _ => exact absurd rfl hf

end

/-- A caller calls no client back. -/
theorem CallPc.run_callbacks {pc : CallPc} {s : TTSSpeaker} {mv : Move CallPc} (hr : pc.run s = some mv) :
    callbacksIn mv.log = [] := by
  cases pc with
  | idle => cases hr
  | stateCurrent =>
    simp only [run, run.go] at hr
    split at hr <;> (obtain rfl := Option.some.inj hr; rfl)
  | _ =>
    obtain rfl := Option.some.inj hr
    rfl

/-! ## Runs -/

namespace MessagePc

/-- What the handler has read is about a speech of its client. -/
def Tells (about : SpeechData → Prop) : MessagePc → Prop
  | .readText c d | .call c _ d => about d ∧ c = d.client
  | _ => True

theorem Tells.mono {about about' : SpeechData → Prop} {pc : MessagePc} (h : pc.Tells about)
    (ha : ∀ d, about d → about' d) : pc.Tells about' := by
  cases pc with
  | readText c d | call c notice d => exact ⟨ha d h.1, h.2⟩
  | _ => exact h

/-- It makes no callback before it has read the speech, which is that of its client. -/
theorem run_tells {pc : MessagePc} {about : SpeechData → Prop} {s : TTSSpeaker} {mv : Move MessagePc} (h : pc.Tells about)
    (hr : pc.run s = some (.ok mv))
    (hs : ∀ c d, pc.client = some c → s.currentSpeech = some d → about d ∧ c = d.client ∧ ∀ e, about e → e = d) :
    mv.pc.Tells about := by
  cases pc with
  | idle => cases hr
  | begun message =>
    cases message <;> cases hr <;> try trivial
    simp only
    split <;> trivial
  | changed old new =>
    cases old <;> cases new <;> cases hr <;> first
      | trivial
      | (cases hs : s.clientSpeaking <;> simp only [Option.map_none, Option.map_some, Option.getD_none, Option.getD_some] <;>
          trivial)
  | playingTest c | pausedTest c =>
    cases hr
    simp only
    split <;> trivial
  | resumedClear c =>
    cases hr
    trivial
  | readId c notice =>
    cases hd : s.currentSpeech with
    | none => simp [run, run.current, hd] at hr
    | some d =>
      simp only [run, run.current, hd, Option.some.injEq, Except.ok.injEq] at hr
      subst hr
      obtain ⟨ha, hc, -⟩ := hs c d rfl hd
      simp only
      split <;> exact ⟨ha, hc⟩
  | readText c d =>
    cases he : s.currentSpeech with
    | none => simp [run, run.current, he] at hr
    | some e =>
      simp only [run, run.current, he, Option.some.injEq, Except.ok.injEq] at hr
      subst hr
      obtain rfl := (hs c e rfl he).2.2 d h.1
      exact h
  | errorSet | call =>
    cases hr
    trivial

end MessagePc

namespace Dispatch

/-- The callbacks are turns, and what the handler is about to tell belongs to the last of them. -/
def InTurn (st : Dispatch) : Prop :=
  ∃ turn late, Turns (callbacksIn st.system.log) turn late ∧ st.system.pc.TurnOf st.system.speaker.flushed turn ∧
    st.handler.Tells fun d => st.system.pc.About turn late d

/-- Past the test of `m_clientSpeaking` the handler keeps the thread from the end of the turn. -/
theorem tells_of_blocked {handler : MessagePc} {turn late : Option SpeechData} {pc pc' : ThreadPc}
    {turn' late' : Option SpeechData} (h : handler.Tells fun d => pc.About turn late d)
    (hfree : (pc.locksState && handler.client.isSome) = false) (ha : ∀ d, turn = some d → pc'.About turn' late' d) :
    handler.Tells fun d => pc'.About turn' late' d := by
  have hturn : handler.client.isSome = true → ∀ d, pc.About turn late d → turn = some d := by
    intro hc d hd
    rw [hc, Bool.and_true] at hfree
    refine hd.resolve_right fun hn => ?_
    rw [hn.2.2] at hfree
    cases hfree
  cases handler with
  | readText c d | call c notice d => exact ⟨ha d (hturn rfl d h.1), h.2⟩
  | _ => exact h

theorem system_inTurn {st : Dispatch} (h : st.InTurn) {a : SpeakerSystem.Label} {system : SpeakerSystem}
    (hother : a ≠ .deliver) (hfree : (waitsForState st.system a && st.handler.client.isSome) = false)
    (hs : SpeakerSystem.machine.step st.system a = some system) : InTurn { st with system := system } := by
  obtain ⟨turn, late, hturns, hpc, htells⟩ := h
  cases SpeakerSystem.step_ran hs with
  | popEmpty | call | post => exact ⟨turn, late, hturns, hpc, htells⟩
  | thread _ run =>
    obtain ⟨turn', late', hturns', hpc', habout⟩ := ThreadPc.run_turns hturns hpc run
    refine ⟨turn', late', ?_, hpc', tells_of_blocked htells hfree habout⟩
    rw [callbacksIn_append]
    exact hturns'
  | caller _ run =>
    refine ⟨turn, late, ?_, hpc.mono (CallPc.run_moves run).keepsSpeaking.flushed, htells⟩
    rw [callbacksIn_append, CallPc.run_callbacks run, List.append_nil]
    exact hturns
  | nullSpeech | deliver => exact absurd rfl hother

/-- **A step of the handler goes on with the turn**, or tells its last change of state late. -/
theorem handler_inTurn {st : Dispatch} (h : st.InTurn) (hp : st.Pointed) {mv : Move MessagePc}
    (hr : st.handler.run st.system.speaker = some (.ok mv)) :
    InTurn ⟨{ st.system with speaker := mv.speaker, log := st.system.log ++ mv.log }, mv.pc⟩ := by
  obtain ⟨turn, late, hturns, hpc, htells⟩ := h
  obtain ⟨⟨_, _, _, _, hs'⟩, hlog | ⟨c, notice, d, hcall, rfl⟩⟩ := MessagePc.run_frame hr
  · refine ⟨turn, late, ?_, by rw [hs']; exact hpc, MessagePc.run_tells htells hr fun c d hc hd => ?_⟩
    · rw [hlog, List.append_nil]
      exact hturns
    obtain ⟨hturn, hclient⟩ := hpc.current hp.points (hp.client c hc) hd
    refine ⟨.inl hturn, hclient, fun e he => ?_⟩
    rcases he with he | ⟨hnone, -⟩
    · exact Option.some.inj (he.symm.trans hturn)
    · exact nomatch hnone.symm.trans hturn
  · rw [hcall] at htells
    obtain ⟨habout, rfl⟩ := htells
    simp only [InTurn]
    rw [callbacksIn_append]
    rcases habout with rfl | ⟨rfl, rfl, hclear⟩
    · exact ⟨some d, none, hturns.changed notice, hpc, trivial⟩
    · exact ⟨none, none, hturns.late notice, hpc, trivial⟩

theorem step_inTurn {st st' : Dispatch} {a : Label} (h : st.InTurn) (hp : st.Pointed)
    (hs : machine.step st a = some st') : st'.InTurn := by
  cases step_ran hs with
  | system other free hstep => exact system_inTurn h other free hstep
  | deliver | dispatch =>
    obtain ⟨turn, late, hturns, hpc, -⟩ := h
    exact ⟨turn, late, hturns, hpc, trivial⟩
  | nullSpeech => exact h
  | handler run => exact handler_inTurn h hp run

theorem reachable_inTurn {st : Dispatch} (h : machine.Reachable st) : st.InTurn := by
  have hboth : st.InTurn ∧ st.Pointed := by
    refine Machine.Reachable.invariant (I := fun st : Dispatch => st.InTurn ∧ st.Pointed) ?_
      (fun _ _ _ hI hs => ⟨step_inTurn hI.1 hI.2 hs, step_pointed hI.2 hs⟩) h
    rintro _ ⟨maxFailures, rfl⟩
    exact ⟨⟨none, none, .nil, rfl, trivial⟩, ⟨rfl, rfl⟩, fun c hc => nomatch hc⟩
  exact hboth.1

/-! ## One turn each -/

/-- With messages handled at any time the speaker is still a ledger of speeches. -/
theorem machine_refines : Machine.Refines machine (fun _ _ => True) Ledger.machine
    fun st l => SpeakerSystem.Keeps st.system l where
  init st h := by
    obtain ⟨maxFailures, rfl⟩ := h
    exact SpeakerSystem.machine_refines.init _ ⟨maxFailures, rfl⟩
  step st a st' l hk _ hs := by
    have hsame : ∀ {system : SpeakerSystem}, system.speaker.queue = st.system.speaker.queue →
        system.speaker.queued = st.system.speaker.queued → system.pc = st.system.pc → system.log = st.system.log →
        ∃ l', Ledger.machine.Steps l l' ∧ SpeakerSystem.Keeps system l' := by
      intro system hqueue hqueued hpc hlog
      exact SpeakerSystem.keeps_of_same hk hqueue hqueued (by rw [hpc]) (hlog ▸ .refl _)
    cases step_ran hs with
    | system _ _ hstep => exact SpeakerSystem.step_keeps hk hstep
    | deliver | dispatch | nullSpeech => exact hsame rfl rfl rfl rfl
    | @handler mv run =>
      obtain ⟨⟨_, _, _, _, hs'⟩, hlog⟩ := MessagePc.run_frame run
      refine SpeakerSystem.keeps_of_same hk ?_ ?_ rfl (sameEntries_append (sameEntries_quiet fun r hr => ?_))
      · simp only [hs']
      · simp only [hs']
      · rcases hlog with hlog | ⟨c, notice, d, -, rfl⟩
        · rw [hlog] at hr
          cases hr
        · rw [List.mem_singleton.mp hr]
          cases notice <;> rfl

end Dispatch

/-- The speeches that were told to begin, in turn. -/
def toldIn (cbs : List (Nat × Callback × SpeechData)) : List SpeechData :=
  cbs.filterMap fun
    | (_, .willSpeak, d) => some d
    | _ => none

def endedIn (cbs : List (Nat × Callback × SpeechData)) : List SpeechData :=
  cbs.filterMap fun
    | (_, .ended _, d) => some d
    | _ => none

theorem endedIn_callbacksIn (log : List Record) : endedIn (callbacksIn log) = reportedIn log := by
  simp only [endedIn, callbacksIn, reportedIn, List.filterMap_filterMap]
  refine List.filterMap_congr fun r _ => ?_
  cases r with
  | callback c cb d => cases cb <;> rfl
  | _ => rfl

@[simp] theorem toldIn_notice (cbs : List (Nat × Callback × SpeechData)) (c : Nat) (notice : Notice) (d : SpeechData) :
    toldIn (cbs ++ [(c, notice.callback, d)]) = toldIn cbs := by
  cases notice <;> simp [toldIn, Notice.callback]

@[simp] theorem endedIn_notice (cbs : List (Nat × Callback × SpeechData)) (c : Nat) (notice : Notice) (d : SpeechData) :
    endedIn (cbs ++ [(c, notice.callback, d)]) = endedIn cbs := by
  cases notice <;> simp [endedIn, Notice.callback]

/-- A speech begins once more than it ends, at most, and that only in its turn. -/
theorem Turns.told_le {cbs : List (Nat × Callback × SpeechData)} {turn late : Option SpeechData} (h : Turns cbs turn late)
    (x : SpeechData) : (toldIn cbs).count x ≤ (endedIn cbs).count x + turn.toList.count x := by
  induction h with
  | nil => exact Nat.le.refl
  | willSpeak _ d ih =>
    simp only [toldIn, endedIn, List.filterMap_append, List.filterMap_cons, List.filterMap_nil, List.count_append,
      List.count_nil, Option.toList] at ih ⊢
    omega
  | changed _ notice ih | late _ notice ih => simpa using ih
  | ended _ k ih =>
    simp only [toldIn, endedIn, List.filterMap_append, List.filterMap_cons, List.filterMap_nil, List.count_append,
      List.count_nil, Option.toList] at ih ⊢
    omega
  | untold _ d _ ih =>
    simp only [toldIn, endedIn, List.filterMap_append, List.filterMap_cons, List.filterMap_nil, List.count_append,
      List.count_nil, Option.toList] at ih ⊢
    omega

namespace Dispatch

theorem told_le_one {st : Dispatch} (h : machine.Reachable st) {turn late : Option SpeechData}
    (hturns : Turns (callbacksIn st.system.log) turn late)
    (hpc : st.system.pc.TurnOf st.system.speaker.flushed turn) (d : SpeechData) :
    (toldIn (callbacksIn st.system.log)).count d ≤ 1 := by
  have htold := hturns.told_le d
  rw [endedIn_callbacksIn] at htold
  have hhand : turn.toList.count d ≤ st.system.pc.stage.inHand.toList.count d := by
    cases turn with
    | none => exact Nat.zero_le _
    | some e => rw [hpc.inHand]
  obtain ⟨l, hl, rfl, -⟩ := machine_refines.reachable h
  have hb := Ledger.reachable_balanced hl
  have hle : st.system.ledger.places d ≤ 1 := hb.places d ▸ List.nodup_iff_count_le_one.mp hb.nodup d
  simp only [Ledger.places, SpeakerSystem.ledger] at hle
  omega

end Dispatch

end TTS
