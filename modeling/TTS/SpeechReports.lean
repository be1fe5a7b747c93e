import TTS.JsonRuns

/-!
# Reports of JSON-RPC speeches

Within one service lifetime every end of a speech is reported once, when replies
are entered under new client ids and before the terminal event. Across restarts
the map stays injective, and events are reported under the right id, when no
entry left behind carries an id that the restarted service gives again.
-/

namespace TTS

open Transition

namespace JsonSystem

/-! ## What a step adds to the log -/

/-- Speeches keep their client id and, but for the one an event ends, their end. -/
structure Keeps (l l' : List JsonSpeech) : Prop where
  old : ∀ (i : Nat) (sp : JsonSpeech), l[i]? = some sp →
    ∃ sp', l'[i]? = some sp' ∧ sp'.clientId = sp.clientId ∧ sp'.ended = sp.ended
  new : ∀ (i : Nat) (sp' : JsonSpeech), l'[i]? = some sp' → l[i]? = none → sp'.ended = none

theorem keeps_refl (l : List JsonSpeech) : Keeps l l := by
  refine ⟨fun i sp h => ⟨sp, h, rfl, rfl⟩, fun i sp h hn => ?_⟩
  rw [hn] at h
  cases h

theorem keeps_accept (l : List JsonSpeech) {sp : JsonSpeech} (he : sp.ended = none) : Keeps l (l ++ [sp]) := by
  refine ⟨fun i x hx => ⟨x, getElem?_concat_iff.mpr (.inl hx), rfl, rfl⟩, fun i x hx hn => ?_⟩
  rcases getElem?_concat_iff.mp hx with hx | ⟨-, rfl⟩
  · rw [hn] at hx
    cases hx
  · exact he

theorem keeps_returned {l : List JsonSpeech} {i : Nat} {sp : JsonSpeech} (hi : l[i]? = some sp) :
    Keeps l (l.set i { sp with returned := true }) := by
  refine ⟨fun j x hx => ?_, fun j x hx hn => ?_⟩
  · by_cases h : j = i
    · subst h
      obtain rfl := Option.some.inj (hx.symm.trans hi)
      exact ⟨_, (getElem?_set_iff hi).mpr (.inl ⟨rfl, rfl⟩), rfl, rfl⟩
    · exact ⟨x, (getElem?_set_iff hi).mpr (.inr ⟨h, hx⟩), rfl, rfl⟩
  · rcases (getElem?_set_iff hi).mp hx with ⟨rfl, -⟩ | ⟨-, hx⟩
    · rw [hn] at hi
      cases hi
    · rw [hn] at hx
      cases hx

theorem dispatchEvent_appId (s : TextToSpeechService) (e : SpeechEvent) (n : Nat) (c : TTSClientPrivateJsonRPC) :
    (s.dispatchEvent e n c).2.appId = c.appId := by
  unfold TextToSpeechService.dispatchEvent
  split
  · cases e <;> rfl
  · rfl

/-- **Every step** is an event the client processes, or it leaves the log and the ends alone. -/
theorem step_cases {st st' : JsonSystem} {a : Label} (hs : st.step a = some st') :
    st'.client.appId = st.client.appId ∧
      ((∃ i e sp, a = .event i e ∧ st.speeches[i]? = some sp ∧ e.name ∈ st.service.eventsRegistered ∧
          sp.ended = none ∧ st' = st.takeEvent i e sp) ∨
        (st'.log = st.log ∧ Keeps st.speeches st'.speeches)) := by
  cases a with
  | speak id serviceId accepts =>
    simp only [step, Option.ite_none_right_eq_some, Option.some.injEq] at hs
    obtain ⟨-, rfl⟩ := hs
    exact ⟨rfl, .inr ⟨rfl, keeps_accept _ rfl⟩⟩
  | unnumbered id failed accepts =>
    simp only [step, Option.ite_none_right_eq_some, Option.some.injEq] at hs
    obtain ⟨-, rfl⟩ := hs
    refine ⟨?_, .inr ⟨rfl, keeps_refl _⟩⟩
    cases failed <;> rfl
  | reply i =>
    simp only [step, Option.bind_eq_some_iff, Option.ite_none_left_eq_some, Option.some.injEq] at hs
    obtain ⟨sp, hi, -, rfl⟩ := hs
    exact ⟨rfl, .inr ⟨rfl, keeps_returned hi⟩⟩
  | event i e =>
    simp only [step, Option.bind_eq_some_iff, Option.ite_none_right_eq_some, Option.some.injEq] at hs
    obtain ⟨sp, hi, ⟨-, hn, he⟩, rfl⟩ := hs
    exact ⟨dispatchEvent_appId _ _ _ _, .inl ⟨i, e, sp, rfl, hi, hn, he, rfl⟩⟩
  | stateChange enabled =>
    simp only [step, Option.ite_none_right_eq_some, Option.some.injEq] at hs
    obtain ⟨-, rfl⟩ := hs
    refine ⟨?_, .inr ⟨rfl, keeps_refl _⟩⟩
    simp only
    split <;> rfl
  | deactivate =>
    obtain rfl := Option.some.inj hs
    exact ⟨rfl, .inr ⟨rfl, keeps_refl _⟩⟩
  | activate accepts =>
    simp only [step, Option.ite_none_left_eq_some, Option.some.injEq] at hs
    obtain ⟨-, rfl⟩ := hs
    refine ⟨?_, .inr ⟨rfl, keeps_refl _⟩⟩
    simp only [activated]
    split <;> rfl

/-! ## One service lifetime -/

/-- A reply is entered under a client id that is not 0 and not in the map, and a
terminal event is processed after the reply. -/
def Heard (st : JsonSystem) : Label → Prop
  | .reply i => ∀ sp, st.speeches[i]? = some sp → sp.clientId ≠ 0 ∧ sp.clientId ∉ st.client.requestedSpeeches
  | .event i e => e.terminal = true → ∀ sp, st.speeches[i]? = some sp → sp.returned = true
  | _ => True

structure Reported (st : JsonSystem) : Prop where
  ended : ∀ i sp, st.speeches[i]? = some sp → st.endReports i = sp.ended.toList.map fun e => st.reportOf e sp
  known : ∀ d ∈ st.log, ∃ sp, st.speeches[d.speech]? = some sp

theorem reportOf_congr {st st' : JsonSystem} {sp sp' : JsonSpeech} (ha : st'.client.appId = st.client.appId)
    (hc : sp'.clientId = sp.clientId) (e : SpeechEvent) : st'.reportOf e sp' = st.reportOf e sp := by
  simp [reportOf, ha, hc]

theorem endReports_takeEvent (st : JsonSystem) (i : Nat) (e : SpeechEvent) (sp : JsonSpeech) (j : Nat) :
    (st.takeEvent i e sp).endReports j =
      st.endReports j ++
        if i = j ∧ e.terminal = true then (st.service.dispatchEvent e sp.serviceId st.client).1 else [] := by
  simp only [endReports, takeEvent, List.filter_append, List.flatMap_append]
  congr 1
  by_cases h : i = j ∧ e.terminal = true <;> simp [h]

theorem Reported.quiet {st st' : JsonSystem} (h : Reported st) (ha : st'.client.appId = st.client.appId)
    (hl : st'.log = st.log) (hk : Keeps st.speeches st'.speeches) : Reported st' := by
  have he : ∀ i, st'.endReports i = st.endReports i := fun i => by rw [endReports, hl, endReports]
  refine ⟨fun i sp' hi => ?_, fun d hd => ?_⟩
  · rw [he]
    cases ho : st.speeches[i]? with
    | none =>
      rw [hk.new i sp' hi ho]
      simp only [endReports, Option.toList_none, List.map_nil, List.flatMap_eq_nil_iff, List.mem_filter]
      rintro d ⟨hd, hc⟩
      obtain ⟨sp, hsp⟩ := h.known d hd
      obtain ⟨rfl, -⟩ := of_decide_eq_true hc
      rw [ho] at hsp
      cases hsp
    | some sp =>
      obtain ⟨x, hx, hc, hend⟩ := hk.old i sp ho
      obtain rfl := Option.some.inj (hx.symm.trans hi)
      rw [h.ended i sp ho, hend]
      exact List.map_congr_left fun e _ => (reportOf_congr ha hc e).symm
  · rw [hl] at hd
    obtain ⟨sp, hsp⟩ := h.known d hd
    obtain ⟨x, hx, -⟩ := hk.old _ sp hsp
    exact ⟨x, hx⟩

theorem Reported.takeEvent {st : JsonSystem} (hr : Reported st) (h : Sound st) {i : Nat} {e : SpeechEvent}
    {sp : JsonSpeech} (hi : st.speeches[i]? = some sp) (hn : e.name ∈ st.service.eventsRegistered)
    (he : sp.ended = none) (ho : st.Recordable (.event i e)) : Reported (st.takeEvent i e sp) := by
  have ha : (st.takeEvent i e sp).client.appId = st.client.appId := dispatchEvent_appId _ _ _ _
  have hlog : ∀ d ∈ (st.takeEvent i e sp).log, d ∈ st.log ∨ d.speech = i := by
    intro d hd
    rcases List.mem_append.mp hd with hd | hd
    · exact .inl hd
    · rw [List.mem_singleton.mp hd]
      exact .inr rfl
  cases ht : e.terminal with
  | false =>
    have hsp : (st.takeEvent i e sp).speeches = st.speeches := by simp [JsonSystem.takeEvent, ht]
    refine ⟨fun j x hx => ?_, fun d hd => ?_⟩
    · rw [hsp] at hx
      rw [endReports_takeEvent, if_neg (by simp [ht]), List.append_nil, hr.ended j x hx]
      exact List.map_congr_left fun k _ => (reportOf_congr ha rfl k).symm
    · rw [hsp]
      rcases hlog d hd with hd | rfl
      · exact hr.known d hd
      · exact ⟨sp, hi⟩
  | true =>
    have hsp : (st.takeEvent i e sp).speeches = st.speeches.set i { sp with ended := some e } := by
      simp [JsonSystem.takeEvent, ht]
    have hp : sp.Pending := ⟨ho ht sp hi, he⟩
    refine ⟨fun j x hx => ?_, fun d hd => ?_⟩
    · rw [hsp] at hx
      rw [endReports_takeEvent]
      rcases (getElem?_set_iff hi).mp hx with ⟨rfl, rfl⟩ | ⟨hne, hx⟩
      · -- nothing was reported of its end before, and now it is reported once
        rw [if_pos ⟨rfl, ht⟩, hr.ended j sp hi, he, h.dispatch_reports hi hp hn]
        have hr : (st.takeEvent j e sp).reportOf e { sp with ended := some e } = st.reportOf e sp :=
          reportOf_congr ha rfl e
        exact congrArg (fun r => [r]) hr.symm
      · rw [if_neg (fun h => hne h.1.symm), List.append_nil, hr.ended j x hx]
        exact List.map_congr_left fun k _ => (reportOf_congr ha rfl k).symm
    · rw [hsp]
      rcases hlog d hd with hd | rfl
      · obtain ⟨x, hx⟩ := hr.known d hd
        by_cases hdi : d.speech = i
        · exact ⟨_, (getElem?_set_iff hi).mpr (.inl ⟨hdi, rfl⟩)⟩
        · exact ⟨x, (getElem?_set_iff hi).mpr (.inr ⟨hdi, hx⟩)⟩
      · exact ⟨_, (getElem?_set_iff hi).mpr (.inl ⟨rfl, rfl⟩)⟩

theorem step_reported {st st' : JsonSystem} {a : Label} (hr : Reported st) (h : Sound st) (ho : st.Recordable a)
    (hs : st.step a = some st') : Reported st' := by
  obtain ⟨ha, ⟨i, e, sp, rfl, hi, hn, he, rfl⟩ | ⟨hl, hk⟩⟩ := step_cases hs
  · exact hr.takeEvent h hi hn he ho
  · exact hr.quiet ha hl hk

theorem lifetime_step {st st' : JsonSystem} {a : Label} (hs : lifetime.step st a = some st') :
    st.step a = some st' ∧ st'.activation = st.activation := by
  cases a with
  | deactivate | activate => cases hs
  | speak | unnumbered | stateChange =>
    refine ⟨hs, ?_⟩
    simp only [lifetime, step, Option.ite_none_right_eq_some, Option.some.injEq] at hs
    obtain ⟨-, rfl⟩ := hs
    rfl
  | reply i =>
    refine ⟨hs, ?_⟩
    simp only [lifetime, step, Option.bind_eq_some_iff, Option.ite_none_left_eq_some, Option.some.injEq] at hs
    obtain ⟨sp, -, -, rfl⟩ := hs
    rfl
  | event i e =>
    refine ⟨hs, ?_⟩
    simp only [lifetime, step, Option.bind_eq_some_iff, Option.ite_none_right_eq_some, Option.some.injEq] at hs
    obtain ⟨sp, -, -, rfl⟩ := hs
    rfl

theorem Sound.not_entered {st : JsonSystem} (h : Sound st) {i : Nat} {sp : JsonSpeech}
    (hi : st.speeches[i]? = some sp) (hr : sp.returned = false) {j : Nat} {x : JsonSpeech}
    (hx : st.speeches[j]? = some x) (hp : x.Pending) (ha : x.activation = sp.activation) :
    x.serviceId ≠ sp.serviceId := by
  intro e
  obtain rfl := h.numbered j i x sp hx hi ha e
  obtain rfl := Option.some.inj (hx.symm.trans hi)
  rw [hp.1] at hr
  cases hr

theorem reply_unreturned {st st' : JsonSystem} {i : Nat} {sp : JsonSpeech} (hs : st.step (.reply i) = some st')
    (hi : st.speeches[i]? = some sp) : sp.returned = false := by
  simp only [step, Option.bind_eq_some_iff, Option.ite_none_left_eq_some] at hs
  obtain ⟨sp', hi', hr, -⟩ := hs
  obtain rfl := Option.some.inj (hi'.symm.trans hi)
  simpa using hr

theorem recordable_of_heard {st st' : JsonSystem} {a : Label} (h : Sound st) (h0 : st.activation = 0)
    (ho : st.Heard a) (hs : st.step a = some st') : st.Recordable a := by
  cases a with
  | reply i =>
    intro sp hi
    refine ⟨(ho sp hi).1, (ho sp hi).2, fun c hc => ?_⟩
    obtain ⟨j, x, hx, hp, -, hn⟩ := (h.entries.entry c _).mp hc
    have hxa := h.known x (List.mem_of_getElem? hx)
    have hia := h.known sp (List.mem_of_getElem? hi)
    exact h.not_entered hi (reply_unreturned hs hi) hx hp (by omega) hn
  | event i e => exact ho
  | speak | unnumbered | stateChange | deactivate | activate => trivial

/-- The terminal event of a speech is reported once when it is processed, and not before. -/
def EndReported (st : JsonSystem) (i : Nat) (sp : JsonSpeech) : Prop :=
  st.endReports i = sp.ended.toList.map fun e => st.reportOf e sp

/-- **Each end is reported once.** -/
theorem speech_end_reported {st : JsonSystem} (h : lifetime.ReachableIf Heard st) {i : Nat} {sp : JsonSpeech}
    (hi : st.speeches[i]? = some sp) : st.EndReported i sp := by
  have hI : Sound st ∧ Reported st ∧ st.activation = 0 := by
    refine Machine.ReachableIf.invariant (I := fun st => Sound st ∧ Reported st ∧ st.activation = 0) ?_ ?_ h
    · intro st hst
      refine ⟨start_sound hst, ?_⟩
      obtain ⟨_, _, _, _, rfl⟩ := hst
      refine ⟨⟨fun i sp hi => ?_, fun d hd => ?_⟩, rfl⟩
      · simp [start] at hi
      · cases hd
    · rintro st a st' ⟨hst, hr, h0⟩ ho hs
      obtain ⟨hs, ha⟩ := lifetime_step hs
      have ho := recordable_of_heard hst h0 ho hs
      exact ⟨step_sound hst ho hs, step_reported hr hst ho hs, ha.trans h0⟩
  exact hI.2.1.ended i sp hi

/-- A speech whose start and completion come after the reply. -/
theorem speech_end_reported_complete :
    ∃ st sp, lifetime.exec (start true 5 (some true) fun _ => true)
        [.speak 7 1 fun _ => true, .reply 0, .event 0 .start, .event 0 .complete] = some st ∧
      st.speeches[0]? = some sp ∧ sp.ended = some .complete ∧ st.EndReported 0 sp := by
  refine ⟨_, _, rfl, rfl, rfl, ?_⟩
  have h0 : lifetime.ReachableIf Heard (start true 5 (some true) fun _ => true) := .init ⟨_, _, _, _, rfl⟩
  have h1 := h0.step (a := Label.speak 7 1 fun _ => true) trivial rfl
  have h2 := h1.step (a := Label.reply 0) (by intro sp hsp; obtain rfl := Option.some.inj hsp; decide) rfl
  have h3 := h2.step (a := Label.event 0 .start) (fun h => (by cases h)) rfl
  have h4 := h3.step (a := Label.event 0 .complete) (by rintro - sp hsp; obtain rfl := Option.some.inj hsp; rfl) rfl
  exact speech_end_reported h4 rfl

/-- The completion is processed before the reply: it is not reported. -/
theorem speech_end_unreported :
    ∃ st, lifetime.Reachable st ∧ ∃ i sp, st.speeches[i]? = some sp ∧ sp.returned = true ∧ ¬ st.EndReported i sp := by
  refine ⟨_, Machine.reachable_of_exec (s := start true 5 (some true) fun _ => true) ⟨_, _, _, _, rfl⟩
    [.speak 7 1 fun _ => true, .event 0 .complete, .reply 0] rfl, 0, _, rfl, rfl, ?_⟩
  unfold EndReported
  decide

/-! ## Restarts of the service -/

/-- No entry that a speech of another activation left carries the id of the reply,
and events are processed after the reply. -/
def IdsKept (st : JsonSystem) : Label → Prop
  | .reply i => ∀ sp, st.speeches[i]? = some sp → ∀ sp' ∈ st.speeches, sp'.activation ≠ sp.activation →
      sp'.clientId ∈ st.client.requestedSpeeches → sp'.serviceId ≠ sp.serviceId
  | .event i _ => ∀ sp, st.speeches[i]? = some sp → sp.returned = true
  | _ => True

/-- No two entries share a service id, and every event was reported under the id
of the speech it is about. -/
structure Injective (st : JsonSystem) : Prop where
  distinct : ValueMap.Distinct st.client.requestedSpeeches
  meant : ∀ d ∈ st.log, ∃ sp, st.speeches[d.speech]? = some sp ∧ d.reports = [st.reportOf d.event sp]

def clientIds (st : JsonSystem) : List Nat := st.speeches.map JsonSpeech.clientId

theorem map_set_same {α β : Type} {f : α → β} {l : List α} {i : Nat} {x y : α} (hi : l[i]? = some x)
    (h : f y = f x) : (l.set i y).map f = l.map f := by
  apply List.ext_getElem?
  intro j
  by_cases hj : j = i
  · subst hj
    rw [List.getElem?_map, List.getElem?_map, (getElem?_set_iff hi).mpr (.inl ⟨rfl, rfl⟩), hi]
    exact congrArg some h
  · rw [List.getElem?_map, List.getElem?_map, List.getElem?_set_ne (fun e => hj e.symm)]

theorem restarting_step {st st' : JsonSystem} {a : Label} (hs : restarting.step st a = some st') :
    st.step a = some st' ∧
      (st'.clientIds = st.clientIds ∨ ∃ id, id ≠ 0 ∧ id ∉ st.clientIds ∧ st'.clientIds = st.clientIds ++ [id]) := by
  cases a with
  | speak id serviceId accepts =>
    simp only [restarting, Option.ite_none_right_eq_some] at hs
    obtain ⟨⟨h0, hne⟩, hs⟩ := hs
    refine ⟨hs, .inr ⟨id, h0, ?_, ?_⟩⟩
    · intro hm
      obtain ⟨sp, hsp, he⟩ := List.mem_map.mp hm
      exact hne sp hsp he
    · simp only [step, Option.ite_none_right_eq_some, Option.some.injEq] at hs
      obtain ⟨-, rfl⟩ := hs
      simp [clientIds]
  | unnumbered | stateChange =>
    refine ⟨hs, .inl ?_⟩
    simp only [restarting, step, Option.ite_none_right_eq_some, Option.some.injEq] at hs
    obtain ⟨-, rfl⟩ := hs
    rfl
  | deactivate =>
    refine ⟨hs, .inl ?_⟩
    obtain rfl := Option.some.inj hs
    rfl
  | activate accepts =>
    refine ⟨hs, .inl ?_⟩
    simp only [restarting, step, Option.ite_none_left_eq_some, Option.some.injEq] at hs
    obtain ⟨-, rfl⟩ := hs
    rfl
  | reply i =>
    refine ⟨hs, .inl ?_⟩
    simp only [restarting, step, Option.bind_eq_some_iff, Option.ite_none_left_eq_some, Option.some.injEq] at hs
    obtain ⟨sp, hi, -, rfl⟩ := hs
    exact map_set_same hi rfl
  | event i e =>
    refine ⟨hs, .inl ?_⟩
    simp only [restarting, step, Option.bind_eq_some_iff, Option.ite_none_right_eq_some, Option.some.injEq] at hs
    obtain ⟨sp, hi, -, rfl⟩ := hs
    simp only [clientIds, takeEvent]
    split
    · exact map_set_same hi rfl
    · rfl

structure Named (st : JsonSystem) : Prop where
  nodup : st.clientIds.Nodup
  nonzero : 0 ∉ st.clientIds

theorem Named.inj {st : JsonSystem} (h : Named st) {i j : Nat} {sp sp' : JsonSpeech} (hi : st.speeches[i]? = some sp)
    (hj : st.speeches[j]? = some sp') (hc : sp.clientId = sp'.clientId) : i = j := by
  have hlt := (List.getElem?_eq_some_iff.mp hi).1
  refine (List.getElem?_inj (by simpa [clientIds] using hlt) h.nodup).mp ?_
  rw [clientIds, List.getElem?_map, List.getElem?_map, hi, hj]
  exact congrArg some hc

theorem restarting_named {st st' : JsonSystem} {a : Label} (h : Named st) (hs : restarting.step st a = some st') :
    Named st' := by
  obtain ⟨-, e | ⟨id, h0, hn, e⟩⟩ := restarting_step hs
  · exact ⟨e ▸ h.nodup, e ▸ h.nonzero⟩
  · refine ⟨?_, ?_⟩
    · rw [e, List.nodup_append]
      refine ⟨h.nodup, by simp, fun x hx y hy hxy => ?_⟩
      rw [List.mem_singleton.mp hy] at hxy
      exact hn (hxy ▸ hx)
    · rw [e, List.mem_append]
      rintro (hm | hm)
      · exact h.nonzero hm
      · exact h0 (List.mem_singleton.mp hm).symm

theorem recordable_of_idsKept {st st' : JsonSystem} {a : Label} (h : Sound st) (hn : Named st)
    (ho : st.IdsKept a) (hs : st.step a = some st') : st.Recordable a := by
  cases a with
  | reply i =>
    intro sp hi
    have hr := reply_unreturned hs hi
    refine ⟨fun h0 => ?_, fun hc => ?_, fun c hc => ?_⟩
    · exact hn.nonzero (h0 ▸ List.mem_map_of_mem (List.mem_of_getElem? hi))
    · obtain ⟨n, hc⟩ := (mem_iff_getElem? _ _).mp hc
      obtain ⟨j, x, hx, hp, hxc, -⟩ := (h.entries.entry _ _).mp hc
      obtain rfl := hn.inj hx hi hxc
      obtain rfl := Option.some.inj (hx.symm.trans hi)
      rw [hp.1] at hr
      cases hr
    · obtain ⟨j, x, hx, hp, hxc, hxn⟩ := (h.entries.entry c _).mp hc
      by_cases ha : x.activation = sp.activation
      · exact h.not_entered hi hr hx hp ha hxn
      · have hm : x.clientId ∈ st.client.requestedSpeeches := (mem_iff_getElem? _ _).mpr ⟨_, hxc ▸ hc⟩
        exact ho sp hi x (List.mem_of_getElem? hx) ha hm hxn
  | event i e => exact fun _ => ho
  | speak | unnumbered | stateChange | deactivate | activate => trivial

def Meant (st : JsonSystem) : Prop :=
  ∀ d ∈ st.log, ∃ sp, st.speeches[d.speech]? = some sp ∧ d.reports = [st.reportOf d.event sp]

theorem meant_of_log {st st' : JsonSystem} (hm : Meant st) (ha : st'.client.appId = st.client.appId)
    (hc : ∀ (i : Nat) (sp : JsonSpeech), st.speeches[i]? = some sp →
      ∃ sp', st'.speeches[i]? = some sp' ∧ sp'.clientId = sp.clientId)
    (hl : ∀ d ∈ st'.log, d ∈ st.log ∨ ∃ sp, st.speeches[d.speech]? = some sp ∧ d.reports = [st.reportOf d.event sp]) :
    Meant st' := by
  intro d hd
  obtain ⟨sp, hsp, hr⟩ := (hl d hd).elim (hm d) id
  obtain ⟨sp', hsp', he⟩ := hc _ sp hsp
  exact ⟨sp', hsp', by rw [reportOf_congr ha he]; exact hr⟩

theorem step_meant {st st' : JsonSystem} {a : Label} (h : Sound st) (hm : Meant st) (ho : st.IdsKept a)
    (hs : st.step a = some st') : Meant st' := by
  obtain ⟨ha, ⟨i, e, sp, rfl, hi, hn, he, rfl⟩ | ⟨hl, hk⟩⟩ := step_cases hs
  · refine meant_of_log hm ha (fun j x hx => ?_) fun d hd => ?_
    · simp only [takeEvent]
      split
      · by_cases hj : j = i
        · obtain rfl := Option.some.inj ((hj ▸ hx).symm.trans hi)
          exact ⟨_, (getElem?_set_iff hi).mpr (.inl ⟨hj, rfl⟩), rfl⟩
        · exact ⟨x, (getElem?_set_iff hi).mpr (.inr ⟨hj, hx⟩), rfl⟩
      · exact ⟨x, hx, rfl⟩
    · rcases List.mem_append.mp hd with hd | hd
      · exact .inl hd
      · rw [List.mem_singleton.mp hd]
        exact .inr ⟨sp, hi, h.dispatch_reports hi ⟨ho sp hi, he⟩ hn⟩
  · refine meant_of_log hm ha (fun j x hx => ?_) fun d hd => .inl (hl ▸ hd)
    obtain ⟨x', hx', hc, -⟩ := hk.old j x hx
    exact ⟨x', hx', hc⟩

/-- **Ids across restarts.** -/
theorem speech_ids_injective {st : JsonSystem} (h : restarting.ReachableIf IdsKept st) : Injective st := by
  have hI : Sound st ∧ Named st ∧ Meant st := by
    refine Machine.ReachableIf.invariant (I := fun st => Sound st ∧ Named st ∧ Meant st) ?_ ?_ h
    · intro st hst
      refine ⟨start_sound hst, ?_⟩
      obtain ⟨_, _, _, _, rfl⟩ := hst
      exact ⟨⟨List.nodup_nil, List.not_mem_nil⟩, fun d hd => (by cases hd)⟩
    · rintro st a st' ⟨hst, hn, hm⟩ ho hs
      have hs' := (restarting_step hs).1
      exact ⟨step_sound hst (recordable_of_idsKept hst hn ho hs') hs', restarting_named hn hs,
        step_meant hst hm ho hs'⟩
  exact ⟨hI.1.entries.distinct, hI.2.2⟩

theorem speech_ids_injective_restart :
    ∃ st, restarting.exec (start true 5 (some true) fun _ => true)
        [.speak 7 1 fun _ => true, .reply 0, .event 0 .complete, .deactivate, .activate fun _ => true,
          .stateChange true, .speak 8 1 fun _ => true, .reply 1, .event 1 .start] = some st ∧
      st.log.length = 2 ∧ Injective st := by
  refine ⟨_, rfl, rfl, ?_⟩
  have h0 : restarting.ReachableIf IdsKept (start true 5 (some true) fun _ => true) := .init ⟨_, _, _, _, rfl⟩
  have h1 := h0.step (a := Label.speak 7 1 fun _ => true) trivial rfl
  have h2 := h1.step (a := Label.reply 0)
    (by intro sp hsp; obtain rfl := Option.some.inj hsp; decide) rfl
  have h3 := h2.step (a := Label.event 0 .complete) (by intro sp hsp; obtain rfl := Option.some.inj hsp; rfl) rfl
  have h4 := h3.step (a := Label.deactivate) trivial rfl
  have h5 := h4.step (a := Label.activate fun _ => true) trivial rfl
  have h6 := h5.step (a := Label.stateChange true) trivial rfl
  have h7 := h6.step (a := Label.speak 8 1 fun _ => true) trivial rfl
  have h8 := h7.step (a := Label.reply 1) (by intro sp hsp; obtain rfl := Option.some.inj hsp; decide) rfl
  have h9 := h8.step (a := Label.event 1 .start) (by intro sp hsp; obtain rfl := Option.some.inj hsp; rfl) rfl
  exact speech_ids_injective h9

/-- The service goes down before the first speech ends: its entry stays, and the
restarted service gives the id again. -/
theorem speech_ids_collide : ∃ st, restarting.Reachable st ∧ ¬ Injective st := by
  refine ⟨_, Machine.reachable_of_exec (s := start true 5 (some true) fun _ => true) ⟨_, _, _, _, rfl⟩
    [.speak 7 1 fun _ => true, .reply 0, .deactivate, .activate fun _ => true, .stateChange true,
      .speak 8 1 fun _ => true, .reply 1] rfl, fun h => ?_⟩
  exact absurd (h.distinct 7 8 1 (by decide) (by decide)) (by decide)

end JsonSystem

end TTS
