import TTS.EnabledFlag

/-!
# Runs of the engine and its clients

`Wired` says which handlers the running engine has and what is on its way from
it; it holds in every run. `Learned` says that a client which got a session
will have the engine's flag once it has handled what is on its way.
-/

namespace TTS

open Monitor Transition

/-! ## The invariants -/

namespace FlagSystem

structure Wired (st : FlagSystem) : Prop where
  phased : ∀ c s, st.clients c = some s → s.Phased
  bounded : ∀ c s k, st.clients c = some s → s.manager = some k → k ≤ st.incarnation
  installed : ∀ c, st.installed c = true → ∃ s m, st.clients c = some s ∧ s.connected = true ∧
    s.manager = some st.incarnation ∧ st.engine = some m
  reaching : ∀ c s m, st.clients c = some s → s.connected = true → st.reached s = some m → st.installed c = true
  ordered : ∀ c, (st.inbox c).Pairwise fun x y => x.1 ≤ y.1
  past : ∀ c, ∀ x ∈ st.inbox c, x.1 ≤ st.incarnation
  foreign : ∀ c m, st.engine = some m → st.installed c = false → ∀ x ∈ st.inbox c, x.1 ≠ st.incarnation
  recent : ∀ c, st.installed c = true → st.created c = true → ∀ x ∈ st.inbox c, x.1 = st.incarnation
  sent_le : ∀ m, st.engine = some m → st.sent ≤ m.state.events.length
  settled : ∀ m, st.engine = some m →
    Mirror.replay Event.ttsState m.state.ttsEnabled (m.state.events.drop st.sent) = m.state.ttsEnabled
  informed : ∀ c m, st.engine = some m → st.installed c = true →
    Informed st.incarnation m.state.ttsEnabled (m.state.events.drop st.sent) (st.inbox c)

def Learned (st : FlagSystem) : Prop :=
  ∀ c s m, st.engine = some m → st.clients c = some s → st.installed c = true → st.created c = true →
    Mirror.replay Event.ttsState s.ttsEnabled
      (eventsFrom st.incarnation (st.inbox c) ++ m.state.events.drop st.sent) = m.state.ttsEnabled

theorem setClient_clients (st : FlagSystem) (c : Nat) (s : TTSClientPrivateRtRemote) (c' : Nat) :
    (st.setClient c s).clients c' = if c' = c then some s else st.clients c' :=
  Function.update_apply _ _ _ _

theorem reached_some {st : FlagSystem} {s : TTSClientPrivateRtRemote} {m : Monitor TTSManager}
    (h : st.reached s = some m) : s.manager = some st.incarnation ∧ st.engine = some m := by
  unfold reached at h
  split at h
  · exact ⟨‹_›, h⟩
  · cases h

section
variable {st : FlagSystem} (h : st.Wired)

include h in
theorem Wired.not_installed {c : Nat} (hc : ∀ s, st.clients c = some s → s.connected = false) :
    st.installed c = false := by
  cases hi : st.installed c with
  | false => rfl
  | true =>
    obtain ⟨s, m, hs, hconn, -⟩ := h.installed c hi
    rw [hc s hs] at hconn
    cases hconn

include h in
theorem Wired.setClient {c : Nat} {s : TTSClientPrivateRtRemote} (hi : st.installed c = false) (hp : s.Phased)
    (hb : ∀ k, s.manager = some k → k ≤ st.incarnation) (hr : s.connected = true → st.reached s = none) :
    (st.setClient c s).Wired := by
  have hclient : ∀ c' s', (st.setClient c s).clients c' = some s' → c' = c ∧ s' = s ∨ st.clients c' = some s' := by
    intro c' s' hs
    rw [setClient_clients] at hs
    split at hs
    · exact .inl ⟨‹_›, (Option.some.inj hs).symm⟩
    · exact .inr hs
  refine ⟨fun c' s' hs => ?_, fun c' s' k hs hk => ?_, fun c' hi' => ?_, fun c' s' m hs hconn hreach => ?_, h.ordered,
    h.past, h.foreign, h.recent, h.sent_le, h.settled, h.informed⟩
  · rcases hclient c' s' hs with ⟨-, rfl⟩ | hs
    · exact hp
    · exact h.phased c' s' hs
  · rcases hclient c' s' hs with ⟨-, rfl⟩ | hs
    · exact hb k hk
    · exact h.bounded c' s' k hs hk
  · obtain ⟨s', m, hs, hrest⟩ := h.installed c' hi'
    refine ⟨s', m, ?_, hrest⟩
    have hne : c' ≠ c := by
      rintro rfl
      exact Bool.false_ne_true (hi.symm.trans hi')
    rw [setClient_clients, if_neg hne]
    exact hs
  · rcases hclient c' s' hs with ⟨-, rfl⟩ | hs
    · exact nomatch (hr hconn).symm.trans hreach
    · exact h.reaching c' s' m hs hconn hreach

theorem Learned.setClient (hl : st.Learned) {c : Nat} {s : TTSClientPrivateRtRemote} (hi : st.installed c = false) :
    (st.setClient c s).Learned := by
  intro c' s' m hm hs hi' hc'
  have hne : c' ≠ c := by
    rintro rfl
    exact Bool.false_ne_true (hi.symm.trans hi')
  rw [setClient_clients, if_neg hne] at hs
  exact hl c' s' m hm hs hi' hc'

include h in
theorem Wired.setEngine {m m' : Monitor TTSManager} (hm : st.engine = some m) (ha : Announces m.state m'.state) :
    ({ st with engine := some m' } : FlagSystem).Wired := by
  obtain ⟨es, hes, he⟩ := ha
  have hle := h.sent_le m hm
  have hdrop : m'.state.events.drop st.sent = m.state.events.drop st.sent ++ es := by
    rw [hes, List.drop_append_of_le_length hle]
  refine ⟨h.phased, h.bounded, fun c hi => ?_, fun c s m₁ hs hconn hr => ?_, h.ordered, h.past,
    fun c m₁ _ hi => h.foreign c m hm hi, h.recent, fun m₁ hm₁ => ?_, fun m₁ hm₁ => ?_, fun c m₁ hm₁ hi => ?_⟩
  · obtain ⟨s, m₁, hs, hconn, hman, -⟩ := h.installed c hi
    exact ⟨s, m', hs, hconn, hman, rfl⟩
  · refine h.reaching c s m hs hconn ?_
    rw [reached, if_pos (reached_some hr).1]
    exact hm
  · obtain rfl := Option.some.inj hm₁
    show st.sent ≤ m'.state.events.length
    rw [hes, List.length_append]
    omega
  · obtain rfl := Option.some.inj hm₁
    rw [hdrop, he]
    exact Mirror.replay_settled_append _ (h.settled m hm) es
  · obtain rfl := Option.some.inj hm₁
    rw [hdrop, he]
    exact (h.informed c m hm hi).emit es

include h in
theorem Learned.setEngine (hl : st.Learned) {m m' : Monitor TTSManager} (hm : st.engine = some m)
    (ha : Announces m.state m'.state) : ({ st with engine := some m' } : FlagSystem).Learned := by
  obtain ⟨es, hes, he⟩ := ha
  intro c s m₁ hm₁ hs hi hc
  obtain rfl := Option.some.inj hm₁
  have hle := h.sent_le m hm
  show Mirror.replay Event.ttsState s.ttsEnabled
    (eventsFrom st.incarnation (st.inbox c) ++ m'.state.events.drop st.sent) = m'.state.ttsEnabled
  rw [hes, List.drop_append_of_le_length hle, ← List.append_assoc, Mirror.replay_append, hl c s m hm hs hi hc, he]

include h in
theorem Wired.sends {inbox : Nat → List (Nat × EngineMessage)}
    (hsend : ∀ c, inbox c = st.inbox c ∨
      st.installed c = true ∧ ∃ message, inbox c = st.inbox c ++ [(st.incarnation, message)]) :
    (∀ c, (inbox c).Pairwise fun x y => x.1 ≤ y.1) ∧ (∀ c, ∀ x ∈ inbox c, x.1 ≤ st.incarnation) ∧
      (∀ c m, st.engine = some m → st.installed c = false → ∀ x ∈ inbox c, x.1 ≠ st.incarnation) ∧
      ∀ c, st.installed c = true → st.created c = true → ∀ x ∈ inbox c, x.1 = st.incarnation := by
  have hmem : ∀ c, ∀ x ∈ inbox c, x ∈ st.inbox c ∨ st.installed c = true ∧ x.1 = st.incarnation := by
    intro c x hx
    rcases hsend c with e | ⟨hi, message, e⟩ <;> rw [e] at hx
    · exact .inl hx
    · refine (List.mem_append.mp hx).imp id fun hx => ⟨hi, ?_⟩
      obtain rfl := List.mem_singleton.mp hx
      rfl
  refine ⟨fun c => ?_, fun c x hx => ?_, fun c m hm hi x hx => ?_, fun c hi hc x hx => ?_⟩
  · rcases hsend c with e | ⟨-, message, e⟩ <;> rw [e]
    · exact h.ordered c
    · refine List.pairwise_append.mpr ⟨h.ordered c, List.pairwise_singleton _ _, fun x hx y hy => ?_⟩
      obtain rfl := List.mem_singleton.mp hy
      exact h.past c x hx
  · rcases hmem c x hx with hx | ⟨-, e⟩
    · exact h.past c x hx
    · exact Nat.le_of_eq e
  · rcases hmem c x hx with hx | ⟨hi', -⟩
    · exact h.foreign c m hm hi x hx
    · exact absurd (hi.symm.trans hi') Bool.false_ne_true
  · rcases hmem c x hx with hx | ⟨-, e⟩
    · exact h.recent c hi hc x hx
    · exact e

include h in
theorem Wired.handleEvent {m : Monitor TTSManager} {e : Event} (hm : st.engine = some m)
    (he : m.state.events[st.sent]? = some e) : (st.handleEvent e).Wired := by
  obtain ⟨hlt, hget⟩ := List.getElem?_eq_some_iff.mp he
  have hdrop : m.state.events.drop st.sent = e :: m.state.events.drop (st.sent + 1) := by
    rw [← hget]
    exact List.drop_eq_getElem_cons hlt
  have hsend : ∀ c, (st.handleEvent e).inbox c = st.inbox c ∨ st.installed c = true ∧
      ∃ message, (st.handleEvent e).inbox c = st.inbox c ++ [(st.incarnation, message)] := by
    intro c
    by_cases hi : st.installed c = true
    · exact .inr ⟨hi, .event e, if_pos hi⟩
    · exact .inl (if_neg hi)
  obtain ⟨hordered, hpast, hforeign, hrecent⟩ := h.sends hsend
  refine ⟨h.phased, h.bounded, h.installed, h.reaching, hordered, hpast, hforeign, hrecent, fun m₁ hm₁ => ?_,
    fun m₁ hm₁ => ?_, fun c m₁ hm₁ hi => ?_⟩
  · obtain rfl := Option.some.inj (hm.symm.trans hm₁)
    exact hlt
  · obtain rfl := Option.some.inj (hm.symm.trans hm₁)
    have hs := h.settled m hm
    rw [hdrop] at hs
    exact Mirror.replay_settled_tail _ hs
  · obtain rfl := Option.some.inj (hm.symm.trans hm₁)
    have hi : st.installed c = true := hi
    have hinf := h.informed c m hm hi
    rw [hdrop] at hinf
    show Informed st.incarnation _ _ (if st.installed c then _ else _)
    rw [if_pos hi]
    exact hinf.send

theorem Learned.handleEvent (hl : st.Learned) {m : Monitor TTSManager} {e : Event} (hm : st.engine = some m)
    (he : m.state.events[st.sent]? = some e) : (st.handleEvent e).Learned := by
  obtain ⟨hlt, hget⟩ := List.getElem?_eq_some_iff.mp he
  intro c s m₁ hm₁ hs hi hc
  obtain rfl := Option.some.inj (hm.symm.trans hm₁)
  have hi : st.installed c = true := hi
  have hflag := hl c s m hm hs hi hc
  rw [List.drop_eq_getElem_cons hlt, hget] at hflag
  show Mirror.replay Event.ttsState s.ttsEnabled (eventsFrom st.incarnation
    (if st.installed c then st.inbox c ++ [(st.incarnation, .event e)] else st.inbox c) ++
      m.state.events.drop (st.sent + 1)) = m.state.ttsEnabled
  rw [if_pos hi, eventsFrom_append, eventsFrom_event, eventsFrom_nil, List.append_assoc]
  exact hflag

include h in
theorem Wired.answer {m : Monitor TTSManager} {c : Nat} {object : SessionObject} (hm : st.engine = some m)
    (hi : st.installed c = true)
    (hobject : object.result = .ok → ∃ session id, object = ⟨.ok, some session, some id, some m.state.ttsEnabled⟩) :
    (st.answer c object).Wired := by
  have hinbox : ∀ c', (st.answer c object).inbox c' =
      if c' = c then st.inbox c ++ [(st.incarnation, .created object)] else st.inbox c' :=
    fun c' => Function.update_apply _ _ _ _
  have hsend : ∀ c', (st.answer c object).inbox c' = st.inbox c' ∨ st.installed c' = true ∧
      ∃ message, (st.answer c object).inbox c' = st.inbox c' ++ [(st.incarnation, message)] := by
    intro c'
    rw [hinbox]
    split
    · rename_i hc
      subst hc
      exact .inr ⟨hi, _, rfl⟩
    · exact .inl rfl
  obtain ⟨hordered, hpast, hforeign, hrecent⟩ := h.sends hsend
  refine ⟨h.phased, h.bounded, h.installed, h.reaching, hordered, hpast, hforeign, hrecent, h.sent_le, h.settled,
    fun c' m₁ hm₁ hi' => ?_⟩
  obtain rfl := Option.some.inj (hm.symm.trans hm₁)
  rw [hinbox]
  split
  · exact (h.informed c m hm hi).reply (h.settled m hm) hobject
  · exact h.informed c' m hm hi'

theorem Learned.answer (hl : st.Learned) {c : Nat} (object : SessionObject) :
    (st.answer c object).Learned := by
  intro c' s m hm hs hi hc
  have hflag := hl c' s m hm hs hi hc
  have hsame : eventsFrom st.incarnation
      (Function.update st.inbox c (st.inbox c ++ [(st.incarnation, .created object)]) c') =
        eventsFrom st.incarnation (st.inbox c') := by
    rw [Function.update_apply]
    split
    · rename_i hc'
      rw [hc', eventsFrom_append, eventsFrom_created, eventsFrom_nil, List.append_nil]
    · rfl
  show Mirror.replay Event.ttsState s.ttsEnabled (eventsFrom st.incarnation
    (Function.update st.inbox c _ c') ++ m.state.events.drop st.sent) = m.state.ttsEnabled
  rw [hsame]
  exact hflag

theorem reached_congr {s s' : TTSClientPrivateRtRemote} (hm : s'.manager = s.manager) : st.reached s' = st.reached s := by
  unfold reached
  rw [hm]

include h in
theorem Wired.connect {c : Nat} {s : TTSClientPrivateRtRemote} (hs : st.clients c = some s)
    (hst : s.startup = .postConnect) : (st.connect c s).Wired := by
  have hp := h.phased c s hs
  have hnot : st.installed c = false := h.not_installed fun s' hs' => by
    obtain rfl := Option.some.inj (hs.symm.trans hs')
    exact hp.not_connected (by rw [hst]; exact fun e => nomatch e)
  have hinst : ∀ c', (st.connect c s).installed c' = if c' = c then (st.reached s).isSome else st.installed c' :=
    fun c' => Function.update_apply _ _ _ _
  have hclient : ∀ c', (st.connect c s).clients c' = if c' = c then
      some (s.postConnect ((st.reached s).map fun m => m.state.policy)) else st.clients c' :=
    fun c' => st.setClient_clients c _ c'
  refine ⟨fun c' s' hs' => ?_, fun c' s' k hs' hk => ?_, fun c' hi => ?_, fun c' s' m hs' hconn hr => ?_, h.ordered,
    h.past, fun c' m hm hi => ?_, fun c' hi hc => ?_, h.sent_le, h.settled, fun c' m hm hi => ?_⟩
  · rw [hclient] at hs'
    split at hs'
    · obtain rfl := Option.some.inj hs'
      exact hp.postConnect hst _
    · exact h.phased c' s' hs'
  · rw [hclient] at hs'
    split at hs'
    · obtain rfl := Option.some.inj hs'
      exact h.bounded c s k hs hk
    · exact h.bounded c' s' k hs' hk
  · rw [hinst] at hi
    rw [hclient]
    split at hi
    · rename_i hc
      obtain ⟨m, hm⟩ := Option.isSome_iff_exists.mp hi
      obtain ⟨hman, he⟩ := reached_some hm
      exact ⟨_, m, if_pos hc, rfl, hman, he⟩
    · rename_i hc
      obtain ⟨s', m, hs', hrest⟩ := h.installed c' hi
      exact ⟨s', m, (if_neg hc).trans hs', hrest⟩
  · rw [hclient] at hs'
    rw [hinst]
    split at hs'
    · rename_i hc
      obtain rfl := Option.some.inj hs'
      have hr : st.reached s = some m := (reached_congr rfl).symm.trans hr
      rw [if_pos hc, hr]
      rfl
    · rename_i hc
      rw [if_neg hc]
      exact h.reaching c' s' m hs' hconn hr
  · rw [hinst] at hi
    split at hi
    · rename_i hc
      exact h.foreign c' m hm (hc ▸ hnot)
    · exact h.foreign c' m hm hi
  · have hc : Function.update st.created c false c' = true := hc
    rw [hinst] at hi
    rw [Function.update_apply] at hc
    split at hc
    · cases hc
    · rw [if_neg ‹_›] at hi
      exact h.recent c' hi hc
  · rw [hinst] at hi
    split at hi
    · rename_i hc
      exact .fresh (h.foreign c' m hm (hc ▸ hnot)) (h.settled m hm)
    · exact h.informed c' m hm hi

theorem Learned.connect (hl : st.Learned) {c : Nat} (s : TTSClientPrivateRtRemote) : (st.connect c s).Learned := by
  intro c' s' m hm hs' hi hc
  have hs' : (st.setClient c _).clients c' = some s' := hs'
  have hi : Function.update st.installed c (st.reached s).isSome c' = true := hi
  have hc : Function.update st.created c false c' = true := hc
  rw [Function.update_apply] at hc
  split at hc
  · cases hc
  · rename_i hne
    rw [setClient_clients, if_neg hne] at hs'
    rw [Function.update_of_ne hne] at hi
    exact hl c' s' m hm hs' hi hc

include h in
theorem Wired.setSame {c : Nat} {s s' : TTSClientPrivateRtRemote} (hs : st.clients c = some s) (hp : s'.Phased)
    (hconn : s'.connected = s.connected) (hman : s'.manager = s.manager) : (st.setClient c s').Wired := by
  refine ⟨fun c₁ s₁ hs₁ => ?_, fun c₁ s₁ k hs₁ hk => ?_, fun c₁ hi => ?_, fun c₁ s₁ m hs₁ hc hr => ?_, h.ordered,
    h.past, h.foreign, h.recent, h.sent_le, h.settled, h.informed⟩
  · rw [setClient_clients] at hs₁
    split at hs₁
    · obtain rfl := Option.some.inj hs₁
      exact hp
    · exact h.phased c₁ s₁ hs₁
  · rw [setClient_clients] at hs₁
    split at hs₁
    · obtain rfl := Option.some.inj hs₁
      exact h.bounded c s k hs (hman.symm.trans hk)
    · exact h.bounded c₁ s₁ k hs₁ hk
  · obtain ⟨s₁, m, hs₁, hc, hk, hm⟩ := h.installed c₁ hi
    rw [setClient_clients]
    split
    · rename_i he
      obtain rfl := Option.some.inj (hs.symm.trans (he ▸ hs₁))
      exact ⟨s', m, rfl, hconn.trans hc, hman.trans hk, hm⟩
    · exact ⟨s₁, m, hs₁, hc, hk, hm⟩
  · rw [setClient_clients] at hs₁
    split at hs₁
    · rename_i he
      obtain rfl := Option.some.inj hs₁
      have hr : st.reached s = some m := (reached_congr hman).symm.trans hr
      exact he ▸ h.reaching c s m hs (hconn.symm.trans hc) hr
    · exact h.reaching c₁ s₁ m hs₁ hc hr

include h in
theorem Wired.take {c n : Nat} {message : EngineMessage} {rest : List (Nat × EngineMessage)}
    (hib : st.inbox c = (n, message) :: rest) {b : Bool}
    (hb : st.installed c = true → b = true → n = st.incarnation) :
    ({ st with
      inbox := Function.update st.inbox c rest
      created := Function.update st.created c (st.created c || b) } : FlagSystem).Wired := by
  have hinbox : ∀ c', Function.update st.inbox c rest c' = if c' = c then rest else st.inbox c' :=
    fun c' => Function.update_apply _ _ _ _
  have hmem : ∀ c', ∀ x ∈ Function.update st.inbox c rest c', x ∈ st.inbox c' := by
    intro c' x hx
    rw [hinbox] at hx
    split at hx
    · rename_i hc
      rw [hc, hib]
      exact List.mem_cons_of_mem _ hx
    · exact hx
  have hordered := h.ordered c
  rw [hib] at hordered
  obtain ⟨hhead, hrest⟩ := List.pairwise_cons.mp hordered
  refine ⟨h.phased, h.bounded, h.installed, h.reaching, fun c' => ?_, fun c' x hx => h.past c' x (hmem c' x hx),
    fun c' m hm hi x hx => h.foreign c' m hm hi x (hmem c' x hx), fun c' hi hc x hx => ?_, h.sent_le, h.settled,
    fun c' m hm hi => ?_⟩
  · show List.Pairwise _ (Function.update st.inbox c rest c')
    rw [hinbox]
    split
    · exact hrest
    · exact h.ordered c'
  · have hi : st.installed c' = true := hi
    have hc : Function.update st.created c (st.created c || b) c' = true := hc
    have hx' := hmem c' x hx
    rw [Function.update_apply] at hc
    split at hc
    · rename_i he
      subst he
      rcases (Bool.or_eq_true _ _).mp hc with hc | hc
      · exact h.recent c' hi hc x hx'
      · -- what comes later was sent by no earlier process
        have hx : x ∈ Function.update st.inbox c' rest c' := hx
        rw [Function.update_self] at hx
        have hle : n ≤ x.1 := hhead x hx
        have hn := hb hi hc
        have hpast := h.past c' x hx'
        show x.1 = st.incarnation
        omega
    · exact h.recent c' hi hc x hx'
  · have hinf := h.informed c' m hm hi
    show Informed st.incarnation _ _ (Function.update st.inbox c rest c')
    rw [hinbox]
    split
    · rename_i hc
      rw [hc, hib] at hinf
      exact hinf.deliver
    · exact hinf

include h in
theorem Wired.brings {c n : Nat} {s : TTSClientPrivateRtRemote} {b : Bool} (hs : st.clients c = some s)
    (hi : st.installed c = true) (hb : (s.connected && s.manager = some n && b) = true) : n = st.incarnation := by
  obtain ⟨s', m, hs', -, hman, -⟩ := h.installed c hi
  obtain rfl := Option.some.inj (hs.symm.trans hs')
  simp only [Bool.and_eq_true, decide_eq_true_eq] at hb
  exact Option.some.inj (hb.1.2.symm.trans hman)

include h in
theorem Wired.receive {c n : Nat} {s : TTSClientPrivateRtRemote} {message : EngineMessage}
    {rest : List (Nat × EngineMessage)} (hs : st.clients c = some s) (hib : st.inbox c = (n, message) :: rest) :
    (st.receive c s n message rest).Wired := by
  obtain ⟨sessionMap, ttsEnabled, hframe⟩ := s.receive_frame message
  have hp : (s.receive message).Phased := by
    rw [hframe]
    exact ⟨(h.phased c s hs).connected, (h.phased c s hs).starting⟩
  have hset := h.setSame hs hp (by rw [hframe]) (by rw [hframe])
  exact hset.take (c := c) hib fun hi hb => h.brings hs hi hb

include h in
theorem Learned.receive (hl : st.Learned) {c n : Nat} {s : TTSClientPrivateRtRemote} {message : EngineMessage}
    {rest : List (Nat × EngineMessage)} (hs : st.clients c = some s) (hib : st.inbox c = (n, message) :: rest)
    (ho : st.Learns (.deliver c)) : (st.receive c s n message rest).Learned := by
  intro c' s' m hm₁ hs₁ hi₁ hc₁
  have hi : st.installed c' = true := hi₁
  have hm : st.engine = some m := hm₁
  have hs' : (st.setClient c (s.receive message)).clients c' = some s' := hs₁
  have hc : Function.update st.created c
      (st.created c || s.connected && s.manager = some n && message.creates) c' = true := hc₁
  show Mirror.replay Event.ttsState s'.ttsEnabled
    (eventsFrom st.incarnation (Function.update st.inbox c rest c') ++ m.state.events.drop st.sent) = m.state.ttsEnabled
  rw [setClient_clients] at hs'
  by_cases he : c' = c
  · subst he
    rw [if_pos rfl] at hs'
    obtain rfl := Option.some.inj hs'
    rw [Function.update_self] at hc ⊢
    have hn : n = st.incarnation := by
      rcases (Bool.or_eq_true _ _).mp hc with hc | hc
      · exact h.recent c' hi hc (n, message) (by rw [hib]; exact List.mem_cons_self)
      · exact h.brings hs hi hc
    subst hn
    have hinf := h.informed c' m hm hi
    rw [hib] at hinf
    refine hinf.receive (fun object hobject hok => ?_) ?_
    · have hunsent : st.unsent = m.state.events.drop st.sent := by rw [unsent, hm]; rfl
      rw [← hunsent]
      exact ho s object rest hs hi (hobject ▸ hib) hok
    · rcases (Bool.or_eq_true _ _).mp hc with hc | hc
      · right
        rw [← hib]
        exact hl c' s m hm hs hi hc
      · exact .inl ((Bool.and_eq_true _ _).mp hc).2
  · rw [if_neg he] at hs'
    rw [Function.update_of_ne he] at hc ⊢
    exact hl c' s' m hm hs' hi hc

end

/-! ## Runs -/

theorem engineCrash_wired {st : FlagSystem} (h : st.Wired) :
    ({ st with engine := none, installed := fun _ => false } : FlagSystem).Wired := by
  exact ⟨h.phased, h.bounded, fun c hi => (nomatch hi), fun c s m _ _ hr => (nomatch (reached_some hr).2), h.ordered,
    h.past, fun c m hm => (nomatch hm), fun c hi => (nomatch hi), fun m hm => (nomatch hm), fun m hm => (nomatch hm),
    fun c m hm => (nomatch hm)⟩

theorem engineStart_wired {st : FlagSystem} (h : st.Wired) (he : st.engine = none) (configuration : TTSConfiguration)
    (others : Others) (policy : ResourceAllocationPolicy) (maxFailures : Nat) :
    ({ st with
      incarnation := st.incarnation + 1
      engine := some ⟨false, .new configuration others policy maxFailures⟩
      sent := 0 } : FlagSystem).Wired := by
  have hevents : (TTSManager.new configuration others policy maxFailures).events = [] := by cases policy <;> rfl
  have hnot : ∀ {P : Prop} {c : Nat}, st.installed c = true → P := by
    intro P c hi
    obtain ⟨s, m, -, -, -, hm⟩ := h.installed c hi
    rw [he] at hm
    cases hm
  refine ⟨h.phased, fun c s k hs hk => Nat.le_succ_of_le (h.bounded c s k hs hk), fun c hi => hnot hi,
    fun c s m hs _ hr => ?_, h.ordered, fun c x hx => Nat.le_succ_of_le (h.past c x hx),
    fun c m _ _ x hx => ?_, fun c hi => hnot hi, fun m hm => ?_, fun m hm => ?_, fun c m _ hi => hnot hi⟩
  · have hle := h.bounded c s _ hs (reached_some hr).1
    simp only at hle
    omega
  · have hle := h.past c x hx
    show x.1 ≠ st.incarnation + 1
    omega
  · exact Nat.zero_le _
  · obtain rfl := Option.some.inj hm
    show Mirror.replay Event.ttsState _ ((TTSManager.new configuration others policy maxFailures).events.drop 0) = _
    rw [hevents]
    rfl

theorem createSession_object (m : TTSManager) (a : Nat) (n : String)
    (h : (m.createSession a n).1.result = .ok) :
    ∃ session id, (m.createSession a n).1 = ⟨.ok, some session, some id, some m.ttsEnabled⟩ := by
  rcases m.createSession_cases a n with e | ⟨-, e⟩
  · rw [e] at h
    cases h
  · rw [e]
    exact ⟨_, _, rfl⟩

theorem located_eq {st : FlagSystem} {found : Bool} {k : Nat} (h : st.located found = some k) : k = st.incarnation := by
  unfold located at h
  split at h
  · exact (Option.some.inj h).symm
  · cases h

theorem startup_step {st st' : FlagSystem} (h : st.Wired) {c : Nat} {here : Startup}
    {f : TTSClientPrivateRtRemote → Option TTSClientPrivateRtRemote}
    (hf : ∀ s s', s.Phased → s.startup = here → f s = some s' → s.connected = false ∧ s'.Phased ∧
      s'.connected = false ∧ ∀ k, s'.manager = some k → s.manager = some k ∨ k = st.incarnation)
    (hs : st.startupStep c here f = some st') : st'.Wired ∧ (st.Learned → st'.Learned) := by
  obtain ⟨s, hc, hs⟩ := Option.bind_eq_some_iff.mp hs
  simp only [Option.ite_none_right_eq_some, Option.map_eq_some_iff] at hs
  obtain ⟨hst, s', hs', rfl⟩ := hs
  obtain ⟨hconn, hp', hconn', hman⟩ := hf s s' (h.phased c s hc) hst hs'
  have hnot : st.installed c = false := h.not_installed fun s₁ hs₁ => by
    obtain rfl := Option.some.inj (hc.symm.trans hs₁)
    exact hconn
  refine ⟨h.setClient hnot hp' (fun k hk => ?_) fun he => ?_, fun hl => hl.setClient hnot⟩
  · rcases hman k hk with hk | rfl
    · exact h.bounded c s k hc hk
    · exact Nat.le_refl _
  · rw [hconn'] at he
    cases he

theorem crashNotice_step {st : FlagSystem} (h : st.Wired) {c : Nat} {s : TTSClientPrivateRtRemote}
    (hc : st.clients c = some s) (hgone : st.reached s = none) :
    st.installed c = false ∧ (st.setClient c s.rtServerCrashCB).Wired := by
  have hnot : st.installed c = false := by
    cases hi : st.installed c with
    | false => rfl
    | true =>
      obtain ⟨s₁, m, hs₁, -, hman, hm⟩ := h.installed c hi
      obtain rfl := Option.some.inj (hc.symm.trans hs₁)
      rw [reached, if_pos hman, hm] at hgone
      cases hgone
  refine ⟨hnot, h.setClient hnot (h.phased c s hc).rtServerCrashCB (fun k hk => ?_) fun hconn => ?_⟩
  · exact h.bounded c s k hc (s.rtServerCrashCB_manager hk)
  · rcases s.rtServerCrashCB_cases with he | ⟨hno, -, -⟩
    · rw [he]
      exact hgone
    · exact nomatch hno.symm.trans hconn

theorem createSession_step {st st' : FlagSystem} (h : st.Wired) {c appId : Nat} {appName : String}
    (hs : st.step (.createSession c appId appName) = some st') : st'.Wired ∧ (st.Learned → st'.Learned) := by
  obtain ⟨s, hc, hs⟩ := Option.bind_eq_some_iff.mp hs
  obtain ⟨m, hr, hs⟩ := Option.bind_eq_some_iff.mp hs
  simp only [Option.ite_none_right_eq_some] at hr
  obtain ⟨hconn, hr⟩ := hr
  have hm := (reached_some hr).2
  have hi := h.reaching c s m hc hconn hr
  obtain ⟨held, m⟩ := m
  cases held with
  | true => cases hs
  | false =>
    rw [perform_createSession] at hs
    obtain rfl := Option.some.inj hs
    have ha := effect_announces m (.createSession appId appName s.eventCallbacks)
    have hw := h.answer hm hi (createSession_object m appId appName)
    exact ⟨hw.setEngine hm ha, fun hl => (hl.answer _).setEngine hw hm ha⟩

theorem step_learned {st st' : FlagSystem} {a : Label} (h : st.Wired) (hs : st.step a = some st') :
    st'.Wired ∧ (st.Learned → st.Learns a → st'.Learned) := by
  have hsame : (st'.Wired ∧ (st.Learned → st'.Learned)) → st'.Wired ∧ (st.Learned → st.Learns a → st'.Learned) :=
    fun hw => ⟨hw.1, fun hl _ => hw.2 hl⟩
  cases a with
  | engineStart configuration others policy maxFailures =>
    simp only [step, Option.ite_none_left_eq_some, Option.some.injEq] at hs
    obtain ⟨hno, rfl⟩ := hs
    have he : st.engine = none := by simpa using hno
    refine ⟨engineStart_wired h he configuration others policy maxFailures, fun hl _ c s m _ _ hi => ?_⟩
    obtain ⟨s, m, -, -, -, hm⟩ := h.installed c hi
    rw [he] at hm
    cases hm
  | engineCrash =>
    simp only [step, Option.ite_none_right_eq_some, Option.some.injEq] at hs
    obtain ⟨-, rfl⟩ := hs
    exact ⟨engineCrash_wired h, fun _ _ c s m _ _ hi => nomatch hi⟩
  | construct c callback found =>
    simp only [step, Option.ite_none_left_eq_some, Option.some.injEq] at hs
    obtain ⟨hno, rfl⟩ := hs
    have hnot : st.installed c = false := h.not_installed fun s hs => by
      rw [hs] at hno
      exact absurd rfl hno
    have hw := h.setClient hnot (TTSClientPrivateRtRemote.phased_new callback (st.located found))
      (fun k hk => Nat.le_of_eq (located_eq hk)) fun e => (nomatch e)
    exact hsame ⟨hw, fun hl => hl.setClient hnot⟩
  | locate c found =>
    refine hsame (startup_step h (fun s s' hp hst he => ?_) hs)
    obtain rfl := Option.some.inj he
    have hconn := hp.not_connected (by rw [hst]; exact fun e => nomatch e)
    obtain ⟨hkeep, hman⟩ := s.locate_frame (st.located found)
    exact ⟨hconn, hp.locate hst _, hkeep.trans hconn, fun k hk => (hman k hk).imp id located_eq⟩
  | postConnect c =>
    obtain ⟨s, hc, hs⟩ := Option.bind_eq_some_iff.mp hs
    simp only [Option.ite_none_right_eq_some, Option.some.injEq] at hs
    obtain ⟨hst, rfl⟩ := hs
    exact hsame ⟨h.connect hc hst, fun hl => hl.connect s⟩
  | crashNotice c =>
    obtain ⟨s, hc, hs⟩ := Option.bind_eq_some_iff.mp hs
    simp only [Option.ite_none_right_eq_some, Option.some.injEq] at hs
    obtain ⟨hgone, rfl⟩ := hs
    have hgone : st.reached s = none := by
      simp only [Bool.and_eq_true, Option.isNone_iff_eq_none] at hgone
      exact hgone.2
    obtain ⟨hnot, hw⟩ := crashNotice_step h hc hgone
    exact hsame ⟨hw, fun hl => hl.setClient hnot⟩
  | awaitCrash c =>
    refine hsame (startup_step h (fun s s' hp hst he => ?_) hs)
    have hp' := hp.awaitCrash he
    simp only [TTSClientPrivateRtRemote.awaitCrash, Option.ite_none_right_eq_some, Option.some.injEq] at he
    obtain ⟨hcrashed, rfl⟩ := he
    have hconn := hp'.not_connected (fun e => nomatch e)
    exact ⟨hconn, hp', hconn, fun k hk => .inl hk⟩
  | awaitEngine c running =>
    refine hsame (startup_step h (fun s s' hp hst he => ?_) hs)
    obtain rfl := Option.some.inj he
    have hconn := hp.not_connected (by rw [hst]; exact fun e => nomatch e)
    obtain ⟨hkeep, hman⟩ := s.awaitEngine_frame running
    exact ⟨hconn, hp.awaitEngine hst running, hkeep.trans hconn, fun k hk => .inl (hman.symm.trans hk)⟩
  | request call =>
    obtain ⟨m, hm, hs⟩ := Option.bind_eq_some_iff.mp hs
    obtain ⟨m', hm', rfl⟩ := Option.map_eq_some_iff.mp hs
    have ha := engine_announces hm'
    exact hsame ⟨h.setEngine hm ha, fun hl => hl.setEngine h hm ha⟩
  | sendEvent =>
    obtain ⟨m, hm, hs⟩ := Option.bind_eq_some_iff.mp hs
    obtain ⟨e, he, rfl⟩ := Option.map_eq_some_iff.mp hs
    exact hsame ⟨h.handleEvent hm he, fun hl => hl.handleEvent hm he⟩
  | createSession c appId appName => exact hsame (createSession_step h hs)
  | deliver c =>
    obtain ⟨s, hc, hs⟩ := Option.bind_eq_some_iff.mp hs
    split at hs
    · cases hs
    · rename_i n message rest hib
      obtain rfl := Option.some.inj hs
      exact ⟨h.receive hc hib, fun hl ho => hl.receive h hc hib ho⟩

theorem start_wired : start.Wired := by
  refine ⟨fun c s hs => (nomatch hs), fun c s k hs => (nomatch hs), fun c hi => (nomatch hi), fun c s m hs => (nomatch hs),
    fun _ => .nil, fun c x hx => (nomatch hx), fun c m hm => (nomatch hm), fun c hi => (nomatch hi),
    fun m hm => (nomatch hm), fun m hm => (nomatch hm), fun c m hm => (nomatch hm)⟩

theorem reachable_wired {st : FlagSystem} (h : machine.Reachable st) : st.Wired := by
  refine h.invariant (I := Wired) ?_ ?_
  · rintro _ rfl
    exact start_wired
  · intro st a st' hw hs
    exact (step_learned hw hs).1

theorem reachable_learned {st : FlagSystem} (h : machine.ReachableIf Learns st) : st.Wired ∧ st.Learned := by
  refine h.invariant (I := fun st => st.Wired ∧ st.Learned) ?_ ?_
  · rintro _ rfl
    exact ⟨start_wired, fun c s m hm => nomatch hm⟩
  · rintro st a st' ⟨hw, hl⟩ ho hs
    have hstep := step_learned hw hs
    exact ⟨hstep.1, hstep.2 hl ho⟩

theorem agrees_of_learned {st : FlagSystem} (h : st.Learned) : st.Agrees := by
  intro c s m hm hs _ hi hc hib hsent
  have hflag := h c s m hm hs hi hc
  rw [hib, hsent, List.drop_length] at hflag
  exact hflag

/-- **The clients have the engine's flag.** In every run in which the flag in each reply
of `createSession` is taken over, known already or followed by an event that has it. -/
theorem flag_agrees {st : FlagSystem} (h : machine.ReachableIf Learns st) : st.Agrees :=
  agrees_of_learned (reachable_learned h).2

theorem learns_of_ne (st : FlagSystem) {a : Label} (h : ∀ c, a ≠ .deliver c) : st.Learns a := by
  cases a with
  | deliver c => exact absurd rfl (h c)
  | _ => trivial

theorem learns_of_callback {st : FlagSystem} {c : Nat} (h : ∀ s, st.clients c = some s → s.callback = true) :
    st.Learns (.deliver c) := fun s _ _ hs _ _ _ => .inl (h s hs)

/-- The engine crashes, and speaking is enabled in the next one after the client's
handler is there; the reply is sent before the event and comes first. -/
theorem flag_agrees_reconnected :
    ∃ st s, machine.ReachableIf Learns st ∧ st.clients 0 = some s ∧ st.installed 0 = true ∧ st.created 0 = true ∧
      s.ttsEnabled = true ∧ st.Agrees := by
  have hne : ∀ (st : FlagSystem) (a : Label), (∀ c, a ≠ .deliver c) → st.Learns a := fun st _ h => st.learns_of_ne h
  have h0 : machine.ReachableIf Learns start := .init rfl
  have h1 := h0.step (hne _ (.engineStart .new ∅ .open 1) fun _ e => (nomatch e)) rfl
  have h2 := h1.step (hne _ (.construct 0 true true) fun _ e => (nomatch e)) rfl
  have h3 := h2.step (hne _ (.locate 0 true) fun _ e => (nomatch e)) rfl
  have h4 := h3.step (hne _ (.postConnect 0) fun _ e => (nomatch e)) rfl
  have h5 := h4.step (hne _ .engineCrash fun _ e => (nomatch e)) rfl
  have h6 := h5.step (hne _ (.crashNotice 0) fun _ e => (nomatch e)) rfl
  have h7 := h6.step (hne _ (.engineStart .new ∅ .open 1) fun _ e => (nomatch e)) rfl
  have h8 := h7.step (hne _ (.awaitCrash 0) fun _ e => (nomatch e)) rfl
  have h9 := h8.step (hne _ (.awaitEngine 0 true) fun _ e => (nomatch e)) rfl
  have h10 := h9.step (hne _ (.locate 0 true) fun _ e => (nomatch e)) rfl
  have h11 := h10.step (hne _ (.postConnect 0) fun _ e => (nomatch e)) rfl
  have h12 := h11.step (hne _ (.request (.manager (.enableTTS true))) fun _ e => (nomatch e)) rfl
  have h13 := h12.step (hne _ (.createSession 0 7 "app") fun _ e => (nomatch e)) rfl
  have h14 := h13.step (hne _ .sendEvent fun _ e => (nomatch e)) rfl
  have h15 := h14.step (a := .deliver 0) (learns_of_callback fun s hs => by cases hs; rfl) rfl
  have h16 := h15.step (a := .deliver 0) (learns_of_callback fun s hs => by cases hs; rfl) rfl
  exact ⟨_, _, h16, rfl, rfl, rfl, by decide, flag_agrees h16⟩

/-- Speaking was enabled before a client without a callback connects: it gets a session
and goes on with a flag that is not set. -/
theorem flag_unlearned : ∃ st, machine.Reachable st ∧ ¬ st.Agrees := by
  have hrun : machine.exec start [.engineStart .new ∅ .open 1, .request (.manager (.enableTTS true)), .sendEvent,
      .construct 0 false true, .locate 0 true, .postConnect 0, .createSession 0 7 "app", .deliver 0] = some _ := rfl
  refine ⟨_, Machine.reachable_of_exec rfl _ hrun, fun h => ?_⟩
  have hflag := h 0 _ _ rfl rfl rfl rfl rfl rfl rfl
  exact absurd hflag (by decide)

theorem unlearned_disagrees {st st' : FlagSystem} (h : machine.Reachable st) {c : Nat} {s : TTSClientPrivateRtRemote}
    {object : SessionObject} (hs : st.clients c = some s) (hi : st.installed c = true)
    (hib : st.inbox c = [(st.incarnation, .created object)]) (hok : object.result = .ok) (hcb : s.callback = false)
    (hdiff : object.ttsEnabled ≠ some s.ttsEnabled) (hlast : st.unsent = [])
    (hstep : machine.step st (.deliver c) = some st') : ¬ st'.Agrees := by
  have hw := reachable_wired h
  obtain ⟨s₁, m, hs₁, hconn, hman, hm⟩ := hw.installed c hi
  obtain rfl := Option.some.inj (hs.symm.trans hs₁)
  have hinf := hw.informed c m hm hi
  have hdrop : m.state.events.drop st.sent = [] := by
    rw [unsent, hm] at hlast
    exact hlast
  rw [hib, hdrop] at hinf
  obtain ⟨session, id, v, rfl, hv⟩ := hinf.replies [] object [] rfl hok
  obtain rfl : v = m.state.ttsEnabled := hv
  simp only [machine, step, hs, hib, Option.bind_some, Option.some.injEq] at hstep
  subst hstep
  intro hagree
  have hflag := hagree c (s.onCreated ⟨.ok, some session, some id, some m.state.ttsEnabled⟩) m hm ?_ hconn hi ?_ ?_ ?_
  · rw [s.onCreated_ttsEnabled, hcb] at hflag
    exact hdiff (congrArg some hflag.symm)
  · exact (st.setClient_clients c _ c).trans (if_pos rfl)
  · show Function.update st.created c _ c = true
    rw [Function.update_self, hconn, hman]
    simp [EngineMessage.creates]
  · exact Function.update_self ..
  · exact Nat.le_antisymm (hw.sent_le m hm) (List.drop_eq_nil_iff.mp hdrop)

end FlagSystem

end TTS
