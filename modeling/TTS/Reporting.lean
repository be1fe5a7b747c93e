import TTS.Mirror
import TTS.Reservation

/-!
# Resource events

What the operations of the manager tell about activity. Under the reservation
policy every change of a session's activity comes with a resource event; under
the other policies no session emits one.
-/

namespace TTS

open Monitor

def Event.resource (e : Event) : Option Bool :=
  if e.name = "resource_acquired" then some true else if e.name = "resource_released" then some false else none

/-- Events were added, which give the new activity when `notified`, and say nothing else. -/
structure TTSSession.Reports (notified : Bool) (s s' : TTSSession) : Prop where
  listeners : s'.listeners = s.listeners
  events : ∃ es, s'.events = s.events ++ es ∧
    if notified then s'.speaker = Mirror.replay Event.resource s.speaker es else ∀ e ∈ es, e.resource = none

namespace TTSSession

theorem Reports.refl (n : Bool) (s : TTSSession) : s.Reports n s := by
  refine ⟨rfl, [], (List.append_nil _).symm, ?_⟩
  cases n with
  | false => exact fun e he => nomatch he
  | true => rfl

theorem Reports.trans {n : Bool} {s s' s'' : TTSSession} (h : s.Reports n s') (h' : s'.Reports n s'') :
    s.Reports n s'' := by
  obtain ⟨hl, es, he, hr⟩ := h
  obtain ⟨hl', es', he', hr'⟩ := h'
  refine ⟨hl'.trans hl, es ++ es', by rw [he', he, List.append_assoc], ?_⟩
  cases n with
  | false =>
    intro e hm
    exact (List.mem_append.mp hm).elim (hr e) (hr' e)
  | true =>
    simp only [if_true] at hr hr' ⊢
    rw [hr', hr, Mirror.replay_append]

theorem setActive_reports (s : TTSSession) (n : Bool) : s.Reports n (s.setActive n) := by
  unfold setActive
  cases hs : s.speaker with
  | true => exact .refl n s
  | false =>
    cases n with
    | false => exact ⟨rfl, [], (List.append_nil _).symm, fun e he => (nomatch he)⟩
    | true => exact ⟨rfl, [resourceAcquired s.sessionId], rfl, rfl⟩

theorem cancelled_events (s : TTSSession) (ids : List Nat) :
    (s.cancelled ids).listeners = s.listeners ∧
      ∃ es, (s.cancelled ids).events = s.events ++ es ∧ ∀ e ∈ es, e.resource = none := by
  unfold cancelled
  split
  · exact ⟨rfl, [], (List.append_nil _).symm, fun e he => (nomatch he)⟩
  · split
    · exact ⟨rfl, [], (List.append_nil _).symm, fun e he => (nomatch he)⟩
    · refine ⟨rfl, _, rfl, fun e he => ?_⟩
      rw [List.mem_singleton.mp he]
      rfl

theorem setInactive_reports (s : TTSSession) (self : Nat) (sp : TTSSpeaker) (n : Bool) :
    s.Reports n (s.setInactive self sp n).1 := by
  unfold setInactive abortAndClearPending
  cases hs : s.speaker with
  | false => exact .refl n s
  | true =>
    simp only [if_true]
    obtain ⟨hl, es, he, hsilent⟩ := s.cancelled_events ((sp.clearAllSpeechesFrom self).1.map SpeechData.id)
    generalize s.cancelled ((sp.clearAllSpeechesFrom self).1.map SpeechData.id) = t at hl he
    cases n with
    | false => exact ⟨hl, es, he, hsilent⟩
    | true =>
      refine ⟨hl, es ++ [resourceReleased t.sessionId], ?_, ?_⟩
      · rw [← List.append_assoc, ← he]
        rfl
      · rw [if_pos rfl, Mirror.replay_append]
        rfl

end TTSSession

structure Reporting (m m' : TTSManager) : Prop where
  policy : m'.policy = m.policy
  length : m'.objects.length = m.objects.length
  objects : ∀ (p : Nat) (s : TTSSession), m.objects[p]? = some s →
    ∃ s' : TTSSession, m'.objects[p]? = some s' ∧ s.Reports (decide (m.policy = .reservation)) s'

theorem Reporting.refl (m : TTSManager) : Reporting m m := ⟨rfl, rfl, fun _ s hs => ⟨s, hs, .refl _ s⟩⟩

theorem Reporting.trans {m m' m'' : TTSManager} (h : Reporting m m') (h' : Reporting m' m'') : Reporting m m'' := by
  refine ⟨h'.policy.trans h.policy, h'.length.trans h.length, fun p s hs => ?_⟩
  obtain ⟨s', hs', hr⟩ := h.objects p s hs
  obtain ⟨s'', hs'', hr'⟩ := h'.objects p s' hs'
  rw [h.policy] at hr'
  exact ⟨s'', hs'', hr.trans hr'⟩

namespace TTSManager

theorem reporting_of_objects {m m' : TTSManager} (hp : m'.policy = m.policy) (ho : m'.objects = m.objects) :
    Reporting m m' :=
  ⟨hp, by rw [ho], fun p s hs => ⟨s, by rw [ho]; exact hs, .refl _ s⟩⟩

theorem reporting_modify {m m' : TTSManager} (p : Nat) (f : TTSSession → TTSSession) (hp : m'.policy = m.policy)
    (ho : m'.objects = m.objects.modify p f) (hf : ∀ s : TTSSession, s.Reports (decide (m.policy = .reservation)) (f s)) :
    Reporting m m' := by
  refine ⟨hp, by rw [ho, List.length_modify], fun q s hs => ?_⟩
  rw [ho, List.getElem?_modify, hs]
  by_cases hq : p = q
  · exact ⟨f s, by simp [hq], hf s⟩
  · exact ⟨s, by simp [hq], .refl _ s⟩

theorem reporting_setActive {m : TTSManager} (p : Nat) {n : Bool} (hn : n = decide (m.policy = .reservation)) :
    Reporting m (m.setActive p n) :=
  reporting_modify p _ rfl rfl fun s => hn ▸ s.setActive_reports n

theorem reporting_setInactive {m : TTSManager} (p : Nat) {n : Bool} (hn : n = decide (m.policy = .reservation)) :
    Reporting m (m.setInactive p n) :=
  reporting_modify p _ rfl rfl fun s => hn ▸ s.setInactive_reports p m.speaker n

/-- The walks keep the policy, so that what depends on it composes. -/
theorem reporting_kept (n : Bool) :
    Kept n fun m m' => n = decide (m.policy = .reservation) → Reporting m m' where
  refl m _ := .refl m
  trans h h' hn := (h hn).trans (h' (hn.trans (by rw [(h hn).policy])))
  ensurePipeline _ _ _ := reporting_of_objects rfl rfl
  activeSession _ _ _ := reporting_of_objects rfl rfl
  setActive _ p hn := reporting_setActive p hn
  setInactive _ p hn := reporting_setInactive p hn

theorem reporting_keptGrants :
    KeptGrants fun m m' => true = decide (m.policy = .reservation) → Reporting m m' where
  toKept := reporting_kept true
  reservedApp _ _ _ := reporting_of_objects rfl rfl
  claimedApp _ _ _ := reporting_of_objects rfl rfl

section
variable {m : TTSManager} (hp : m.policy = .reservation)

include hp in
theorem reporting_reservePlayerResource (a : Nat) : Reporting m (m.reservePlayerResource a).2 :=
  reporting_keptGrants.reservePlayerResource m a (decide_eq_true hp).symm

include hp in
theorem reporting_releasePlayerResource (a : Nat) : Reporting m (m.releasePlayerResource a).2 :=
  reporting_keptGrants.releasePlayerResource m a (decide_eq_true hp).symm

include hp in
theorem reporting_claimPlayerResource (a : Nat) : Reporting m (m.claimPlayerResource a).2 :=
  reporting_keptGrants.claimPlayerResource m a (decide_eq_true hp).symm

end

theorem reporting_enableTTS (m : TTSManager) (enable : Bool) : Reporting m (m.enableTTS enable) := by
  by_cases hne : m.ttsEnabled = enable
  · rw [enableTTS_same hne]
    exact .refl m
  have hset : Reporting m (m.setEnabled enable) := reporting_of_objects rfl rfl
  refine hset.trans ?_
  by_cases hp : m.policy = .reservation
  · exact enableTTS_kept hne (fun _ => reporting_kept true) (fun hno => absurd hp hno) (decide_eq_true hp).symm
  · exact enableTTS_kept hne (fun hyes => absurd hyes hp) (fun _ => reporting_kept false) (decide_eq_false hp).symm

theorem reporting_destroySession (m : TTSManager) (id : Nat) : Reporting m (m.destroySession id).2 := by
  have hleave : ∀ (m' : TTSManager) (p : Nat), Reporting m' (m'.leaveMaps id p) := fun _ _ => reporting_of_objects rfl rfl
  have hclose : ∀ m' : TTSManager, Reporting m' (m'.closeConnection id) := by
    intro m'
    unfold closeConnection
    split <;> exact reporting_of_objects rfl rfl
  by_cases hp : m.policy = .reservation
  · exact destroySession_kept m id (fun _ => reporting_keptGrants) (fun hno => absurd hp hno)
      (fun m' p _ => hleave m' p) (fun m' _ => hclose m') (decide_eq_true hp).symm
  · exact destroySession_kept m id (fun hyes => absurd hyes hp) (fun _ => reporting_kept false)
      (fun m' p _ => hleave m' p) (fun m' _ => hclose m') (decide_eq_false hp).symm

theorem reporting_addSession (m : TTSManager) (a : Nat) (n : String) :
    Reporting (m.enterSession a n) (m.addSession a n) := by
  by_cases hp : m.policy = .reservation
  · exact addSession_kept m a n (fun _ => (reporting_kept true).toKeptActive) (fun hno => absurd hp hno)
      (decide_eq_true hp).symm
  · exact addSession_kept m a n (fun hyes => absurd hyes hp) (fun _ => (reporting_kept false).toKeptActive)
      (decide_eq_false hp).symm

end TTSManager

/-! ## The open policy -/

/-- A live session holds the speaker exactly while TTS is enabled. -/
structure OpenActive (m : TTSManager) : Prop where
  keyed : ∀ (id p : Nat), m.sessionMap[id]? = some p → ∃ a, m.ids p = some (a, id)
  holds : ∀ p, m.Live p → m.holds p = m.ttsEnabled

theorem SameRegistry.openActive {m m' : TTSManager} (h : SameRegistry m m') (hh : ∀ p, m.Live p → m'.holds p = m.holds p)
    (ho : OpenActive m) : OpenActive m' := by
  refine ⟨fun id p hp => ?_, fun p hp => ?_⟩
  · rw [h.sessionMap] at hp
    rw [h.ids]
    exact ho.keyed id p hp
  · have hp : m.Live p := by
      unfold TTSManager.Live at hp
      rw [h.sessionMap] at hp
      exact hp
    rw [hh p hp, h.ttsEnabled]
    exact ho.holds p hp

namespace TTSManager

theorem foldl_holds {f : TTSManager → Nat × Nat → TTSManager} {b : Bool} (hreg : ∀ m it, SameRegistry m (f m it))
    (hf : ∀ m it q, (f m it).holds q = if it.2 = q then b && (m.ids q).isSome else m.holds q)
    (its : List (Nat × Nat)) (m : TTSManager) (q : Nat) :
    (its.foldl f m).holds q = if q ∈ its.map Prod.snd then b && (m.ids q).isSome else m.holds q := by
  induction its generalizing m with
  | nil => exact (if_neg List.not_mem_nil).symm
  | cons it its ih =>
    rw [List.foldl_cons, ih, (hreg m it).ids, hf, List.map_cons]
    by_cases hq : q ∈ its.map Prod.snd
    · rw [if_pos hq, if_pos (List.mem_cons_of_mem _ hq)]
    · rw [if_neg hq]
      by_cases he : it.2 = q
      · rw [if_pos he, if_pos (he ▸ List.mem_cons_self)]
      · have hno : q ∉ it.2 :: its.map Prod.snd := by
          rw [List.mem_cons, not_or]
          exact ⟨fun e => he e.symm, hq⟩
        rw [if_neg he, if_neg hno]

theorem openActive_foldl {f : TTSManager → Nat × Nat → TTSManager} {m : TTSManager}
    (hreg : ∀ m it, SameRegistry m (f m it))
    (hf : ∀ m' it q, (f m' it).holds q = if it.2 = q then m.ttsEnabled && (m'.ids q).isSome else m'.holds q)
    (hkeyed : ∀ (id p : Nat), m.sessionMap[id]? = some p → ∃ a, m.ids p = some (a, id)) :
    OpenActive (m.sessionMap.toList.foldl f m) := by
  have hr := (sameRegistry_kept false).foldl hreg m.sessionMap.toList m
  refine ⟨fun id p hp => ?_, fun p hp => ?_⟩
  · rw [hr.sessionMap] at hp
    rw [hr.ids]
    exact hkeyed id p hp
  · obtain ⟨id, hid⟩ := hp
    rw [hr.sessionMap] at hid
    obtain ⟨a, ha⟩ := hkeyed id p hid
    have hmem : p ∈ m.sessionMap.toList.map Prod.snd :=
      List.mem_map.mpr ⟨(id, p), Std.TreeMap.mem_toList_iff_getElem?_eq_some.mpr hid, rfl⟩
    rw [foldl_holds hreg hf, if_pos hmem, ha, hr.ttsEnabled]
    exact Bool.and_true _

section
variable {m : TTSManager} (hp : m.policy ≠ .reservation) (h : OpenActive m)

include hp h in
theorem enableTTS_openActive (enable : Bool) :
    OpenActive (m.enableTTS enable) ∧ (m.enableTTS enable).sessionMap = m.sessionMap := by
  refine ⟨?_, (m.sameRegistry_enableTTS enable).sessionMap⟩
  by_cases hne : m.ttsEnabled = enable
  · rw [enableTTS_same hne]
    exact h
  rw [enableTTS_open hp hne]
  cases enable with
  | true =>
    rw [if_pos rfl]
    have hensure : SameRegistry (m.setEnabled true)
        (if !m.sessionMap.isEmpty then (m.setEnabled true).ensurePipeline true else m.setEnabled true) := by
      split
      · exact sameRegistry_ensurePipeline _ true
      · exact .refl _
    refine openActive_foldl (fun m it => m.sameRegistry_setActive it.2 false) (fun m it q => ?_) fun id p hid => ?_
    · rw [hensure.ttsEnabled]
      exact m.holds_setActive it.2 false q
    · rw [hensure.ids]
      exact h.keyed id p (hensure.sessionMap ▸ hid)
  | false =>
    rw [if_neg Bool.false_ne_true]
    refine openActive_foldl (m := (m.setEnabled false).ensurePipeline false)
      (fun m it => m.sameRegistry_setInactive it.2 false) (fun m it q => ?_) h.keyed
    exact m.holds_setInactive it.2 false q

include h in
theorem erase_openActive {id p : Nat} (hid : m.sessionMap[id]? = some p) (m' : TTSManager)
    (hmap : m'.sessionMap = m.sessionMap.erase id) (hids : ∀ q, m'.ids q = m.ids q)
    (hholds : ∀ q, q ≠ p → m'.holds q = m.holds q) (he : m'.ttsEnabled = m.ttsEnabled) :
    OpenActive m' ∧ ∀ q, m'.Live q → m.Live q := by
  have hlive : ∀ (id' q : Nat), m'.sessionMap[id']? = some q → m.sessionMap[id']? = some q ∧ q ≠ p := by
    intro id' q hq
    rw [hmap, getElem?_erase] at hq
    by_cases hi : id = id'
    · rw [if_pos hi] at hq
      cases hq
    rw [if_neg hi] at hq
    refine ⟨hq, ?_⟩
    rintro rfl
    obtain ⟨a, ha⟩ := h.keyed id q hid
    obtain ⟨a', ha'⟩ := h.keyed id' q hq
    exact hi (congrArg Prod.snd (Option.some.inj (ha.symm.trans ha')))
  refine ⟨⟨fun id' q hq => ?_, fun q hq => ?_⟩, fun q hq => ?_⟩
  · rw [hids]
    exact h.keyed id' q (hlive id' q hq).1
  · obtain ⟨id', hq⟩ := hq
    obtain ⟨hq, hne⟩ := hlive id' q hq
    rw [hholds q hne, he]
    exact h.holds q ⟨id', hq⟩
  · obtain ⟨id', hq⟩ := hq
    exact ⟨id', (hlive id' q hq).1⟩

include hp h in
theorem destroySession_openActive (id : Nat) :
    OpenActive (m.destroySession id).2 ∧ ∀ q, (m.destroySession id).2.Live q → m.Live q := by
  cases hid : m.sessionMap[id]? with
  | none =>
    rw [destroySession_of_unknown hid]
    exact ⟨h, fun q hq => hq⟩
  | some p =>
    rw [destroySession_of_known hid, if_neg hp]
    have hset := m.sameRegistry_setInactive p false
    have hclose := sameRegistry_closeSession ((m.setInactive p false).leaveMaps id p) id
    refine erase_openActive h hid _ hclose.sessionMap (fun q => ?_) (fun q hq => ?_) hclose.ttsEnabled
    · rw [hclose.ids]
      exact hset.ids q
    · rw [holds_closeSession]
      show (m.setInactive p false).holds q = m.holds q
      rw [holds_setInactive, if_neg hq.symm]

include hp in
theorem holds_addSession (a : Nat) (n : String) (q : Nat) :
    (m.addSession a n).holds q = if q = m.objects.length then m.ttsEnabled else m.holds q := by
  rw [addSession_open hp]
  by_cases he : m.ttsEnabled = true
  · rw [if_pos he, holds_setActive]
    by_cases hq : q = m.objects.length
    · rw [if_pos hq.symm, if_pos hq]
      show ((m.enterSession a n).ids q).isSome = m.ttsEnabled
      rw [ids_enterSession, if_pos hq]
      exact he.symm
    · rw [if_neg (fun e => hq e.symm), if_neg hq]
      exact (holds_enterSession m a n q).trans (if_neg hq)
  · rw [if_neg he, holds_enterSession]
    split
    · exact (Bool.eq_false_iff.mpr he).symm
    · rfl

include hp h in
theorem addSession_openActive (a : Nat) (n : String) :
    OpenActive (m.addSession a n) ∧ ∀ q, (m.addSession a n).Live q → q = m.objects.length ∨ m.Live q := by
  have hlive : ∀ (id q : Nat), (m.enterSession a n).sessionMap[id]? = some q →
      id = m.nextSessionId ∧ q = m.objects.length ∨ m.sessionMap[id]? = some q := by
    intro id q hq
    have hq : (m.sessionMap.insert m.nextSessionId m.objects.length)[id]? = some q := hq
    rw [getElem?_insert] at hq
    split at hq
    · rename_i he
      exact .inl ⟨he.symm, (Option.some.inj hq).symm⟩
    · exact .inr hq
  have hkeyed : ∀ (id q : Nat), (m.enterSession a n).sessionMap[id]? = some q →
      ∃ a', (m.enterSession a n).ids q = some (a', id) := by
    intro id q hq
    rw [ids_enterSession]
    rcases hlive id q hq with ⟨rfl, rfl⟩ | hq
    · exact ⟨a, if_pos rfl⟩
    · obtain ⟨a', ha'⟩ := h.keyed id q hq
      exact ⟨a', (if_neg (Nat.ne_of_lt (lt_of_ids ha'))).trans ha'⟩
  have hreg := m.sameRegistry_addSession a n
  refine ⟨⟨fun id q hq => ?_, fun q hq => ?_⟩, fun q hq => ?_⟩
  · rw [hreg.ids]
    exact hkeyed id q (hreg.sessionMap ▸ hq)
  · rw [holds_addSession hp, hreg.ttsEnabled]
    obtain ⟨id, hq⟩ := hq
    rw [hreg.sessionMap] at hq
    split
    · rfl
    · rename_i hne
      exact h.holds q ⟨id, (hlive id q hq).resolve_left fun e => hne e.2⟩
  · obtain ⟨id, hq⟩ := hq
    rw [hreg.sessionMap] at hq
    exact (hlive id q hq).imp (fun e => e.2) fun e => ⟨id, e⟩

end

end TTSManager

end TTS
