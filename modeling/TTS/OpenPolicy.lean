import TTS.EngineRuns
import TTS.Reporting

/-!
# The open policy

Without reservations every live session has the speaker while TTS is enabled.
The invariant ties the two maps, the activity of the session objects, the
request for a pipeline and the queue of the speaker together.
-/

namespace TTS

open Monitor Transition

structure OpenInvariant (m : TTSManager) : Prop where
  /-- The maps list the same sessions, each under its app and its id. -/
  registry : Registry m
  distinct : ∀ p q a b i j, m.Live p → m.Live q → m.ids p = some (a, i) → m.ids q = some (b, j) → p ≠ q → a ≠ b ∧ i ≠ j
  active : ∀ p, m.holds p = true ↔ m.Live p ∧ m.ttsEnabled = true
  pipeline : m.speaker.ensurePipeline = true ↔ m.ttsEnabled = true ∧ m.sessionMap.isEmpty = false
  queue : ∀ d ∈ m.speaker.queue, m.Live d.client ∧ m.holds d.client = true

/-- Under the open policy, with session ids that were never given twice. -/
structure OpenHeld (m : TTSManager) : Prop where
  policy : m.policy ≠ .reservation
  registry : Registry m
  given : ∀ id p, m.sessionMap[id]? = some p → id ≤ m.counter
  active : ∀ p, m.holds p = true ↔ m.Live p ∧ m.ttsEnabled = true
  queue : ∀ d ∈ m.speaker.queue, m.holds d.client = true

structure OpenSound (m : TTSManager) : Prop extends OpenHeld m where
  pipeline : m.speaker.ensurePipeline = true ↔ m.ttsEnabled = true ∧ m.sessionMap.isEmpty = false

theorem Registry.live_ids {m : TTSManager} (h : Registry m) {p : Nat} (hp : m.Live p) {a i : Nat}
    (hi : m.ids p = some (a, i)) : m.appMap[a]? = some p ∧ m.sessionMap[i]? = some p := by
  obtain ⟨id, hid⟩ := hp
  obtain ⟨a', ha', hm⟩ := h.session id p hid
  obtain ⟨rfl, rfl⟩ := Prod.mk.inj (Option.some.inj (hi.symm.trans ha'))
  exact ⟨hm, hid⟩

theorem OpenSound.openInvariant {m : TTSManager} (h : OpenSound m) : OpenInvariant m := by
  refine ⟨h.registry, fun p q a b i j hp hq hpi hqj hne => ?_, h.active, h.pipeline, fun d hd => ?_⟩
  · obtain ⟨hpa, hpi⟩ := h.registry.live_ids hp hpi
    obtain ⟨hqb, hqj⟩ := h.registry.live_ids hq hqj
    constructor
    · intro e
      subst e
      exact hne (Option.some.inj (hpa.symm.trans hqb))
    · intro e
      subst e
      exact hne (Option.some.inj (hpi.symm.trans hqj))
  · have hh := h.queue d hd
    exact ⟨((h.active d.client).mp hh).1, hh⟩

namespace TTSManager

/-! ## The queue and the request for a pipeline -/

/-- Whoever has a speech in the queue has the speaker. -/
def Queued (m : TTSManager) : Prop := ∀ d ∈ m.speaker.queue, m.holds d.client = true

theorem setActive_queued {m : TTSManager} (h : m.Queued) (p : Nat) (n : Bool) : (m.setActive p n).Queued := by
  intro d hd
  have hh := h d hd
  rw [holds_setActive]
  split
  · exact isSome_ids_of_holds hh
  · exact hh

theorem clearAllSpeechesFrom_queue (sp : TTSSpeaker) (client : Nat) :
    (sp.clearAllSpeechesFrom client).2.queue = sp.queue.filter (fun d => d.client ≠ client) ∧
      (sp.clearAllSpeechesFrom client).2.ensurePipeline = sp.ensurePipeline := by
  unfold TTSSpeaker.clearAllSpeechesFrom TTSSpeaker.eraseFrom TTSSpeaker.cancelCurrentSpeech
  simp only
  split
  · split <;> exact ⟨rfl, rfl⟩
  · exact ⟨rfl, rfl⟩

theorem setInactive_speaker (m : TTSManager) (p : Nat) (n : Bool) :
    (m.setInactive p n).speaker = if m.holds p then (m.speaker.clearAllSpeechesFrom p).2 else m.speaker := by
  unfold setInactive holds
  cases hs : m.objects[p]? with
  | none => rfl
  | some s =>
    show (s.setInactive p m.speaker n).2 = if s.speaker = true then _ else _
    unfold TTSSession.setInactive TTSSession.abortAndClearPending
    by_cases hsp : s.speaker = true <;> simp [hsp]

theorem setInactive_queued {m : TTSManager} (h : m.Queued) (p : Nat) (n : Bool) : (m.setInactive p n).Queued := by
  intro d hd
  rw [setInactive_speaker] at hd
  rw [holds_setInactive]
  split at hd
  · rw [(clearAllSpeechesFrom_queue m.speaker p).1, List.mem_filter] at hd
    rw [if_neg (fun e => of_decide_eq_true hd.2 e.symm)]
    exact h d hd.1
  · rename_i hp
    have hh := h d hd
    have hne : p ≠ d.client := by
      intro e
      exact hp (e ▸ hh)
    rw [if_neg hne]
    exact hh

theorem setInactive_ensurePipeline (m : TTSManager) (p : Nat) (n : Bool) :
    (m.setInactive p n).speaker.ensurePipeline = m.speaker.ensurePipeline := by
  rw [setInactive_speaker]
  split
  · exact (clearAllSpeechesFrom_queue m.speaker p).2
  · rfl

end TTSManager

theorem SameGrant.openHeld {m m' : TTSManager} (h : SameGrant m m') (hs : OpenHeld m)
    (hq : ∀ d ∈ m'.speaker.queue, m.holds d.client = true) : OpenHeld m' := by
  refine ⟨?_, ⟨?_, ?_⟩, ?_, ?_, ?_⟩
  · rw [h.policy]
    exact hs.policy
  · simpa only [h.sessionMap, h.appMap, h.ids] using hs.registry.session
  · simpa only [h.sessionMap, h.appMap, h.ids] using hs.registry.app
  · simpa only [h.sessionMap, h.counter] using hs.given
  · simpa only [h.holds, TTSManager.Live, h.sessionMap, h.ttsEnabled] using hs.active
  · simpa only [h.holds] using hq

theorem SameGrant.openSound {m m' : TTSManager} (h : SameGrant m m') (hs : OpenSound m)
    (he : m'.speaker.ensurePipeline = m.speaker.ensurePipeline)
    (hq : ∀ d ∈ m'.speaker.queue, m.holds d.client = true) : OpenSound m' := by
  refine ⟨h.openHeld hs.toOpenHeld hq, ?_⟩
  rw [he, h.ttsEnabled, h.sessionMap]
  exact hs.pipeline

def EngineCall.isCreateSession : EngineCall → Bool
  | .manager (.createSession _ _ _) => true
  | _ => false

namespace TTSManager

/-! ## The operations -/

theorem isEmpty_false_of_getElem? {t : Std.TreeMap Nat Nat} {id p : Nat} (h : t[id]? = some p) :
    t.isEmpty = false := by
  by_contra hne
  rw [Std.TreeMap.getElem?_of_isEmpty (by simpa using hne)] at h
  cases h

theorem live_congr {m m' : TTSManager} (h : m'.sessionMap = m.sessionMap) (q : Nat) : m'.Live q ↔ m.Live q := by
  unfold Live
  rw [h]

theorem mem_values_iff {m : TTSManager} {p : Nat} : p ∈ m.sessionMap.toList.map Prod.snd ↔ m.Live p := by
  rw [List.mem_map]
  constructor
  · intro h
    obtain ⟨⟨id, q⟩, hmem, rfl⟩ := h
    exact ⟨id, Std.TreeMap.mem_toList_iff_getElem?_eq_some.mp hmem⟩
  · intro h
    obtain ⟨id, hid⟩ := h
    exact ⟨(id, p), Std.TreeMap.mem_toList_iff_getElem?_eq_some.mpr hid, rfl⟩

theorem live_isSome_ids {m : TTSManager} (h : Registry m) {p : Nat} (hp : m.Live p) : (m.ids p).isSome = true := by
  obtain ⟨id, hid⟩ := hp
  obtain ⟨a, ha, -⟩ := h.session id p hid
  rw [ha]
  rfl

theorem foldl_queued {f : TTSManager → Nat × Nat → TTSManager}
    (hf : ∀ m it, m.Queued → (f m it).Queued ∧ (f m it).speaker.ensurePipeline = m.speaker.ensurePipeline)
    (its : List (Nat × Nat)) {m : TTSManager} (h : m.Queued) :
    (its.foldl f m).Queued ∧ (its.foldl f m).speaker.ensurePipeline = m.speaker.ensurePipeline := by
  induction its generalizing m with
  | nil => exact ⟨h, rfl⟩
  | cons it its ih =>
    obtain ⟨hq, he⟩ := hf m it h
    obtain ⟨hq', he'⟩ := ih hq
    exact ⟨hq', he'.trans he⟩

theorem activate_openSound {m : TTSManager} (hp : m.policy ≠ .reservation) (hr : Registry m)
    (hg : ∀ id p, m.sessionMap[id]? = some p → id ≤ m.counter) (hen : m.ttsEnabled = true)
    (hoff : ∀ p, m.holds p = false) (he : m.speaker.ensurePipeline = !m.sessionMap.isEmpty) (hq : m.Queued) :
    OpenSound m.activateAll := by
  have hf : SameRegistry m m.activateAll :=
    (sameRegistry_kept false).foldl (fun m it => m.sameRegistry_setActive it.2 false) _ m
  have hh : ∀ q, m.activateAll.holds q =
      if q ∈ m.sessionMap.toList.map Prod.snd then (m.ids q).isSome else m.holds q :=
    foldl_holds (b := true) (fun m it => m.sameRegistry_setActive it.2 false)
      (fun m it q => m.holds_setActive it.2 false q) m.sessionMap.toList m
  have hqueue : m.activateAll.Queued ∧ m.activateAll.speaker.ensurePipeline = m.speaker.ensurePipeline :=
    foldl_queued (fun m it hq => ⟨setActive_queued hq it.2 false, rfl⟩) m.sessionMap.toList hq
  obtain ⟨hq', he'⟩ := hqueue
  have hlive := live_congr hf.sessionMap
  refine ⟨⟨by rw [hf.policy]; exact hp, hf.registry hr, ?_, fun p => ?_, hq'⟩, ?_⟩
  · rw [hf.sessionMap, hf.counter]
    exact hg
  · rw [hh, hlive, hf.ttsEnabled, hen]
    by_cases hl : m.Live p
    · rw [if_pos (mem_values_iff.mpr hl)]
      exact iff_of_true (live_isSome_ids hr hl) ⟨hl, rfl⟩
    · rw [if_neg (fun h => hl (mem_values_iff.mp h)), hoff]
      exact iff_of_false Bool.false_ne_true fun h => hl h.1
  · rw [he', he, hf.ttsEnabled, hen, hf.sessionMap]
    simp

theorem deactivate_openSound {m : TTSManager} (hp : m.policy ≠ .reservation) (hr : Registry m)
    (hg : ∀ id p, m.sessionMap[id]? = some p → id ≤ m.counter) (hen : m.ttsEnabled = false)
    (hlive : ∀ p, m.holds p = true → m.Live p) (he : m.speaker.ensurePipeline = false) (hq : m.Queued) :
    OpenSound m.deactivateAll := by
  have hf : SameRegistry m m.deactivateAll :=
    (sameRegistry_kept false).foldl (fun m it => m.sameRegistry_setInactive it.2 false) _ m
  have hh : ∀ q, m.deactivateAll.holds q =
      if q ∈ m.sessionMap.toList.map Prod.snd then false else m.holds q :=
    foldl_holds (b := false) (fun m it => m.sameRegistry_setInactive it.2 false)
      (fun m it q => m.holds_setInactive it.2 false q) m.sessionMap.toList m
  have hqueue : m.deactivateAll.Queued ∧ m.deactivateAll.speaker.ensurePipeline = m.speaker.ensurePipeline :=
    foldl_queued (fun m it hq => ⟨setInactive_queued hq it.2 false, m.setInactive_ensurePipeline it.2 false⟩)
      m.sessionMap.toList hq
  obtain ⟨hq', he'⟩ := hqueue
  refine ⟨⟨by rw [hf.policy]; exact hp, hf.registry hr, ?_, fun p => ?_, hq'⟩, ?_⟩
  · rw [hf.sessionMap, hf.counter]
    exact hg
  · rw [hh, hf.ttsEnabled, hen]
    refine iff_of_false (fun h => ?_) (fun h => Bool.false_ne_true h.2)
    split at h
    · cases h
    · rename_i hno
      exact hno (mem_values_iff.mpr (hlive p h))
  · rw [he', he, hf.ttsEnabled, hen]
    simp

theorem enableTTS_openSound {m : TTSManager} (h : OpenSound m) (enable : Bool) : OpenSound (m.enableTTS enable) := by
  by_cases hne : m.ttsEnabled = enable
  · rw [enableTTS_same hne]
    exact h
  have hreg : Registry (m.setEnabled enable) := ⟨h.registry.1, h.registry.2⟩
  rw [enableTTS_open h.policy hne]
  cases enable with
  | true =>
    have hoff : m.ttsEnabled = false := by simpa using hne
    have hnone : ∀ p, (m.setEnabled true).holds p = false := by
      intro p
      rw [← Bool.not_eq_true]
      intro hp
      exact Bool.false_ne_true (hoff.symm.trans ((h.active p).mp hp).2)
    have hpipe : m.speaker.ensurePipeline = false := by
      rw [← Bool.not_eq_true, h.pipeline, hoff]
      exact fun h => Bool.false_ne_true h.1
    rw [if_pos rfl]
    cases he : m.sessionMap.isEmpty with
    | true =>
      have hpipe' : m.speaker.ensurePipeline = !m.sessionMap.isEmpty := by rw [hpipe, he]; rfl
      exact activate_openSound (m := m.setEnabled true) h.policy hreg h.given rfl hnone hpipe' h.queue
    | false =>
      have hf := (m.setEnabled true).sameRegistry_ensurePipeline true
      have hpipe' : true = !m.sessionMap.isEmpty := by rw [he]; rfl
      exact activate_openSound (m := (m.setEnabled true).ensurePipeline true) h.policy (hf.registry hreg) h.given rfl
        hnone hpipe' h.queue
  | false =>
    have hf := (m.setEnabled false).sameRegistry_ensurePipeline false
    exact deactivate_openSound (m := (m.setEnabled false).ensurePipeline false) h.policy (hf.registry hreg) h.given rfl
      (fun p hp => ((h.active p).mp hp).1) rfl h.queue

theorem live_erase {m m' : TTSManager} {id p : Nat} (hp : m.sessionMap[id]? = some p) {a : Nat}
    (hr : Registry m) (hids : m.ids p = some (a, id)) (hmap : m'.sessionMap = m.sessionMap.erase id) (q : Nat) :
    m'.Live q ↔ m.Live q ∧ p ≠ q := by
  unfold Live
  simp only [hmap, getElem?_erase]
  constructor
  · intro h
    obtain ⟨i, hi⟩ := h
    split at hi
    · cases hi
    · rename_i hne
      refine ⟨⟨i, hi⟩, ?_⟩
      rintro rfl
      obtain ⟨b, hb, -⟩ := hr.session i p hi
      exact hne (congrArg Prod.snd (Option.some.inj (hids.symm.trans hb)))
  · intro h
    obtain ⟨⟨i, hi⟩, hne⟩ := h
    refine ⟨i, ?_⟩
    rw [if_neg, hi]
    intro e
    rw [← e, hp] at hi
    exact hne (Option.some.inj hi)

theorem leaveMaps_openHeld {m : TTSManager} (h : OpenHeld m) {id p : Nat} (hp : m.sessionMap[id]? = some p) :
    OpenHeld ((m.setInactive p false).leaveMaps id p) := by
  obtain ⟨a, hids, hm⟩ := h.registry.session id p hp
  have hf := m.sameRegistry_setInactive p false
  have hids' := (hf.ids p).trans hids
  have hreg := erase_registry (hf.registry h.registry) hids' (hf.sessionMap ▸ hp) (hf.appMap ▸ hm)
  unfold leaveMaps
  rw [appId_of_ids hids']
  refine ⟨h.policy, hreg, fun i q hi => ?_, fun q => ?_, setInactive_queued h.queue p false⟩
  · have hi : (m.sessionMap.erase id)[i]? = some q := hi
    rw [getElem?_erase] at hi
    split at hi
    · cases hi
    · exact h.given i q hi
  · rw [live_erase hp h.registry hids rfl]
    show (m.setInactive p false).holds q = true ↔ _
    rw [holds_setInactive]
    by_cases hq : p = q
    · rw [if_pos hq]
      exact iff_of_false Bool.false_ne_true fun h => h.1.2 hq
    · rw [if_neg hq, h.active q]
      exact ⟨fun h => ⟨⟨h.1, hq⟩, h.2⟩, fun h => ⟨h.1.1, h.2⟩⟩

theorem closeSession_speaker (m : TTSManager) (id : Nat) :
    (m.closeSession id).speaker.queue = m.speaker.queue ∧
      (m.closeSession id).speaker.ensurePipeline = (!m.sessionMap.isEmpty && m.speaker.ensurePipeline) := by
  have hsp : (m.closeConnection id).speaker = m.speaker := by
    unfold closeConnection
    split <;> rfl
  unfold closeSession
  rw [(m.sameRegistry_closeConnection id).sessionMap]
  cases m.sessionMap.isEmpty with
  | true =>
    rw [if_pos rfl]
    have hqueue : (m.closeConnection id).speaker.queue = m.speaker.queue := congrArg TTSSpeaker.queue hsp
    exact ⟨hqueue, rfl⟩
  | false =>
    rw [if_neg Bool.false_ne_true]
    exact ⟨congrArg TTSSpeaker.queue hsp, congrArg TTSSpeaker.ensurePipeline hsp⟩

theorem destroySession_openSound {m : TTSManager} (h : OpenSound m) (id : Nat) :
    OpenSound (m.destroySession id).2 := by
  cases hp : m.sessionMap[id]? with
  | none =>
    rw [destroySession_of_unknown hp]
    exact h
  | some p =>
    have hold := leaveMaps_openHeld h.toOpenHeld hp
    have hpipe : (m.setInactive p false).speaker.ensurePipeline = m.ttsEnabled := by
      rw [m.setInactive_ensurePipeline p false, Bool.eq_iff_iff, h.pipeline]
      exact and_iff_left (isEmpty_false_of_getElem? hp)
    rw [destroySession_of_known hp, if_neg h.policy]
    generalize hm' : (m.setInactive p false).leaveMaps id p = m' at hold
    have hens : m'.speaker.ensurePipeline = m'.ttsEnabled := by rw [← hm']; exact hpipe
    obtain ⟨hqueue, hflag⟩ := m'.closeSession_speaker id
    have hclose := (m'.sameRegistry_closeSession id).sameGrant (activeSession_closeSession m' id)
      (holds_closeSession m' id)
    refine ⟨hclose.openHeld hold (by rw [hqueue]; exact hold.queue), ?_⟩
    rw [hflag, hens, hclose.ttsEnabled, hclose.sessionMap]
    cases m'.ttsEnabled <;> cases m'.sessionMap.isEmpty <;> simp

theorem live_enterSession {m : TTSManager} (a : Nat) (n : String) (hfresh : m.nextSessionId ∉ m.sessionMap) (q : Nat) :
    (m.enterSession a n).Live q ↔ q = m.objects.length ∨ m.Live q := by
  have hmap : ∀ i : Nat, (m.enterSession a n).sessionMap[i]? =
      if m.nextSessionId = i then some m.objects.length else m.sessionMap[i]? := fun i => getElem?_insert _ _ _ _
  unfold Live
  simp only [hmap]
  constructor
  · intro h
    obtain ⟨i, hi⟩ := h
    split at hi
    · exact .inl (Option.some.inj hi).symm
    · exact .inr ⟨i, hi⟩
  · intro h
    rcases h with rfl | ⟨i, hi⟩
    · exact ⟨m.nextSessionId, if_pos rfl⟩
    · refine ⟨i, ?_⟩
      rw [if_neg, hi]
      intro e
      exact hfresh ((mem_iff_getElem? _ _).mpr ⟨q, e ▸ hi⟩)

theorem nextSessionId_fresh {m : TTSManager} (h : OpenHeld m) (hcount : m.counter + 1 < 2 ^ 32) :
    m.nextSessionId = m.counter + 1 ∧ m.nextSessionId ∉ m.sessionMap := by
  have hnext : m.nextSessionId = m.counter + 1 := Nat.mod_eq_of_lt hcount
  refine ⟨hnext, fun hmem => ?_⟩
  obtain ⟨p, hp⟩ := (mem_iff_getElem? _ _).mp hmem
  have := h.given _ _ hp
  omega

theorem enterSession_given {m : TTSManager} (h : OpenHeld m) (hnext : m.nextSessionId = m.counter + 1) (a : Nat)
    (n : String) (id p : Nat) (hp : (m.enterSession a n).sessionMap[id]? = some p) : id ≤ m.nextSessionId := by
  have hp : (m.sessionMap.insert m.nextSessionId m.objects.length)[id]? = some p := hp
  rw [getElem?_insert] at hp
  split at hp
  · omega
  · have := h.given id p hp
    omega

theorem addSession_queued {m : TTSManager} (h : OpenHeld m) (a : Nat) (n : String) : (m.addSession a n).Queued := by
  have hqueue : (m.enterSession a n).Queued := by
    intro d hd
    have hh := h.queue d hd
    rw [holds_enterSession, if_neg (Nat.ne_of_lt (lt_of_holds hh))]
    exact hh
  rw [addSession_open h.policy]
  split
  · exact setActive_queued hqueue _ false
  · exact hqueue

theorem addSession_openSound {m : TTSManager} (h : OpenSound m) (a : Nat) (n : String)
    (hcount : m.counter + 1 < 2 ^ 32) (hno : ∀ p, m.Live p → m.appId p ≠ a) :
    OpenSound (m.addSession a n) ∧ (m.addSession a n).counter = m.counter + 1 := by
  obtain ⟨hnext, hfresh⟩ := nextSessionId_fresh h.toOpenHeld hcount
  have hf := m.sameRegistry_addSession a n
  have hreg := hf.registry (enterSession_registry h.registry n hno hfresh)
  have hlive := live_enterSession a n hfresh
  have hen : (m.addSession a n).ttsEnabled = m.ttsEnabled := hf.ttsEnabled
  refine ⟨⟨⟨hf.policy ▸ h.policy, hreg, ?_, fun q => ?_, addSession_queued h.toOpenHeld a n⟩, ?_⟩,
    hf.counter.trans hnext⟩
  · rw [hf.sessionMap, hf.counter]
    exact enterSession_given h.toOpenHeld hnext a n
  · rw [live_congr hf.sessionMap, hlive, hen, holds_addSession h.policy]
    by_cases hq : q = m.objects.length
    · rw [if_pos hq]
      exact ⟨fun he => ⟨.inl hq, he⟩, fun h => h.2⟩
    · rw [if_neg hq, h.active]
      exact and_congr_left fun _ => ⟨.inr, fun h => h.resolve_left hq⟩
  · have hmap : (m.addSession a n).sessionMap.isEmpty = false := by
      rw [hf.sessionMap]
      exact isEmpty_false_of_getElem? ((getElem?_insert m.sessionMap m.nextSessionId m.objects.length _).trans
        (if_pos rfl))
    rw [hen, hmap, addSession_open h.policy]
    cases he : m.ttsEnabled with
    | true => exact iff_of_true rfl ⟨rfl, rfl⟩
    | false =>
      refine iff_of_false (fun hpipe => ?_) fun h => Bool.false_ne_true h.1
      exact Bool.false_ne_true (he.symm.trans (h.pipeline.mp hpipe).1)

theorem createSession_openSound {m : TTSManager} (h : OpenSound m) (a : Nat) (n : String)
    (hcount : m.counter + 1 < 2 ^ 32) :
    OpenSound (m.createSession a n).2 ∧ (m.createSession a n).2.counter ≤ m.counter + 1 := by
  rcases m.createSession_cases a n with e | ⟨hno, e⟩
  · rw [e]
    exact ⟨h, Nat.le_succ _⟩
  · rw [e]
    obtain ⟨hs, hc⟩ := addSession_openSound h a n hcount hno
    exact ⟨hs, Nat.le_of_eq hc⟩

theorem effect_openSound {m : TTSManager} (h : OpenSound m) (op : ManagerOp)
    (hcount : (EngineCall.manager op).isCreateSession = true → m.counter + 1 < 2 ^ 32) : OpenSound (op.effect m) := by
  cases op with
  | enableTTS enable => exact enableTTS_openSound h enable
  | destroySession id => exact destroySession_openSound h id
  | createSession a n keys =>
    obtain ⟨hs, -⟩ := createSession_openSound h a n (hcount rfl)
    obtain ⟨hf, hsp⟩ := sameGrant_createSession m a n keys
    exact hf.openSound hs (by rw [hsp]) (by rw [hsp]; exact hs.queue)
  | setConfiguration configuration =>
    obtain ⟨hf, hsp⟩ := sameGrant_setConfiguration m configuration
    exact hf.openSound h (by rw [hsp]) (by rw [hsp]; exact h.queue)
  | reservePlayerResource a | releasePlayerResource a | claimPlayerResource a =>
    simp only [ManagerOp.effect, h.policy, if_false]
    exact h
  | isTTSEnabled | listVoices | getConfiguration | isSessionActiveForApp | getResourceAllocationPolicy => exact h

theorem speak_queue (sp : TTSSpeaker) (client id : Nat) (text : Text) (secure preemptive : Bool) :
    (∀ d ∈ (sp.speak client id text secure preemptive).queue, d ∈ sp.queue ∨ d.client = client) ∧
      (sp.speak client id text secure preemptive).ensurePipeline = sp.ensurePipeline := by
  unfold TTSSpeaker.speak TTSSpeaker.queueData
  cases preemptive with
  | false =>
    refine ⟨fun d hd => ?_, rfl⟩
    rcases List.mem_append.mp hd with hd | hd
    · exact .inl hd
    · rw [List.mem_singleton.mp hd]
      exact .inr rfl
  | true =>
    constructor
    · intro d hd
      rw [List.mem_singleton.mp hd]
      exact .inr rfl
    · simp only [if_true]
      unfold TTSSpeaker.reset TTSSpeaker.cancelCurrentSpeech
      split <;> rfl

theorem abortAndClearPending_queue (s : TTSSession) (self : Nat) (sp : TTSSpeaker) :
    (∀ d ∈ (s.abortAndClearPending self sp).2.queue, d ∈ sp.queue) ∧
      (s.abortAndClearPending self sp).2.ensurePipeline = sp.ensurePipeline := by
  obtain ⟨hq, he⟩ := clearAllSpeechesFrom_queue sp self
  unfold TTSSession.abortAndClearPending
  split
  · refine ⟨fun d hd => ?_, he⟩
    rw [hq] at hd
    exact (List.mem_filter.mp hd).1
  · exact ⟨fun _ hd => hd, rfl⟩

theorem callSession_openSound {m : TTSManager} (h : OpenSound m) {p : Nat} {s : TTSSession}
    (hs : m.objects[p]? = some s) (c : SessionCall) : OpenSound (m.callSession p s c).2 := by
  have hf := sameGrant_callSession m p s c
  have hholds : m.holds p = s.speaker := by
    unfold holds
    rw [hs]
    rfl
  cases c with
  | speak id text secure =>
    by_cases hok : s.speak = .ok
    · have hsp : s.speaker = true := by
        unfold TTSSession.speak at hok
        cases hsp : s.speaker with
        | true => rfl
        | false =>
          rw [hsp] at hok
          cases hok
      obtain ⟨hq, he⟩ := speak_queue m.speaker p id text secure s.configuration.preemptiveSpeaking
      simp only [callSession, if_pos hok] at hf ⊢
      refine hf.openSound h he fun d hd => ?_
      rcases hq d hd with hd | hd
      · exact h.queue d hd
      · rw [hd, hholds]
        exact hsp
    · simp only [callSession, if_neg hok]
      exact h
  | abortAndClearPending =>
    obtain ⟨hq, he⟩ := abortAndClearPending_queue s p m.speaker
    exact hf.openSound h he fun d hd => h.queue d (hq d hd)
  | setPreemptiveSpeak | requestExtendedEvents => exact hf.openSound h rfl h.queue

/-! ## The counter of session ids -/

theorem destroySession_counter {m : TTSManager} (hpol : m.policy ≠ .reservation) (id : Nat) :
    (m.destroySession id).2.counter = m.counter := by
  cases hp : m.sessionMap[id]? with
  | none => rw [destroySession_of_unknown hp]
  | some p =>
    rw [destroySession_of_known hp, if_neg hpol]
    exact (sameRegistry_closeSession _ id).counter

end TTSManager

theorem effect_counter {m : TTSManager} (h : OpenSound m) (op : ManagerOp)
    (hcount : (EngineCall.manager op).isCreateSession = true → m.counter + 1 < 2 ^ 32) :
    (op.effect m).counter ≤ m.counter + if (EngineCall.manager op).isCreateSession then 1 else 0 := by
  cases op with
  | createSession a n keys =>
    obtain ⟨-, hc⟩ := TTSManager.createSession_openSound h a n (hcount rfl)
    simp only [ManagerOp.effect]
    cases (m.createSession a n).1.session <;> exact hc
  | enableTTS enable => exact Nat.le_of_eq (m.sameRegistry_enableTTS enable).counter
  | destroySession id => exact Nat.le_of_eq (TTSManager.destroySession_counter h.policy id)
  | setConfiguration configuration =>
    exact Nat.le_of_eq (TTSManager.sameGrant_setConfiguration m configuration).1.counter
  | reservePlayerResource a | releasePlayerResource a | claimPlayerResource a =>
    simp only [ManagerOp.effect, h.policy, if_false]
    exact Nat.le_refl _
  | isTTSEnabled | listVoices | getConfiguration | isSessionActiveForApp | getResourceAllocationPolicy =>
    exact Nat.le_refl _

theorem exec_openSound {policy : ResourceAllocationPolicy} {s m : Monitor TTSManager} {calls : List EngineCall}
    (h : OpenSound s.state) (hcount : s.state.counter + calls.countP EngineCall.isCreateSession < 2 ^ 32)
    (hm : (engine policy).exec s calls = some m) : OpenSound m.state := by
  induction calls generalizing s with
  | nil =>
    obtain rfl := Option.some.inj hm
    exact h
  | cons call calls ih =>
    rw [Machine.exec, Option.bind_eq_some_iff] at hm
    obtain ⟨t, hstep, hm⟩ := hm
    rw [List.countP_cons] at hcount
    rcases engine_step hstep with rfl | ⟨op, rfl, e⟩ | ⟨p, o, c, rfl, ho, e⟩
    · exact ih h (by omega) hm
    · have hcount' : (EngineCall.manager op).isCreateSession = true → s.state.counter + 1 < 2 ^ 32 := by
        intro hc
        rw [if_pos hc] at hcount
        omega
      have hle := effect_counter h op hcount'
      refine ih (e ▸ TTSManager.effect_openSound h op hcount') ?_ hm
      rw [e]
      omega
    · have hf := TTSManager.sameGrant_callSession s.state p o c
      refine ih (e ▸ TTSManager.callSession_openSound h ho c) ?_ hm
      rw [e, hf.counter]
      omega

theorem new_openSound {policy : ResourceAllocationPolicy} (hpol : policy ≠ .reservation)
    (configuration : TTSConfiguration) (others : Others) (maxFailures : Nat) :
    OpenSound (.new configuration others policy maxFailures) ∧
      (TTSManager.new configuration others policy maxFailures).counter = 0 := by
  have hnone : ∀ id p : Nat, (∅ : Std.TreeMap Nat Nat)[id]? ≠ some p := by simp
  have hempty : (∅ : Std.TreeMap Nat Nat).isEmpty = true := rfl
  unfold TTSManager.new TTSManager.setResourceAllocationPolicy
  split
  · refine ⟨⟨⟨?_, ⟨fun id p hp => absurd hp (hnone id p), fun a p hp => absurd hp (hnone a p)⟩,
      fun id p hp => absurd hp (hnone id p), fun p => ?_, fun d hd => nomatch hd⟩, ?_⟩, rfl⟩
    · simp only
      split
      · exact fun h => nomatch h
      · exact hpol
    · exact iff_of_false Bool.false_ne_true fun h => Bool.false_ne_true h.2
    · exact iff_of_false Bool.false_ne_true fun h => Bool.false_ne_true h.1
  · refine ⟨⟨⟨(fun h => nomatch h), ⟨fun id p hp => absurd hp (hnone id p), fun a p hp => absurd hp (hnone a p)⟩,
      fun id p hp => absurd hp (hnone id p), fun p => ?_, fun d hd => nomatch hd⟩, ?_⟩, rfl⟩
    · exact iff_of_false Bool.false_ne_true fun h => Bool.false_ne_true h.2
    · exact iff_of_false Bool.false_ne_true fun h => Bool.false_ne_true h.1

/-- **The open policy.** Every state that calls lead to, as long as they create
fewer sessions than there are session ids, satisfies the invariant. -/
theorem open_policy_invariant {policy : ResourceAllocationPolicy} (hpol : policy ≠ .reservation)
    {s m : Monitor TTSManager} {calls : List EngineCall} (hs : (engine policy).init s)
    (hcount : calls.countP EngineCall.isCreateSession < 2 ^ 32) (hm : (engine policy).exec s calls = some m) :
    OpenInvariant m.state := by
  obtain ⟨configuration, others, maxFailures, rfl⟩ := hs
  obtain ⟨hnew, hzero⟩ := new_openSound hpol configuration others maxFailures
  apply OpenSound.openInvariant
  apply exec_openSound hnew ?_ hm
  show (TTSManager.new configuration others policy maxFailures).counter + _ < 2 ^ 32
  omega

/-- Of two sessions one has spoken and is destroyed, then TTS is disabled. -/
theorem open_policy_invariant_disabled :
    ∃ m, (engine .open).exec ⟨false, .new (.setEndPoint .new "http://tts".toList) ∅ .open 1⟩
        [.manager (.createSession 7 "guide" []), .manager (.enableTTS true), .manager (.createSession 8 "player" []),
          .session 1 (.speak 1 "hi".toList false), .manager (.destroySession 1),
          .manager (.enableTTS false)] = some m ∧
      OpenInvariant m.state := by
  refine ⟨_, rfl, ?_⟩
  have hpol : ResourceAllocationPolicy.open ≠ .reservation := by decide
  have hcount : [EngineCall.manager (.createSession 7 "guide" []), .manager (.enableTTS true),
      .manager (.createSession 8 "player" []), .session 1 (.speak 1 "hi".toList false),
      .manager (.destroySession 1), .manager (.enableTTS false)].countP EngineCall.isCreateSession < 2 ^ 32 := by
    decide
  exact open_policy_invariant hpol ⟨.setEndPoint .new "http://tts".toList, ∅, 1, rfl⟩ hcount rfl

end TTS
