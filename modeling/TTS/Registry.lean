import TTS.ManagerLock

/-!
# The session registry

The two maps of the manager list the same sessions, by app and by session id.
`SameRegistry` says what an operation does not touch when it only makes
sessions active or inactive. `enableTTS`, `createSession` and `destroySession`
are cut here into the change of the maps or the flag and such operations.
-/

namespace TTS

open Monitor

namespace TTSManager

def ids (m : TTSManager) (p : Nat) : Option (Nat × Nat) := (m.objects[p]?).map fun s => (s.appId, s.sessionId)

def Live (m : TTSManager) (p : Nat) : Prop := ∃ id : Nat, m.sessionMap[id]? = some p

theorem appId_eq_ids (m : TTSManager) (p : Nat) : m.appId p = ((m.ids p).map Prod.fst).getD 0 := by
  rw [appId, ids, Option.map_map]
  rfl

theorem appId_of_ids {m : TTSManager} {p a id : Nat} (h : m.ids p = some (a, id)) : m.appId p = a := by
  obtain ⟨s, hs, he⟩ := Option.map_eq_some_iff.mp h
  rw [appId, hs]
  exact congrArg Prod.fst he

end TTSManager

/-- Both maps list the same sessions, each under its own app and id. -/
structure Registry (m : TTSManager) : Prop where
  session : ∀ id p, m.sessionMap[id]? = some p → ∃ a, m.ids p = some (a, id) ∧ m.appMap[a]? = some p
  app : ∀ a p, m.appMap[a]? = some p → ∃ id, m.ids p = some (a, id) ∧ m.sessionMap[id]? = some p

structure SameRegistry (m m' : TTSManager) : Prop where
  appMap : m'.appMap = m.appMap
  sessionMap : m'.sessionMap = m.sessionMap
  defaultConfiguration : m'.defaultConfiguration = m.defaultConfiguration
  policy : m'.policy = m.policy
  reservedApp : m'.reservedApp = m.reservedApp
  claimedApp : m'.claimedApp = m.claimedApp
  ttsEnabled : m'.ttsEnabled = m.ttsEnabled
  counter : m'.counter = m.counter
  ids : ∀ p, m'.ids p = m.ids p

theorem SameRegistry.refl (m : TTSManager) : SameRegistry m m :=
  ⟨rfl, rfl, rfl, rfl, rfl, rfl, rfl, rfl, fun _ => rfl⟩

theorem SameRegistry.trans {m m' m'' : TTSManager} (h : SameRegistry m m') (h' : SameRegistry m' m'') :
    SameRegistry m m'' :=
  ⟨h'.appMap.trans h.appMap, h'.sessionMap.trans h.sessionMap,
    h'.defaultConfiguration.trans h.defaultConfiguration, h'.policy.trans h.policy,
    h'.reservedApp.trans h.reservedApp, h'.claimedApp.trans h.claimedApp, h'.ttsEnabled.trans h.ttsEnabled,
    h'.counter.trans h.counter, fun p => (h'.ids p).trans (h.ids p)⟩

section
variable {m m' : TTSManager} (h : SameRegistry m m')

include h in
theorem SameRegistry.registry (hr : Registry m) : Registry m' := by
  refine ⟨fun id p hp => ?_, fun a p hp => ?_⟩
  · rw [h.sessionMap] at hp
    obtain ⟨a, ha, hm⟩ := hr.session id p hp
    exact ⟨a, (h.ids p).trans ha, by rw [h.appMap]; exact hm⟩
  · rw [h.appMap] at hp
    obtain ⟨id, hid, hm⟩ := hr.app a p hp
    exact ⟨id, (h.ids p).trans hid, by rw [h.sessionMap]; exact hm⟩

include h in
theorem SameRegistry.owner : m'.owner = m.owner := by
  unfold TTSManager.owner
  rw [h.claimedApp, h.reservedApp]

include h in
theorem SameRegistry.appId (p : Nat) : m'.appId p = m.appId p := by
  rw [TTSManager.appId_eq_ids, TTSManager.appId_eq_ids, h.ids]

end

namespace TTSSession

@[simp] theorem setActive_ids (s : TTSSession) (n : Bool) :
    ((s.setActive n).appId, (s.setActive n).sessionId) = (s.appId, s.sessionId) := by
  unfold setActive
  cases s.speaker <;> cases n <;> rfl

@[simp] theorem cancelled_ids (s : TTSSession) (ids : List Nat) :
    ((s.cancelled ids).appId, (s.cancelled ids).sessionId) = (s.appId, s.sessionId) := by
  unfold cancelled
  split
  · rfl
  · split <;> rfl

@[simp] theorem setInactive_ids (s : TTSSession) (self : Nat) (sp : TTSSpeaker) (n : Bool) :
    ((s.setInactive self sp n).1.appId, (s.setInactive self sp n).1.sessionId) = (s.appId, s.sessionId) := by
  unfold setInactive abortAndClearPending
  cases hs : s.speaker with
  | false => rfl
  | true =>
    cases n <;> exact cancelled_ids s _

theorem setActive_speaker (s : TTSSession) (n : Bool) : (s.setActive n).speaker = true := by
  unfold setActive
  cases hs : s.speaker <;> cases n <;> simp [hs, sendEvent]

theorem setInactive_speaker (s : TTSSession) (self : Nat) (sp : TTSSpeaker) (n : Bool) :
    (s.setInactive self sp n).1.speaker = false := by
  unfold setInactive
  cases hs : s.speaker with
  | false => exact hs
  | true => cases n <;> rfl

end TTSSession

namespace TTSManager

theorem ids_modify (m : TTSManager) (p : Nat) (f : TTSSession → TTSSession)
    (hf : ∀ s, ((f s).appId, (f s).sessionId) = (s.appId, s.sessionId)) (q : Nat) :
    ((m.objects.modify p f)[q]?).map (fun s => (s.appId, s.sessionId)) = m.ids q := by
  rw [List.getElem?_modify, ids]
  cases m.objects[q]? with
  | none => rfl
  | some s => by_cases h : p = q <;> simp [h, hf]

theorem holds_modify (m : TTSManager) (p : Nat) (f : TTSSession → TTSSession) (b : Bool)
    (hf : ∀ s, (f s).speaker = b) (q : Nat) :
    (((m.objects.modify p f)[q]?).map TTSSession.speaker).getD false =
      if p = q then b && (m.ids q).isSome else m.holds q := by
  rw [List.getElem?_modify, ids, holds]
  cases m.objects[q]? with
  | none => by_cases h : p = q <;> simp [h]
  | some s => by_cases h : p = q <;> simp [h, hf]

theorem sameRegistry_setActive (m : TTSManager) (p : Nat) (n : Bool) : SameRegistry m (m.setActive p n) :=
  ⟨rfl, rfl, rfl, rfl, rfl, rfl, rfl, rfl, ids_modify m p _ fun s => s.setActive_ids n⟩

theorem sameRegistry_setInactive (m : TTSManager) (p : Nat) (n : Bool) : SameRegistry m (m.setInactive p n) :=
  ⟨rfl, rfl, rfl, rfl, rfl, rfl, rfl, rfl, ids_modify m p _ fun s => s.setInactive_ids p m.speaker n⟩

theorem sameRegistry_ensurePipeline (m : TTSManager) (b : Bool) : SameRegistry m (m.ensurePipeline b) :=
  ⟨rfl, rfl, rfl, rfl, rfl, rfl, rfl, rfl, fun _ => rfl⟩

theorem sameRegistry_installCallbacks (m : TTSManager) (p : Nat) (keys : List String) :
    SameRegistry m (m.installCallbacks p keys) :=
  ⟨rfl, rfl, rfl, rfl, rfl, rfl, rfl, rfl, ids_modify m p _ fun _ => rfl⟩

theorem holds_setActive (m : TTSManager) (p : Nat) (n : Bool) (q : Nat) :
    (m.setActive p n).holds q = if p = q then (m.ids q).isSome else m.holds q :=
  holds_modify m p _ true (fun s => s.setActive_speaker n) q

theorem holds_setInactive (m : TTSManager) (p : Nat) (n : Bool) (q : Nat) :
    (m.setInactive p n).holds q = if p = q then false else m.holds q :=
  holds_modify m p _ false (fun s => s.setInactive_speaker p m.speaker n) q

end TTSManager

/-! ## What activity keeps -/

/-- A relation kept by what makes sessions active; `notify` is the flag they are called with. -/
structure KeptActive (notify : Bool) (R : TTSManager → TTSManager → Prop) : Prop where
  refl (m : TTSManager) : R m m
  trans {m m' m'' : TTSManager} : R m m' → R m' m'' → R m m''
  ensurePipeline (m : TTSManager) (b : Bool) : R m (m.ensurePipeline b)
  activeSession (m : TTSManager) (session : Option Nat) : R m { m with activeSession := session }
  setActive (m : TTSManager) (p : Nat) : R m (m.setActive p notify)

structure Kept (notify : Bool) (R : TTSManager → TTSManager → Prop) : Prop extends KeptActive notify R where
  setInactive (m : TTSManager) (p : Nat) : R m (m.setInactive p notify)

section
variable {R : TTSManager → TTSManager → Prop}

theorem KeptActive.makeSessionActive (h : KeptActive true R) (m : TTSManager) (p : Nat) : R m (m.makeSessionActive p) := by
  unfold TTSManager.makeSessionActive
  split
  · have hset := h.trans (h.ensurePipeline m true) (h.setActive (m.ensurePipeline true) p)
    exact h.trans hset (h.activeSession _ (some p))
  · exact h.refl m

theorem KeptActive.makeReserved (h : KeptActive true R) (m : TTSManager) : R m m.makeReservedOrClaimedSessionActive := by
  unfold TTSManager.makeReservedOrClaimedSessionActive
  split
  · split
    · split
      · exact h.refl m
      · exact h.makeSessionActive m _
    · exact h.refl m
  · exact h.refl m

theorem Kept.makeSessionInActive (h : Kept true R) (m : TTSManager) (p : Option Nat) : R m (m.makeSessionInActive p) := by
  unfold TTSManager.makeSessionInActive
  split
  · exact h.refl m
  · split
    · have hset := h.trans (h.setInactive m ‹Nat›) (h.ensurePipeline _ false)
      exact h.trans hset (h.activeSession _ none)
    · exact h.refl m

theorem KeptActive.foldl {notify : Bool} (h : KeptActive notify R) {f : TTSManager → Nat × Nat → TTSManager}
    (hf : ∀ m it, R m (f m it)) (its : List (Nat × Nat)) (m : TTSManager) : R m (its.foldl f m) := by
  induction its generalizing m with
  | nil => exact h.refl m
  | cons it its ih => exact h.trans (hf m it) (ih (f m it))

end

namespace TTSManager

theorem sameRegistry_kept (notify : Bool) : Kept notify SameRegistry where
  refl := .refl
  trans := .trans
  ensurePipeline := sameRegistry_ensurePipeline
  activeSession _ _ := ⟨rfl, rfl, rfl, rfl, rfl, rfl, rfl, rfl, fun _ => rfl⟩
  setActive m p := m.sameRegistry_setActive p notify
  setInactive m p := m.sameRegistry_setInactive p notify

theorem sameRegistry_makeSessionInActive (m : TTSManager) (p : Option Nat) : SameRegistry m (m.makeSessionInActive p) :=
  (sameRegistry_kept true).makeSessionInActive m p

theorem sameRegistry_makeReservedOrClaimedSessionActive (m : TTSManager) :
    SameRegistry m m.makeReservedOrClaimedSessionActive :=
  (sameRegistry_kept true).makeReserved m

theorem sameRegistry_closeConnection (m : TTSManager) (id : Nat) : SameRegistry m (m.closeConnection id) := by
  unfold closeConnection
  split
  · exact .refl m
  · exact ⟨rfl, rfl, rfl, rfl, rfl, rfl, rfl, rfl, fun _ => rfl⟩

theorem holds_installCallbacks (m : TTSManager) (p : Nat) (keys : List String) (q : Nat) :
    (m.installCallbacks p keys).holds q = m.holds q := by
  unfold holds installCallbacks
  rw [List.getElem?_modify]
  cases m.objects[q]? with
  | none => rfl
  | some s => by_cases h : p = q <;> simp [h]

theorem holds_closeConnection (m : TTSManager) (id q : Nat) : (m.closeConnection id).holds q = m.holds q := by
  unfold closeConnection
  split <;> rfl

theorem activeSession_closeConnection (m : TTSManager) (id : Nat) :
    (m.closeConnection id).activeSession = m.activeSession := by
  unfold closeConnection
  split <;> rfl

/-! ## Entering and erasing -/

theorem lt_of_ids {m : TTSManager} {p : Nat} {x : Nat × Nat} (h : m.ids p = some x) : p < m.objects.length := by
  obtain ⟨s, hs, -⟩ := Option.map_eq_some_iff.mp h
  exact (List.getElem?_eq_some_iff.mp hs).1

theorem isSome_ids_of_holds {m : TTSManager} {p : Nat} (h : m.holds p = true) : (m.ids p).isSome = true := by
  unfold holds at h
  unfold ids
  cases hs : m.objects[p]? with
  | none =>
    rw [hs] at h
    cases h
  | some s => rfl

theorem lt_of_holds {m : TTSManager} {p : Nat} (h : m.holds p = true) : p < m.objects.length := by
  obtain ⟨x, hx⟩ := Option.isSome_iff_exists.mp (isSome_ids_of_holds h)
  exact lt_of_ids hx

theorem getElem?_enterSession (m : TTSManager) (a : Nat) (n : String) (q : Nat) :
    (m.enterSession a n).objects[q]? =
      if q = m.objects.length then some (.new a n m.nextSessionId m.defaultConfiguration) else m.objects[q]? := by
  unfold enterSession
  by_cases hq : q = m.objects.length
  · rw [if_pos hq, hq, List.getElem?_concat_length]
  · rw [if_neg hq]
    by_cases hlt : q < m.objects.length
    · exact List.getElem?_append_left hlt
    · have hle : m.objects.length + 1 ≤ q := by omega
      rw [List.getElem?_eq_none (Nat.le_of_succ_le hle)]
      exact List.getElem?_eq_none (by rw [List.length_append]; exact hle)

theorem ids_enterSession (m : TTSManager) (a : Nat) (n : String) (q : Nat) :
    (m.enterSession a n).ids q = if q = m.objects.length then some (a, m.nextSessionId) else m.ids q := by
  unfold ids
  rw [getElem?_enterSession]
  split <;> rfl

theorem holds_enterSession (m : TTSManager) (a : Nat) (n : String) (q : Nat) :
    (m.enterSession a n).holds q = if q = m.objects.length then false else m.holds q := by
  unfold holds
  rw [getElem?_enterSession]
  split <;> rfl

theorem live_appId {m : TTSManager} (hr : Registry m) {p : Nat} (h : m.Live p) : m.appMap[m.appId p]? = some p := by
  obtain ⟨id, hid⟩ := h
  obtain ⟨a, ha, hm⟩ := hr.session id p hid
  rw [appId_of_ids ha]
  exact hm

theorem not_duplicate_iff (m : TTSManager) (a : Nat) :
    ¬ (m.sessionMap.toList.any fun it => m.appId it.2 = a) = true ↔ ∀ p, m.Live p → m.appId p ≠ a := by
  rw [List.any_eq_true]
  constructor
  · rintro h p ⟨id, hid⟩ ha
    exact h ⟨(id, p), Std.TreeMap.mem_toList_iff_getElem?_eq_some.mpr hid, decide_eq_true ha⟩
  · rintro h ⟨⟨id, p⟩, hmem, ha⟩
    exact h p ⟨id, Std.TreeMap.mem_toList_iff_getElem?_eq_some.mp hmem⟩ (of_decide_eq_true ha)

theorem enterSession_registry {m : TTSManager} (hr : Registry m) {a : Nat} (n : String)
    (hno : ∀ p, m.Live p → m.appId p ≠ a) (hfresh : m.nextSessionId ∉ m.sessionMap) :
    Registry (m.enterSession a n) := by
  have hold : ∀ {p x}, m.ids p = some x → (m.enterSession a n).ids p = some x := by
    intro p x hx
    rw [ids_enterSession, if_neg (Nat.ne_of_lt (lt_of_ids hx))]
    exact hx
  have hnew : (m.enterSession a n).ids m.objects.length = some (a, m.nextSessionId) := by
    rw [ids_enterSession, if_pos rfl]
  refine ⟨fun id p hp => ?_, fun a' p hp => ?_⟩
  · have hp : (m.sessionMap.insert m.nextSessionId m.objects.length)[id]? = some p := hp
    show ∃ a', _ ∧ (m.appMap.insert a m.objects.length)[a']? = some p
    rw [getElem?_insert] at hp
    by_cases hid : m.nextSessionId = id
    · rw [if_pos hid] at hp
      obtain rfl := Option.some.inj hp
      exact ⟨a, hid ▸ hnew, by rw [getElem?_insert, if_pos rfl]⟩
    · rw [if_neg hid] at hp
      obtain ⟨a', ha', hm⟩ := hr.session id p hp
      have hne : a ≠ a' := fun e => hno p ⟨id, hp⟩ ((appId_of_ids ha').trans e.symm)
      exact ⟨a', hold ha', by rw [getElem?_insert, if_neg hne]; exact hm⟩
  · have hp : (m.appMap.insert a m.objects.length)[a']? = some p := hp
    show ∃ id, _ ∧ (m.sessionMap.insert m.nextSessionId m.objects.length)[id]? = some p
    rw [getElem?_insert] at hp
    by_cases ha : a = a'
    · rw [if_pos ha] at hp
      obtain rfl := Option.some.inj hp
      exact ⟨m.nextSessionId, ha ▸ hnew, by rw [getElem?_insert, if_pos rfl]⟩
    · rw [if_neg ha] at hp
      obtain ⟨id, hid, hm⟩ := hr.app a' p hp
      have hne : m.nextSessionId ≠ id := by
        intro e
        exact hfresh ((mem_iff_getElem? _ _).mpr ⟨p, e ▸ hm⟩)
      exact ⟨id, hold hid, by rw [getElem?_insert, if_neg hne]; exact hm⟩

theorem erase_registry {m : TTSManager} (hr : Registry m) {a id p : Nat} (hids : m.ids p = some (a, id))
    (hs : m.sessionMap[id]? = some p) (hm : m.appMap[a]? = some p) :
    Registry { m with sessionMap := m.sessionMap.erase id, appMap := m.appMap.erase a } := by
  refine ⟨fun id' p' hp => ?_, fun a' p' hp => ?_⟩
  · have hp : (m.sessionMap.erase id)[id']? = some p' := hp
    show ∃ a', m.ids p' = _ ∧ (m.appMap.erase a)[a']? = some p'
    rw [getElem?_erase] at hp
    by_cases hid : id = id'
    · rw [if_pos hid] at hp
      cases hp
    rw [if_neg hid] at hp
    obtain ⟨a', ha', hm'⟩ := hr.session id' p' hp
    have hne : a ≠ a' := by
      rintro rfl
      obtain rfl := Option.some.inj (hm.symm.trans hm')
      have e := Option.some.inj (hids.symm.trans ha')
      exact hid (congrArg Prod.snd e)
    exact ⟨a', ha', by rw [getElem?_erase, if_neg hne]; exact hm'⟩
  · have hp : (m.appMap.erase a)[a']? = some p' := hp
    show ∃ id', m.ids p' = _ ∧ (m.sessionMap.erase id)[id']? = some p'
    rw [getElem?_erase] at hp
    by_cases ha : a = a'
    · rw [if_pos ha] at hp
      cases hp
    rw [if_neg ha] at hp
    obtain ⟨id', hid', hs'⟩ := hr.app a' p' hp
    have hne : id ≠ id' := by
      rintro rfl
      obtain rfl := Option.some.inj (hs.symm.trans hs')
      have e := Option.some.inj (hids.symm.trans hid')
      exact ha (congrArg Prod.fst e)
    exact ⟨id', hid', by rw [getElem?_erase, if_neg hne]; exact hs'⟩

/-! ## The operations, up to activity -/

/-- `enableTTS` before anybody becomes active or inactive. -/
def setEnabled (m : TTSManager) (enable : Bool) : TTSManager :=
  ({ m with ttsEnabled := enable } : TTSManager).sendEvent
    ((Event.new "tts_state_changed").set "enabled" (.bool enable))

def activateAll (m : TTSManager) : TTSManager := m.sessionMap.toList.foldl (fun m it => m.setActive it.2 false) m

def deactivateAll (m : TTSManager) : TTSManager := m.sessionMap.toList.foldl (fun m it => m.setInactive it.2 false) m

theorem enableTTS_same {m : TTSManager} {enable : Bool} (h : m.ttsEnabled = enable) : m.enableTTS enable = m :=
  if_neg (not_not.mpr h)

theorem enableTTS_changed {m : TTSManager} {enable : Bool} (h : m.ttsEnabled ≠ enable) :
    m.enableTTS enable =
      if enable then
        if m.policy = .reservation then (m.setEnabled enable).makeReservedOrClaimedSessionActive
        else (if !m.sessionMap.isEmpty then (m.setEnabled enable).ensurePipeline true
          else m.setEnabled enable).activateAll
      else if m.policy = .reservation then (m.setEnabled enable).makeSessionInActive m.activeSession
      else ((m.setEnabled enable).ensurePipeline false).deactivateAll := if_pos h

theorem enableTTS_reservation {m : TTSManager} {enable : Bool} (hpol : m.policy = .reservation)
    (h : m.ttsEnabled ≠ enable) :
    m.enableTTS enable =
      if enable then (m.setEnabled enable).makeReservedOrClaimedSessionActive
      else (m.setEnabled enable).makeSessionInActive m.activeSession := by
  rw [enableTTS_changed h, if_pos hpol, if_pos hpol]

theorem enableTTS_open {m : TTSManager} {enable : Bool} (hpol : m.policy ≠ .reservation) (h : m.ttsEnabled ≠ enable) :
    m.enableTTS enable =
      if enable then
        (if !m.sessionMap.isEmpty then (m.setEnabled enable).ensurePipeline true else m.setEnabled enable).activateAll
      else ((m.setEnabled enable).ensurePipeline false).deactivateAll := by
  rw [enableTTS_changed h, if_neg hpol, if_neg hpol]

/-- What activity keeps under either policy is kept once the flag is set. -/
theorem enableTTS_kept {R : TTSManager → TTSManager → Prop} {m : TTSManager} {enable : Bool} (h : m.ttsEnabled ≠ enable)
    (hreserved : m.policy = .reservation → Kept true R) (hopen : m.policy ≠ .reservation → Kept false R) :
    R (m.setEnabled enable) (m.enableTTS enable) := by
  by_cases hpol : m.policy = .reservation
  · have hkept := hreserved hpol
    rw [enableTTS_reservation hpol h]
    split
    · exact hkept.makeReserved _
    · exact hkept.makeSessionInActive _ _
  · have hkept := hopen hpol
    rw [enableTTS_open hpol h]
    split
    · refine hkept.trans ?_ (hkept.foldl (fun m it => hkept.setActive m it.2) _ _)
      split
      · exact hkept.ensurePipeline _ true
      · exact hkept.refl _
    · exact hkept.trans (hkept.ensurePipeline _ false) (hkept.foldl (fun m it => hkept.setInactive m it.2) _ _)

theorem sameRegistry_enableTTS (m : TTSManager) (enable : Bool) :
    SameRegistry (m.setEnabled enable) (m.enableTTS enable) := by
  by_cases h : m.ttsEnabled = enable
  · rw [enableTTS_same h]
    exact ⟨rfl, rfl, rfl, rfl, rfl, rfl, h, rfl, fun _ => rfl⟩
  · exact enableTTS_kept h (fun _ => sameRegistry_kept true) fun _ => sameRegistry_kept false

theorem addSession_reservation {m : TTSManager} (hpol : m.policy = .reservation) (a : Nat) (n : String) :
    m.addSession a n = (m.enterSession a n).makeReservedOrClaimedSessionActive := if_pos hpol

theorem addSession_open {m : TTSManager} (hpol : m.policy ≠ .reservation) (a : Nat) (n : String) :
    m.addSession a n =
      if m.ttsEnabled then ((m.enterSession a n).ensurePipeline true).setActive m.objects.length false
      else m.enterSession a n := if_neg hpol

theorem addSession_kept {R : TTSManager → TTSManager → Prop} (m : TTSManager) (a : Nat) (n : String)
    (hreserved : m.policy = .reservation → KeptActive true R) (hopen : m.policy ≠ .reservation → KeptActive false R) :
    R (m.enterSession a n) (m.addSession a n) := by
  by_cases hpol : m.policy = .reservation
  · rw [addSession_reservation hpol]
    exact (hreserved hpol).makeReserved _
  · have hkept := hopen hpol
    rw [addSession_open hpol]
    split
    · exact hkept.trans (hkept.ensurePipeline _ true) (hkept.setActive _ _)
    · exact hkept.refl _

theorem sameRegistry_addSession (m : TTSManager) (a : Nat) (n : String) :
    SameRegistry (m.enterSession a n) (m.addSession a n) :=
  m.addSession_kept a n (fun _ => (sameRegistry_kept true).toKeptActive) fun _ => (sameRegistry_kept false).toKeptActive

theorem createSession_cases (m : TTSManager) (a : Nat) (n : String) :
    m.createSession a n = (⟨.createSessionDuplicate, none, none, none⟩, m) ∨
      (∀ p, m.Live p → m.appId p ≠ a) ∧ m.createSession a n =
        (⟨.ok, some m.objects.length, some m.nextSessionId, some m.ttsEnabled⟩, m.addSession a n) := by
  unfold createSession
  split
  · exact .inl rfl
  · rename_i hd
    exact .inr ⟨(m.not_duplicate_iff a).mp hd, rfl⟩

def leaveMaps (m : TTSManager) (id p : Nat) : TTSManager :=
  { m with sessionMap := m.sessionMap.erase id, appMap := m.appMap.erase (m.appId p) }

def closeSession (m : TTSManager) (id : Nat) : TTSManager :=
  if (m.closeConnection id).sessionMap.isEmpty then (m.closeConnection id).ensurePipeline false
  else m.closeConnection id

theorem destroySession_of_unknown {m : TTSManager} {id : Nat} (h : m.sessionMap[id]? = none) :
    (m.destroySession id).2 = m := by
  unfold destroySession
  rw [h]

theorem destroySession_of_known {m : TTSManager} {id p : Nat} (h : m.sessionMap[id]? = some p) :
    (m.destroySession id).2 =
      ((if m.policy = .reservation then (m.releasePlayerResource (m.appId p)).2
        else m.setInactive p false).leaveMaps id p).closeSession id := by
  unfold destroySession
  rw [h]
  rfl

theorem sameRegistry_closeSession (m : TTSManager) (id : Nat) : SameRegistry m (m.closeSession id) := by
  unfold closeSession
  split
  · exact (m.sameRegistry_closeConnection id).trans (sameRegistry_ensurePipeline _ false)
  · exact m.sameRegistry_closeConnection id

theorem holds_closeSession (m : TTSManager) (id q : Nat) : (m.closeSession id).holds q = m.holds q := by
  unfold closeSession
  split <;> exact m.holds_closeConnection id q

theorem activeSession_closeSession (m : TTSManager) (id : Nat) : (m.closeSession id).activeSession = m.activeSession := by
  unfold closeSession
  split <;> exact m.activeSession_closeConnection id

end TTSManager

end TTS
