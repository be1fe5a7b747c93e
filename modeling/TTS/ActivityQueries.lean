import TTS.OpenPolicy
import TTS.ResourceRequests

/-!
# Whether an app's session is active

`isSessionActiveForApp` answers from the active session under the reservation
policy and from the app map under the others; a session's own `isActive` says
whether it has the speaker. The two part where a session that is still active
leaves the app map, and where a session of the app map has no speaker because
TTS is disabled.
-/

namespace TTS

open Monitor Transition

/-- The app has an entry in the app map whose session has the speaker. -/
def TTSManager.HasActive (m : TTSManager) (appId : Nat) : Prop := ∃ p, m.appMap[appId]? = some p ∧ m.holds p = true

def ActivityAgrees (m : TTSManager) : Prop := ∀ appId, m.isSessionActiveForApp appId = true ↔ m.HasActive appId

/-! ## Under the reservation policy -/

/-- No session of the app map but the active one has the speaker. -/
def TTSManager.Sole (m : TTSManager) : Prop :=
  ∀ a p : Nat, m.appMap[a]? = some p → m.holds p = true → m.activeSession = some p

/-- The active session is the owner's entry in the app map. -/
structure Seated (m : TTSManager) : Prop extends Steady m where
  found : ∀ p, m.activeSession = some p → m.expected = some p
  sole : m.Sole

namespace TTSManager

theorem seated_agrees {m : TTSManager} (h : Seated m) : ActivityAgrees m := by
  intro a
  rw [isSessionActiveForApp, if_pos h.policy, isActiveApp_iff]
  constructor
  · intro hact
    obtain ⟨p, hp, happ⟩ := hact
    obtain ⟨-, -, hown, hholds⟩ := h.active p hp
    obtain ⟨-, -, hmap⟩ := expected_eq_some.mp (h.found p hp)
    exact ⟨p, by rw [← happ, hown]; exact hmap, hholds⟩
  · intro hhas
    obtain ⟨p, hmap, hholds⟩ := hhas
    exact ⟨p, h.sole a p hmap hholds, (h.app a p hmap).1⟩

theorem makeSessionInActive_sole {m : TTSManager} (h : m.Sole) : (m.makeSessionInActive m.activeSession).Sole := by
  intro a q hmap hholds
  rw [(m.sameRegistry_makeSessionInActive _).appMap] at hmap
  cases hp : m.activeSession with
  | none =>
    rw [hp] at hholds
    exact h a q hmap hholds
  | some p =>
    have hoff : (m.makeSessionInActive (some p)).holds q = if p = q then false else m.holds q := by
      simp only [makeSessionInActive, hp, if_true]
      exact m.holds_setInactive p true q
    rw [hp, hoff] at hholds
    by_cases hq : p = q
    · rw [if_pos hq] at hholds
      cases hholds
    · rw [if_neg hq] at hholds
      have hact := h a q hmap hholds
      rw [hp] at hact
      exact absurd (Option.some.inj hact) hq

/-- Where the owner has no session nobody may be active; else the owner's session becomes it. -/
theorem makeReserved_seated {m : TTSManager} (hs : Settled m) (hidle : m.expected = none → m.activeSession = none)
    (hsole : m.Sole) : Seated m.makeReservedOrClaimedSessionActive := by
  have hsteady := makeReserved_steady hs
  have hf := m.sameRegistry_makeReservedOrClaimedSessionActive
  rcases m.makeReserved_cases with ⟨he, hm⟩ | ⟨p, he, hm⟩
  · rw [hm] at hsteady ⊢
    refine ⟨hsteady, fun q hq => ?_, hsole⟩
    rw [hidle he] at hq
    cases hq
  · have hact := m.makeSessionActive_active p
    rw [← hm] at hact
    refine ⟨hsteady, fun q hq => ?_, fun a q hmap hholds => ?_⟩
    · rw [hact] at hq
      rw [hf.expected, he, hq]
    · -- of the sessions in the app map only the owner's could have the speaker before
      rw [hact]
      congr 1
      by_contra hne
      rw [hf.appMap] at hmap
      have hbefore : m.holds q = true := by
        rw [hm] at hholds
        unfold makeSessionActive at hholds
        split at hholds
        · have e : ({ (m.ensurePipeline true).setActive p true with activeSession := some p } : TTSManager).holds q =
              if p = q then (m.ids q).isSome else m.holds q := (m.ensurePipeline true).holds_setActive p true q
          rwa [e, if_neg hne] at hholds
        · exact hholds
      have hown := (hs.active q (hsole a q hmap hbefore)).2.2.1
      rw [(hs.app a q hmap).1] at hown
      rw [hown, (expected_eq_some.mp he).2.2] at hmap
      exact hne (Option.some.inj hmap)

theorem seated_of_idle {m : TTSManager} (h : Steady m) (hidle : m.activeSession = none) (hsole : m.Sole) : Seated m := by
  refine ⟨h, fun p hp => ?_, hsole⟩
  rw [hidle] at hp
  cases hp

end TTSManager

theorem SameGrant.seated {m m' : TTSManager} (h : SameGrant m m') (hl : Seated m) : Seated m' := by
  have howner : m'.owner = m.owner := by
    unfold TTSManager.owner
    rw [h.claimedApp, h.reservedApp]
  refine ⟨h.steady hl.toSteady, ?_, ?_⟩
  · rw [TTSManager.expected_congr m m' h.ttsEnabled howner h.appMap, h.activeSession]
    exact hl.found
  · simpa only [TTSManager.Sole, h.appMap, h.holds, h.activeSession] using hl.sole

namespace TTSManager

theorem enableTTS_seated {m : TTSManager} (h : Seated m) (enable : Bool) : Seated (m.enableTTS enable) := by
  by_cases hne : m.ttsEnabled = enable
  · rw [enableTTS_same hne]
    exact h
  have hl : Listed (m.setEnabled enable) := ⟨h.policy, h.session, h.app, h.claimed⟩
  have hsole : (m.setEnabled enable).Sole := h.sole
  have hsteady := enableTTS_steady h.toSteady enable
  rw [enableTTS_reservation h.policy hne] at hsteady ⊢
  cases enable with
  | true =>
    rw [if_pos rfl]
    have hidle : (m.setEnabled true).activeSession = none := by
      show m.activeSession = none
      cases hp : m.activeSession with
      | none => rfl
      | some p => exact absurd (h.active p hp).1 hne
    exact makeReserved_seated (hl.idle hidle) (fun _ => hidle) hsole
  | false =>
    rw [if_neg Bool.false_ne_true] at hsteady ⊢
    exact seated_of_idle hsteady (makeSessionInActive_active _) (makeSessionInActive_sole hsole)

theorem reservePlayerResource_seated {m : TTSManager} (h : Seated m) (a : Nat) :
    Seated (m.reservePlayerResource a).2 := by
  rcases m.reserve_cases a with ⟨-, e⟩ | ⟨-, hr, e⟩ <;> rw [e]
  · exact h
  have hl : Listed { m with reservedApp := a } := h.set m.ttsEnabled a m.claimedApp h.claimed
  have hsole : ({ m with reservedApp := a } : TTSManager).Sole := h.sole
  by_cases hc : m.claimedApp = 0
  · have hidle : m.activeSession = none := h.free_of_no_owner ((owner_of_reserved hc).trans hr)
    exact makeReserved_seated (hl.idle hidle) (fun _ => hidle) hsole
  · -- the claiming app stays the owner
    have ho : ({ m with reservedApp := a } : TTSManager).owner = m.owner := (if_pos hc).trans (if_pos hc).symm
    have hs : Settled { m with reservedApp := a } := by
      refine ⟨hl, fun p hp => ?_⟩
      rw [ho]
      exact h.active p hp
    refine makeReserved_seated hs (fun he => ?_) hsole
    rw [expected_set_reserved hc] at he
    show m.activeSession = none
    cases hp : m.activeSession with
    | none => rfl
    | some p =>
      rw [h.found p hp] at he
      cases he

theorem releasePlayerResource_seated {m : TTSManager} (h : Seated m) (a : Nat) :
    Seated (m.releasePlayerResource a).2 := by
  have hsteady := releasePlayerResource_steady h.toSteady a
  have hfree : Listed { m with claimedApp := 0 } := h.set m.ttsEnabled m.reservedApp 0 fun h => absurd rfl h
  have hsole : ({ m with claimedApp := 0 } : TTSManager).Sole := h.sole
  rcases m.release_cases a with ⟨-, e⟩ | ⟨-, -, -, -, e⟩ | ⟨h0, hc, ha, e⟩ | ⟨h0, hc, hr, ha, e⟩ |
    ⟨h0, hc, hr, ha, e⟩ <;> rw [e] at hsteady ⊢
  · exact h
  · exact makeReserved_seated (makeSessionInActive_settled hfree) (fun _ => makeSessionInActive_active _)
      (makeSessionInActive_sole hsole)
  · -- whoever is active belongs to the claiming app, which then reserves the player too
    have howner : m.owner = a := (owner_of_claimed (hc ▸ h0)).trans hc
    refine ⟨hsteady, fun p hp => ?_, hsole⟩
    have hr := ha ((m.isActiveApp_iff a).mpr ⟨p, hp, (h.active p hp).2.2.1.trans howner⟩)
    rw [expected_congr m { m with claimedApp := 0 } rfl (hr.trans howner.symm) rfl]
    exact h.found p hp
  · exact seated_of_idle hsteady (makeSessionInActive_active m) (makeSessionInActive_sole h.sole)
  · refine ⟨hsteady, fun p hp => ?_, h.sole⟩
    by_cases hcl : m.claimedApp = 0
    · rw [h.free ((owner_of_reserved hcl).trans hr) ha] at hp
      cases hp
    · rw [expected_set_reserved hcl]
      exact h.found p hp

theorem release_reserving_idle {m : TTSManager} (h : Seated m) {a : Nat} (hc : m.claimedApp = 0) (hr : m.reservedApp ≠ a)
    (hr0 : m.reservedApp ≠ 0) :
    (({ m with claimedApp := a } : TTSManager).releasePlayerResource m.reservedApp).2.activeSession = none ∧
      (({ m with claimedApp := a } : TTSManager).releasePlayerResource m.reservedApp).2.Sole := by
  have hsole : ({ m with claimedApp := a } : TTSManager).Sole := h.sole
  rcases m.release_reserving_cases hr hr0 with ⟨-, e⟩ | ⟨hna, e⟩ <;> rw [e]
  · exact ⟨makeSessionInActive_active { m with claimedApp := a }, makeSessionInActive_sole hsole⟩
  · exact ⟨h.free (owner_of_reserved hc) hna, h.sole⟩

theorem claimPlayerResource_seated {m : TTSManager} (h : Seated m) (a : Nat) : Seated (m.claimPlayerResource a).2 := by
  have hl : a ∈ m.appMap → Listed { m with claimedApp := a } := fun hm =>
    h.set m.ttsEnabled m.reservedApp a fun _ => (mem_iff_getElem? _ _).mp hm
  rcases m.claim_cases a with ⟨-, e⟩ | ⟨-, -, hc, hr, e⟩ | ⟨-, hm, hc, hr0, e⟩ | ⟨-, hm, hc, hr, hr0, e⟩ <;> rw [e]
  · exact h
  · -- the claim of the reserving app is taken back
    have hback : SameGrant m { m with claimedApp := 0 } :=
      ⟨rfl, rfl, rfl, rfl, hc.symm, rfl, rfl, rfl, fun _ => rfl, fun _ => rfl⟩
    exact hback.seated h
  · have hidle := h.free_of_no_owner ((owner_of_reserved hc).trans hr0)
    exact makeReserved_seated ((hl hm).idle hidle) (fun _ => hidle) h.sole
  · obtain ⟨hidle, hsole⟩ := release_reserving_idle h hc hr hr0
    obtain ⟨hs, -⟩ := release_reserving h.toSteady (hl hm) hc hr hr0
    exact makeReserved_seated hs (fun _ => hidle) hsole

theorem createSession_seated {m : TTSManager} (h : Seated m) (a : Nat) (n : String) : Seated (m.createSession a n).2 := by
  rcases m.createSession_cases a n with e | ⟨hno, e⟩
  · rw [e]
    exact h
  have hmap : ∀ b : Nat, (m.enterSession a n).appMap[b]? = if a = b then some m.objects.length else m.appMap[b]? :=
    fun b => getElem?_insert _ _ _ _
  rw [e, addSession_reservation h.policy]
  refine makeReserved_seated (enterSession_settled h.toSteady n hno) (fun he => ?_) fun b p hp hholds => ?_
  · -- the entry of an active session's app may be replaced, but it does not go
    show m.activeSession = none
    cases hp : m.activeSession with
    | none => rfl
    | some p =>
      obtain ⟨hen, ho, hbefore⟩ := expected_eq_some.mp (h.found p hp)
      have hexp : (m.enterSession a n).expected = (m.enterSession a n).appMap[m.owner]? := if_pos ⟨hen, ho⟩
      rw [hexp, hmap] at he
      split at he
      · cases he
      · rw [hbefore] at he
        cases he
  · rw [hmap] at hp
    rw [holds_enterSession] at hholds
    split at hp
    · obtain rfl := Option.some.inj hp
      rw [if_pos rfl] at hholds
      cases hholds
    · split at hholds
      · cases hholds
      · exact h.sole b p hp hholds

/-- A session may go unless it is active and its app both claims and reserves the player. -/
def HolderStays (m : TTSManager) (id : Nat) : Prop :=
  ∀ p, m.sessionMap[id]? = some p →
    ¬(m.activeSession = some p ∧ m.claimedApp = m.appId p ∧ m.reservedApp = m.appId p)

/-- After its release the app of a session that may go is not the owner of an active session. -/
theorem release_leaves {m : TTSManager} (h : Seated m) {a p q : Nat} (hm : m.appMap[a]? = some p)
    (hk : ¬(m.activeSession = some p ∧ m.claimedApp = a ∧ m.reservedApp = a))
    (hq : (m.releasePlayerResource a).2.activeSession = some q) : (m.releasePlayerResource a).2.owner ≠ a := by
  intro howner
  have hrel := releasePlayerResource_seated h a
  obtain ⟨hen, ho, -, -⟩ := hrel.active q hq
  have h0 : a ≠ 0 := howner ▸ ho
  obtain ⟨-, -, hen', -⟩ := m.release_registry a
  rw [hen'] at hen
  rcases m.release_cases a with ⟨hx, e⟩ | ⟨-, -, -, hr, e⟩ | ⟨-, hc, ha, e⟩ | ⟨-, -, -, -, e⟩ | ⟨-, hc, -, -, e⟩
  · rw [e] at howner
    obtain ⟨hc, hr⟩ := hx.resolve_left h0
    unfold owner at howner
    split at howner
    · exact hc howner
    · exact hr howner
  · rw [e] at howner
    have hf := (sameRegistry_makeSessionInActive { m with claimedApp := 0 } m.activeSession).trans
      (sameRegistry_makeReservedOrClaimedSessionActive _)
    rw [hf.owner] at howner
    exact hr howner
  · -- a claiming app of a live session is active, so this is the case left out
    have hown : m.owner = a := (owner_of_claimed (hc ▸ h0)).trans hc
    have hact : m.activeSession = some p :=
      h.expected p (expected_eq_some.mpr ⟨hen, hown ▸ h0, by rw [hown]; exact hm⟩)
    rw [e] at howner
    exact hk ⟨hact, hc, howner⟩
  · rw [e] at hq
    have hnone : (m.makeSessionInActive m.activeSession).activeSession = none := makeSessionInActive_active m
    have hq : (m.makeSessionInActive m.activeSession).activeSession = some q := hq
    rw [hnone] at hq
    cases hq
  · rw [e] at howner
    unfold owner at howner
    split at howner
    · exact hc howner
    · exact h0 howner.symm

theorem destroySession_seated {m : TTSManager} (h : Seated m) (id : Nat) (hk : m.HolderStays id) :
    Seated (m.destroySession id).2 := by
  have hsteady := destroySession_steady h.toSteady id
  cases hp : m.sessionMap[id]? with
  | none =>
    rw [destroySession_of_unknown hp]
    exact h
  | some p =>
    obtain ⟨a, hids, hm⟩ := h.session id p hp
    have happ := appId_of_ids hids
    have hk := hk p hp
    rw [happ] at hk
    have hrel := releasePlayerResource_seated h a
    obtain ⟨-, ham, -, hid⟩ := m.release_registry a
    have hids' := (hid p).trans hids
    have hsame := destroySession_same h.policy hp
    rw [happ, leaveMaps, appId_of_ids hids'] at hsame
    refine hsame.seated ⟨erase_steady hrel.toSteady hids' (ham ▸ hm) fun h0 e => claimedApp_release m (e ▸ h0) e,
      fun q hq => ?_, fun b q hq => hrel.sole b q (getElem?_erase_some hq).2⟩
    obtain ⟨hen, ho, hmap⟩ := expected_eq_some.mp (hrel.found q hq)
    have hne := release_leaves h hm hk hq
    exact expected_eq_some.mpr ⟨hen, ho, (getElem?_erase _ _ _).trans ((if_neg hne.symm).trans hmap)⟩

theorem destroySession_lost {m : TTSManager} (h : Seated m) {id : Nat} (hk : ¬m.HolderStays id) :
    ¬ActivityAgrees (m.destroySession id).2 := by
  intro hagree
  apply hk
  intro p hp hall
  obtain ⟨hact, hc, hr⟩ := hall
  obtain ⟨a, hids, -⟩ := h.session id p hp
  have happ := appId_of_ids hids
  rw [happ] at hc hr
  have hown : m.owner = a := by
    unfold owner
    split <;> assumption
  have h0 : a ≠ 0 := hown ▸ (h.active p hact).2.1
  have hrel : (m.releasePlayerResource a).2 = { m with claimedApp := 0 } := by
    rcases m.release_cases a with ⟨hx, -⟩ | ⟨-, -, -, hne, -⟩ | ⟨-, -, -, e⟩ | ⟨-, hne, -⟩ | ⟨-, hne, -⟩
    · exact absurd hc (hx.resolve_left h0).1
    · exact absurd hr hne
    · exact e
    · exact absurd hc hne
    · exact absurd hc hne
  have hsame := destroySession_same h.policy hp
  rw [happ, hrel] at hsame
  have hids' : (m.destroySession id).2.ids p = some (a, id) := (hsame.ids p).trans hids
  have hactive : (m.destroySession id).2.isSessionActiveForApp a = true := by
    rw [isSessionActiveForApp, if_pos (hsame.policy.trans h.policy), isActiveApp_iff]
    exact ⟨p, hsame.activeSession.trans hact, appId_of_ids hids'⟩
  obtain ⟨q, hq, -⟩ := (hagree a).mp hactive
  have hmap : (m.destroySession id).2.appMap = m.appMap.erase (m.appId p) := hsame.appMap
  rw [hmap, happ] at hq
  exact (getElem?_erase_some hq).1 rfl

end TTSManager

/-! ## Under the other policies -/

/-- Every session of the app map has the speaker. -/
structure Tied (m : TTSManager) : Prop where
  policy : m.policy ≠ .reservation
  entered : Entered m
  active : ∀ a p : Nat, m.appMap[a]? = some p → m.holds p = true

namespace TTSManager

theorem isSessionActiveForApp_open {m : TTSManager} (hpol : m.policy ≠ .reservation) (a : Nat) :
    m.isSessionActiveForApp a = true ↔ ∃ p, m.appMap[a]? = some p := by
  rw [isSessionActiveForApp, if_neg hpol, Std.TreeMap.contains_iff_mem]
  exact mem_iff_getElem? m.appMap a

theorem tied_agrees {m : TTSManager} (h : Tied m) : ActivityAgrees m := by
  intro a
  rw [isSessionActiveForApp_open h.policy]
  constructor
  · intro hmap
    obtain ⟨p, hp⟩ := hmap
    exact ⟨p, hp, h.active a p hp⟩
  · intro hhas
    obtain ⟨p, hp, -⟩ := hhas
    exact ⟨p, hp⟩

theorem not_agrees_of_idle {m : TTSManager} (hpol : m.policy ≠ .reservation) {a p : Nat} (hmap : m.appMap[a]? = some p)
    (hidle : m.holds p = false) : ¬ActivityAgrees m := by
  intro hagree
  obtain ⟨q, hq, hholds⟩ := (hagree a).mp ((isSessionActiveForApp_open hpol a).mpr ⟨p, hmap⟩)
  rw [hmap] at hq
  obtain rfl := Option.some.inj hq
  rw [hidle] at hholds
  cases hholds

theorem activateAll_holds (m : TTSManager) (q : Nat) :
    m.activateAll.holds q = if q ∈ m.sessionMap.toList.map Prod.snd then (m.ids q).isSome else m.holds q :=
  foldl_holds (b := true) (fun m it => m.sameRegistry_setActive it.2 false)
    (fun m it q => m.holds_setActive it.2 false q) m.sessionMap.toList m q

theorem deactivateAll_holds (m : TTSManager) (q : Nat) :
    m.deactivateAll.holds q = if q ∈ m.sessionMap.toList.map Prod.snd then false else m.holds q :=
  foldl_holds (b := false) (fun m it => m.sameRegistry_setInactive it.2 false)
    (fun m it q => m.holds_setInactive it.2 false q) m.sessionMap.toList m q

end TTSManager

theorem SameRegistry.tied {m m' : TTSManager} (h : SameRegistry m m') (ht : Tied m)
    (hholds : ∀ q, m.holds q = true → m'.holds q = true) : Tied m' := by
  refine ⟨?_, h.entered ht.entered, fun a p hp => ?_⟩
  · rw [h.policy]
    exact ht.policy
  · rw [h.appMap] at hp
    exact hholds p (ht.active a p hp)

theorem SameGrant.tied {m m' : TTSManager} (h : SameGrant m m') (ht : Tied m) : Tied m' := by
  have happ : ∀ p, m'.appId p = m.appId p := by
    intro p
    rw [TTSManager.appId_eq_ids, TTSManager.appId_eq_ids, h.ids]
  refine ⟨by rw [h.policy]; exact ht.policy, ⟨?_, ?_⟩, ?_⟩
  · simpa only [h.sessionMap, h.ids, h.appMap] using ht.entered.session
  · simpa only [h.appMap, h.ids, happ] using ht.entered.app
  · simpa only [h.appMap, h.holds] using ht.active

namespace TTSManager

theorem enableTTS_tied {m : TTSManager} (h : Tied m) (enable : Bool)
    (hk : enable = false → m.ttsEnabled = true → m.sessionMap.isEmpty = true) : Tied (m.enableTTS enable) := by
  by_cases hne : m.ttsEnabled = enable
  · rw [enableTTS_same hne]
    exact h
  have hset : Tied (m.setEnabled enable) := ⟨h.policy, ⟨h.entered.session, h.entered.app⟩, h.active⟩
  apply (m.sameRegistry_enableTTS enable).tied hset
  intro q hq
  rw [enableTTS_open h.policy hne]
  cases enable with
  | true =>
    rw [if_pos rfl, activateAll_holds]
    have hids : ∀ m' : TTSManager, m'.holds q = true →
        (if q ∈ m'.sessionMap.toList.map Prod.snd then (m'.ids q).isSome else m'.holds q) = true := by
      intro m' hq'
      split
      · exact isSome_ids_of_holds hq'
      · exact hq'
    split
    · exact hids ((m.setEnabled true).ensurePipeline true) hq
    · exact hids (m.setEnabled true) hq
  | false =>
    have hen : m.ttsEnabled = true := by simpa using hne
    rw [if_neg Bool.false_ne_true, deactivateAll_holds, if_neg]
    · exact hq
    · intro hmem
      obtain ⟨id, hid⟩ := mem_values_iff.mp hmem
      have hempty : m.sessionMap.isEmpty = false := isEmpty_false_of_getElem? hid
      rw [hk rfl hen] at hempty
      cases hempty

theorem enableTTS_lost {m : TTSManager} (h : Tied m) (hen : m.ttsEnabled = true) (hne : m.sessionMap.isEmpty ≠ true) :
    ¬ActivityAgrees (m.enableTTS false) := by
  have hf := m.sameRegistry_enableTTS false
  obtain ⟨id, hid⟩ := Std.TreeMap.isEmpty_eq_false_iff_exists_mem.mp (by simpa using hne)
  obtain ⟨p, hp⟩ := (mem_iff_getElem? m.sessionMap id).mp hid
  obtain ⟨a, -, hmap⟩ := h.entered.session id p hp
  have hpol : (m.enableTTS false).policy ≠ .reservation := by
    rw [hf.policy]
    exact h.policy
  apply not_agrees_of_idle hpol (a := a) (p := p)
  · rw [hf.appMap]
    exact hmap
  · have hchanged : m.ttsEnabled ≠ false := by
      rw [hen]
      exact Bool.noConfusion
    rw [enableTTS_open h.policy hchanged, if_neg Bool.false_ne_true, deactivateAll_holds, if_pos]
    exact mem_values_iff.mpr ⟨id, hp⟩

theorem holds_addSession_open {m : TTSManager} (hpol : m.policy ≠ .reservation) (a : Nat) (n : String) (q : Nat) :
    (m.addSession a n).holds q = if q = m.objects.length then m.ttsEnabled else m.holds q := by
  rw [addSession_open hpol]
  have hnew : (m.enterSession a n).ids m.objects.length = some (a, m.nextSessionId) := by
    rw [ids_enterSession, if_pos rfl]
  cases hen : m.ttsEnabled with
  | true =>
    have hset : (((m.enterSession a n).ensurePipeline true).setActive m.objects.length false).holds q =
        if m.objects.length = q then ((m.enterSession a n).ids q).isSome else (m.enterSession a n).holds q :=
      holds_setActive _ _ _ _
    rw [if_pos rfl, hset]
    by_cases hq : q = m.objects.length
    · rw [if_pos hq.symm, if_pos hq, hq, hnew]
      rfl
    · rw [if_neg (fun e => hq e.symm), if_neg hq, holds_enterSession, if_neg hq]
  | false => rw [if_neg Bool.false_ne_true, holds_enterSession]

theorem appMap_addSession (m : TTSManager) (a : Nat) (n : String) (b : Nat) :
    (m.addSession a n).appMap[b]? = if a = b then some m.objects.length else m.appMap[b]? := by
  rw [(m.sameRegistry_addSession a n).appMap]
  exact getElem?_insert m.appMap a m.objects.length b

theorem createSession_tied {m : TTSManager} (h : Tied m) (a : Nat) (n : String)
    (hk : (∀ p, m.Live p → m.appId p ≠ a) → m.ttsEnabled = true) : Tied (m.createSession a n).2 := by
  rcases m.createSession_cases a n with e | ⟨hno, e⟩
  · rw [e]
    exact h
  have hf := m.sameRegistry_addSession a n
  rw [e]
  refine ⟨by rw [hf.policy]; exact h.policy, hf.entered (enterSession_entered h.entered n hno), fun b p hp => ?_⟩
  rw [appMap_addSession] at hp
  rw [holds_addSession_open h.policy]
  split
  · exact hk hno
  · rename_i hne
    split at hp
    · exact absurd (Option.some.inj hp).symm hne
    · exact h.active b p hp

theorem createSession_lost {m : TTSManager} (hpol : m.policy ≠ .reservation) (a : Nat) (n : String)
    (hno : ∀ p, m.Live p → m.appId p ≠ a) (hen : m.ttsEnabled ≠ true) : ¬ActivityAgrees (m.createSession a n).2 := by
  have e : (m.createSession a n).2 = m.addSession a n := congrArg Prod.snd (if_neg ((m.not_duplicate_iff a).mpr hno))
  rw [e]
  apply not_agrees_of_idle (a := a) (p := m.objects.length)
  · rw [(m.sameRegistry_addSession a n).policy]
    exact hpol
  · rw [appMap_addSession, if_pos rfl]
  · rw [holds_addSession_open hpol, if_pos rfl]
    simpa using hen

theorem destroySession_tied {m : TTSManager} (h : Tied m) (id : Nat) : Tied (m.destroySession id).2 := by
  cases hp : m.sessionMap[id]? with
  | none =>
    rw [destroySession_of_unknown hp]
    exact h
  | some p =>
    obtain ⟨a, hids, hm⟩ := h.entered.session id p hp
    have hf := m.sameRegistry_setInactive p false
    have hids' := (hf.ids p).trans hids
    rw [destroySession_of_known hp, if_neg h.policy]
    apply (sameRegistry_closeSession _ id).tied _ fun q hq => (holds_closeSession _ id q).trans hq
    rw [leaveMaps, appId_of_ids hids']
    refine ⟨h.policy, erase_entered (hf.entered h.entered) hids' hm, fun b q hq => ?_⟩
    obtain ⟨hne, hq⟩ := getElem?_erase_some hq
    have hpq : p ≠ q := by
      rintro rfl
      exact hne ((h.entered.app b p hq).1.symm.trans (appId_of_ids hids))
    have hoff : (m.setInactive p false).holds q = m.holds q := (m.holds_setInactive p false q).trans (if_neg hpq)
    exact hoff.trans (h.active b q hq)

end TTSManager

/-! ## Runs -/

/-- Under the reservation policy no active session goes whose app both claims
and reserves the player; under the others TTS is not disabled over sessions, and
no session is created while it is. -/
def ManagerOp.KeepsActivity (m : TTSManager) : ManagerOp → Prop
  | .destroySession id => m.policy = .reservation → m.HolderStays id
  | .enableTTS enable => m.policy ≠ .reservation → enable = false → m.ttsEnabled = true → m.sessionMap.isEmpty = true
  | .createSession appId _ _ =>
    m.policy ≠ .reservation → (∀ p, m.Live p → m.appId p ≠ appId) → m.ttsEnabled = true
  | _ => True

def EngineCall.KeepsActivity (m : Monitor TTSManager) : EngineCall → Prop
  | .manager op => op.KeepsActivity m.state
  | .session _ _ => True

/-- What the two invariants have in common. -/
def ActivityKept (m : TTSManager) : Prop := Seated m ∨ Tied m

theorem ActivityKept.agrees {m : TTSManager} (h : ActivityKept m) : ActivityAgrees m :=
  h.elim TTSManager.seated_agrees TTSManager.tied_agrees

theorem SameGrant.activityKept {m m' : TTSManager} (h : SameGrant m m') (hk : ActivityKept m) : ActivityKept m' :=
  hk.imp h.seated h.tied

theorem SameGrant.agrees {m m' : TTSManager} (h : SameGrant m m') (ha : ActivityAgrees m') : ActivityAgrees m := by
  intro a
  have happ : ∀ p, m'.appId p = m.appId p := by
    intro p
    rw [TTSManager.appId_eq_ids, TTSManager.appId_eq_ids, h.ids]
  have hq := ha a
  simp only [TTSManager.isSessionActiveForApp, TTSManager.isActiveApp, TTSManager.HasActive, h.policy, h.appMap,
    h.activeSession, h.holds, happ] at hq
  exact hq

theorem effect_activityKept {m : TTSManager} (h : ActivityKept m) {op : ManagerOp} (hk : op.KeepsActivity m) :
    ActivityKept (op.effect m) := by
  cases op with
  | setConfiguration configuration => exact (TTSManager.sameGrant_setConfiguration m configuration).1.activityKept h
  | isTTSEnabled | listVoices | getConfiguration | isSessionActiveForApp | getResourceAllocationPolicy => exact h
  | createSession a n keys =>
    apply (TTSManager.sameGrant_createSession m a n keys).1.activityKept
    rcases h with h | h
    · exact .inl (TTSManager.createSession_seated h a n)
    · exact .inr (TTSManager.createSession_tied h a n (hk h.policy))
  | enableTTS enable =>
    rcases h with h | h
    · exact .inl (TTSManager.enableTTS_seated h enable)
    · exact .inr (TTSManager.enableTTS_tied h enable (hk h.policy))
  | destroySession id =>
    rcases h with h | h
    · exact .inl (TTSManager.destroySession_seated h id (hk h.policy))
    · exact .inr (TTSManager.destroySession_tied h id)
  | reservePlayerResource a =>
    rcases h with h | h
    · simp only [ManagerOp.effect, h.policy, if_true]
      exact .inl (TTSManager.reservePlayerResource_seated h a)
    · simp only [ManagerOp.effect, h.policy, if_false]
      exact .inr h
  | releasePlayerResource a =>
    rcases h with h | h
    · simp only [ManagerOp.effect, h.policy, if_true]
      exact .inl (TTSManager.releasePlayerResource_seated h a)
    · simp only [ManagerOp.effect, h.policy, if_false]
      exact .inr h
  | claimPlayerResource a =>
    rcases h with h | h
    · simp only [ManagerOp.effect, h.policy, if_true]
      exact .inl (TTSManager.claimPlayerResource_seated h a)
    · simp only [ManagerOp.effect, h.policy, if_false]
      exact .inr h

theorem effect_lost {m : TTSManager} (h : ActivityKept m) {op : ManagerOp} (hk : ¬op.KeepsActivity m) :
    ¬ActivityAgrees (op.effect m) := by
  have hseated : m.policy = .reservation → Seated m := fun hp => h.resolve_right fun ht => ht.policy hp
  have htied : m.policy ≠ .reservation → Tied m := fun hp => h.resolve_left fun hs => hp hs.policy
  cases op with
  | createSession a n keys =>
    simp only [ManagerOp.KeepsActivity, Classical.not_imp] at hk
    obtain ⟨hpol, hno, hen⟩ := hk
    intro hagree
    exact TTSManager.createSession_lost hpol a n hno hen
      ((TTSManager.sameGrant_createSession m a n keys).1.agrees hagree)
  | enableTTS enable =>
    simp only [ManagerOp.KeepsActivity, Classical.not_imp] at hk
    obtain ⟨hpol, rfl, hen, hne⟩ := hk
    exact TTSManager.enableTTS_lost (htied hpol) hen hne
  | destroySession id =>
    simp only [ManagerOp.KeepsActivity, Classical.not_imp] at hk
    exact TTSManager.destroySession_lost (hseated hk.1) hk.2
  | setConfiguration | isTTSEnabled | listVoices | getConfiguration | isSessionActiveForApp | getResourceAllocationPolicy
  | reservePlayerResource | releasePlayerResource | claimPlayerResource => exact absurd trivial hk

/-- A step with an operation is its effect, or finds the mutex held and keeps the members. -/
theorem engine_manager_step {policy : ResourceAllocationPolicy} {m m' : Monitor TTSManager} {op : ManagerOp}
    (h : (engine policy).step m (.manager op) = some m') :
    m'.state = op.effect m.state ∨ m' = m ∧ op.KeepsActivity m.state := by
  obtain ⟨r, hd⟩ := engine_manager_done h
  obtain ⟨held, m⟩ := m
  cases held with
  | false => exact .inl (perform_effect hd)
  | true =>
    refine .inr ⟨perform_held hd, ?_⟩
    cases op with
    | createSession | enableTTS | destroySession => cases hd
    | setConfiguration | isTTSEnabled | listVoices | getConfiguration | isSessionActiveForApp
    | getResourceAllocationPolicy | reservePlayerResource | releasePlayerResource | claimPlayerResource => trivial

theorem step_activityKept {policy : ResourceAllocationPolicy} {m m' : Monitor TTSManager} {call : EngineCall}
    (h : ActivityKept m.state) (hk : call.KeepsActivity m) (hs : (engine policy).step m call = some m') :
    ActivityKept m'.state := by
  cases call with
  | manager op =>
    rcases engine_manager_step hs with e | ⟨rfl, -⟩
    · rw [e]
      exact effect_activityKept h hk
    · exact h
  | session p c =>
    obtain ⟨s, -, rfl⟩ := Option.map_eq_some_iff.mp hs
    exact (TTSManager.sameGrant_callSession m.state p s c).activityKept h

theorem step_lost {policy : ResourceAllocationPolicy} {m m' : Monitor TTSManager} {call : EngineCall}
    (h : ActivityKept m.state) (hk : ¬call.KeepsActivity m) (hs : (engine policy).step m call = some m') :
    ¬ActivityAgrees m'.state := by
  cases call with
  | manager op =>
    rcases engine_manager_step hs with e | ⟨-, hkept⟩
    · rw [e]
      exact effect_lost h hk
    · exact absurd hkept hk
  | session p c => exact absurd trivial hk

theorem TTSManager.appMap_new (configuration : TTSConfiguration) (others : Others) (policy : ResourceAllocationPolicy)
    (maxFailures : Nat) : (TTSManager.new configuration others policy maxFailures).appMap = ∅ := by
  unfold new setResourceAllocationPolicy
  split <;> rfl

theorem engine_activityKept {policy : ResourceAllocationPolicy} {m : Monitor TTSManager}
    (h : (engine policy).ReachableIf (fun m call => call.KeepsActivity m) m) : ActivityKept m.state := by
  refine Machine.ReachableIf.invariant (I := fun m : Monitor TTSManager => ActivityKept m.state) ?_ ?_ h
  · intro m hm
    by_cases hpol : policy = .reservation
    · subst hpol
      have hsteady := engine_steady (.init hm)
      obtain ⟨configuration, others, maxFailures, rfl⟩ := hm
      refine .inl ⟨hsteady, (fun p hp => nomatch hp), fun a p hp => ?_⟩
      rw [TTSManager.appMap_new, Std.TreeMap.getElem?_emptyc] at hp
      cases hp
    · obtain ⟨configuration, others, maxFailures, rfl⟩ := hm
      obtain ⟨hsound, -⟩ := new_openSound hpol configuration others maxFailures
      have hempty : ∀ a p : Nat, (TTSManager.new configuration others policy maxFailures).appMap[a]? ≠ some p := by
        intro a p hp
        rw [TTSManager.appMap_new, Std.TreeMap.getElem?_emptyc] at hp
        cases hp
      exact .inr ⟨hsound.policy, ⟨hsound.registry.session, fun a p hp => absurd hp (hempty a p)⟩,
        fun a p hp => absurd hp (hempty a p)⟩
  · intro m call m' hk hkeeps hs
    exact step_activityKept hk hkeeps hs

/-- **Activity queries.** In every run whose calls keep the activity the answers
agree for every app, and a call that does not keep it parts them. -/
theorem activity_queries_agree {policy : ResourceAllocationPolicy} {m : Monitor TTSManager}
    (h : (engine policy).ReachableIf (fun m call => call.KeepsActivity m) m) :
    ActivityAgrees m.state ∧ ∀ call m', (engine policy).step m call = some m' →
      (ActivityAgrees m'.state ↔ call.KeepsActivity m) := by
  have hkept := engine_activityKept h
  refine ⟨hkept.agrees, fun call m' hs => ⟨fun hagree => ?_, fun hkeeps => ?_⟩⟩
  · by_contra hkeeps
    exact step_lost hkept hkeeps hs hagree
  · exact (step_activityKept hkept hkeeps hs).agrees

/-- An app with a session reserves the player while TTS is enabled. -/
theorem activity_queries_agree_reserved :
    ∃ m, (engine .reservation).exec ⟨false, .new .new ∅ .reservation 1⟩
        [.manager (.enableTTS true), .manager (.createSession 7 "guide" []), .manager (.reservePlayerResource 7)] = some m ∧
      m.state.isSessionActiveForApp 7 = true ∧ ActivityAgrees m.state := by
  refine ⟨_, rfl, rfl, ?_⟩
  have h0 : (engine .reservation).ReachableIf (fun m call => call.KeepsActivity m) ⟨false, .new .new ∅ .reservation 1⟩ :=
    .init ⟨.new, ∅, 1, rfl⟩
  have h1 := h0.step (a := EngineCall.manager (.enableTTS true)) (fun h => absurd rfl h) rfl
  have h2 := h1.step (a := EngineCall.manager (.createSession 7 "guide" [])) (fun h => absurd rfl h) rfl
  exact (activity_queries_agree (h2.step (a := EngineCall.manager (.reservePlayerResource 7)) trivial rfl)).1

/-- Disabling TTS leaves the session in the app map without the speaker. -/
theorem disabled_session_active :
    ¬∀ (policy : ResourceAllocationPolicy) (m : Monitor TTSManager), (engine policy).Reachable m →
      ActivityAgrees m.state := by
  intro h
  have hagree := h .open _ (Machine.reachable_of_exec (s := ⟨false, .new .new ∅ .open 1⟩) ⟨.new, ∅, 1, rfl⟩
    [.manager (.enableTTS true), .manager (.createSession 7 "guide" []), .manager (.enableTTS false)] rfl)
  obtain ⟨p, hp, hholds⟩ := (hagree 7).mp (by decide)
  obtain rfl : 0 = p := by
    injection hp
  cases hholds

end TTS
