import TTS.EngineRuns

/-!
# Claims over a reservation

What holds between two calls in every run under the reservation policy, also
after the session counter has wrapped and after the holder's session was
destroyed: a claiming app has an entry in the app map, and while TTS is enabled
the entry of the owner is the active session and holds the speaker.
-/

namespace TTS

open Monitor Transition

/-! ## The invariant -/

/-- Sessions are in the app map too, under their app. -/
structure Entered (m : TTSManager) : Prop where
  session : ∀ id p, m.sessionMap[id]? = some p → ∃ a, m.ids p = some (a, id) ∧ m.appMap[a]? = some p
  app : ∀ a p, m.appMap[a]? = some p → m.appId p = a ∧ (m.ids p).isSome

/-- Sessions are in the app map too, and so is a claiming app. After a wrap of
the session counter the app map may list more than the session map. -/
structure Listed (m : TTSManager) : Prop where
  policy : m.policy = .reservation
  session : ∀ id p, m.sessionMap[id]? = some p → ∃ a, m.ids p = some (a, id) ∧ m.appMap[a]? = some p
  app : ∀ a p, m.appMap[a]? = some p → m.appId p = a ∧ (m.ids p).isSome
  claimed : m.claimedApp ≠ 0 → ∃ p, m.appMap[m.claimedApp]? = some p

structure Settled (m : TTSManager) : Prop extends Listed m where
  active : ∀ p, m.activeSession = some p →
    m.ttsEnabled = true ∧ m.owner ≠ 0 ∧ m.appId p = m.owner ∧ m.holds p = true

structure Steady (m : TTSManager) : Prop extends Settled m where
  expected : ∀ p, m.expected = some p → m.activeSession = some p

theorem Listed.idle {m : TTSManager} (h : Listed m) (ha : m.activeSession = none) : Settled m := by
  refine ⟨h, fun p hp => ?_⟩
  rw [ha] at hp
  cases hp

theorem Listed.entered {m : TTSManager} (h : Listed m) : Entered m := ⟨h.session, h.app⟩

theorem SameRegistry.entered {m m' : TTSManager} (h : SameRegistry m m') (he : Entered m) : Entered m' := by
  constructor
  · simpa only [h.sessionMap, h.ids, h.appMap] using he.session
  · simpa only [h.appMap, h.appId, h.ids] using he.app

theorem SameRegistry.listed {m m' : TTSManager} (h : SameRegistry m m') (hl : Listed m) : Listed m' := by
  have hentered := h.entered hl.entered
  refine ⟨h.policy.trans hl.policy, hentered.session, hentered.app, ?_⟩
  simpa only [h.claimedApp, h.appMap] using hl.claimed

theorem Listed.set {m : TTSManager} (h : Listed m) (b : Bool) (r c : Nat)
    (hc : c ≠ 0 → ∃ p, m.appMap[c]? = some p) :
    Listed { m with ttsEnabled := b, reservedApp := r, claimedApp := c } :=
  ⟨h.policy, h.session, h.app, hc⟩

theorem Steady.free {m : TTSManager} (h : Steady m) {a : Nat} (ho : m.owner = a) (ha : m.isActiveApp a = false) :
    m.activeSession = none := by
  cases hp : m.activeSession with
  | none => rfl
  | some p =>
    rw [(m.isActiveApp_iff a).mpr ⟨p, hp, (h.active p hp).2.2.1.trans ho⟩] at ha
    cases ha

theorem Steady.free_of_no_owner {m : TTSManager} (h : Steady m) (ho : m.owner = 0) : m.activeSession = none := by
  cases hp : m.activeSession with
  | none => rfl
  | some p => exact absurd ho (h.active p hp).2.1

theorem Steady.owner_of_active {m : TTSManager} (h : Steady m) {a : Nat} (ha : m.isActiveApp a = true) :
    m.owner = a := by
  obtain ⟨p, hp, happ⟩ := (m.isActiveApp_iff a).mp ha
  exact (h.active p hp).2.2.1.symm.trans happ

theorem Steady.owner_active {m : TTSManager} (h : Steady m) (he : m.ttsEnabled = true) (ho : m.owner ≠ 0) {p : Nat}
    (hp : m.appMap[m.owner]? = some p) : m.isActiveApp m.owner = true :=
  (m.isActiveApp_iff _).mpr ⟨p, h.expected p (TTSManager.expected_eq_some.mpr ⟨he, ho, hp⟩), (h.app _ p hp).1⟩

theorem Steady.claiming_active {m : TTSManager} (h : Steady m) (he : m.ttsEnabled = true) (hc : m.claimedApp ≠ 0) :
    m.isActiveApp m.claimedApp = true := by
  obtain ⟨p, hp⟩ := h.claimed hc
  have ho := TTSManager.owner_of_claimed hc
  have hact := h.owner_active he (p := p) (by rw [ho]; exact hc) (by rw [ho]; exact hp)
  rw [ho] at hact
  exact hact

theorem SameGrant.steady {m m' : TTSManager} (h : SameGrant m m') (hs : Steady m) : Steady m' := by
  have happ : ∀ p, m'.appId p = m.appId p := by
    intro p
    rw [TTSManager.appId_eq_ids, TTSManager.appId_eq_ids, h.ids]
  have howner : m'.owner = m.owner := by
    unfold TTSManager.owner
    rw [h.claimedApp, h.reservedApp]
  refine ⟨⟨⟨h.policy.trans hs.policy, ?_, ?_, ?_⟩, ?_⟩, ?_⟩
  · simpa only [h.sessionMap, h.ids, h.appMap] using hs.session
  · simpa only [h.appMap, h.ids, happ] using hs.app
  · simpa only [h.claimedApp, h.appMap] using hs.claimed
  · simpa only [h.activeSession, h.ttsEnabled, howner, happ, h.holds] using hs.active
  · rw [TTSManager.expected_congr m m' h.ttsEnabled howner h.appMap, h.activeSession]
    exact hs.expected

namespace TTSManager

theorem enterSession_entered {m : TTSManager} (h : Entered m) {a : Nat} (n : String)
    (hno : ∀ p, m.Live p → m.appId p ≠ a) : Entered (m.enterSession a n) := by
  have hids : ∀ {p x}, m.ids p = some x → (m.enterSession a n).ids p = some x := by
    intro p x hx
    rw [ids_enterSession, if_neg (Nat.ne_of_lt (lt_of_ids hx))]
    exact hx
  have hnew : (m.enterSession a n).ids m.objects.length = some (a, m.nextSessionId) := by
    rw [ids_enterSession, if_pos rfl]
  have hmap : ∀ b : Nat, (m.enterSession a n).appMap[b]? = if a = b then some m.objects.length else m.appMap[b]? :=
    fun b => getElem?_insert _ _ _ _
  refine ⟨fun id p hp => ?_, fun b p hp => ?_⟩
  · have hp : (m.sessionMap.insert m.nextSessionId m.objects.length)[id]? = some p := hp
    rw [getElem?_insert] at hp
    by_cases hid : m.nextSessionId = id
    · rw [if_pos hid] at hp
      obtain rfl := Option.some.inj hp
      exact ⟨a, hid ▸ hnew, (hmap a).trans (if_pos rfl)⟩
    · rw [if_neg hid] at hp
      obtain ⟨b, hb, hbm⟩ := h.session id p hp
      have hne : a ≠ b := fun e => hno p ⟨id, hp⟩ ((appId_of_ids hb).trans e.symm)
      exact ⟨b, hids hb, (hmap b).trans ((if_neg hne).trans hbm)⟩
  · rw [hmap] at hp
    by_cases hb : a = b
    · rw [if_pos hb] at hp
      obtain rfl := Option.some.inj hp
      exact ⟨(appId_of_ids hnew).trans hb, by rw [hnew]; rfl⟩
    · rw [if_neg hb] at hp
      obtain ⟨happ, hsome⟩ := h.app b p hp
      obtain ⟨x, hx⟩ := Option.isSome_iff_exists.mp hsome
      rw [appId_eq_ids, hids hx, ← happ, appId_eq_ids, hx]
      exact ⟨rfl, rfl⟩

theorem getElem?_erase_some {t : Std.TreeMap Nat Nat} {a b q : Nat} (h : (t.erase a)[b]? = some q) :
    b ≠ a ∧ t[b]? = some q := by
  rw [getElem?_erase] at h
  split at h
  · cases h
  · exact ⟨fun e => ‹¬ a = b› e.symm, h⟩

theorem erase_entered {m : TTSManager} (h : Entered m) {a id p : Nat} (hids : m.ids p = some (a, id))
    (hm : m.appMap[a]? = some p) :
    Entered { m with sessionMap := m.sessionMap.erase id, appMap := m.appMap.erase a } := by
  refine ⟨fun id' q hq => ?_, fun b q hq => h.app b q (getElem?_erase_some hq).2⟩
  obtain ⟨hid, hq⟩ := getElem?_erase_some hq
  obtain ⟨b, hb, hbm⟩ := h.session id' q hq
  have hne : a ≠ b := by
    intro e
    rw [← e, hm] at hbm
    obtain rfl := Option.some.inj hbm
    exact hid (congrArg Prod.snd (Option.some.inj (hids.symm.trans hb))).symm
  exact ⟨b, hb, (getElem?_erase _ _ _).trans ((if_neg hne).trans hbm)⟩

/-! ## The operations keep it -/

theorem makeReserved_steady {m : TTSManager} (hs : Settled m) : Steady m.makeReservedOrClaimedSessionActive := by
  have hf := m.sameRegistry_makeReservedOrClaimedSessionActive
  have hx := hf.expected
  rcases m.makeReserved_cases with ⟨he, hm⟩ | ⟨p, he, hm⟩
  · rw [hm]
    refine ⟨hs, fun p hp => ?_⟩
    rw [he] at hp
    cases hp
  · rw [hm] at hf hx ⊢
    obtain ⟨hen, ho, hmap⟩ := expected_eq_some.mp he
    obtain ⟨happ, hids⟩ := hs.app _ _ hmap
    have hact := m.makeSessionActive_active p
    have hholds : (m.makeSessionActive p).holds p = true := by
      unfold makeSessionActive
      split
      · have e : ({ (m.ensurePipeline true).setActive p true with activeSession := some p } : TTSManager).holds p =
            if p = p then (m.ids p).isSome else m.holds p := (m.ensurePipeline true).holds_setActive p true p
        rw [e, if_pos rfl]
        exact hids
      · rename_i h
        exact (hs.active p (not_not.mp h)).2.2.2
    refine ⟨⟨hf.listed hs.toListed, fun q hq => ?_⟩, fun q hq => ?_⟩
    · obtain rfl := Option.some.inj (hact.symm.trans hq)
      rw [hf.ttsEnabled, hf.owner, hf.appId]
      exact ⟨hen, ho, happ, hholds⟩
    · rw [hx, he] at hq
      exact hact.trans hq

theorem makeSessionInActive_settled {m : TTSManager} (h : Listed m) :
    Settled (m.makeSessionInActive m.activeSession) :=
  ((m.sameRegistry_makeSessionInActive _).listed h).idle (makeSessionInActive_active m)

theorem enableTTS_steady {m : TTSManager} (h : Steady m) (enable : Bool) : Steady (m.enableTTS enable) := by
  by_cases hne : m.ttsEnabled = enable
  · rw [enableTTS_same hne]
    exact h
  have hl : Listed (m.setEnabled enable) := ⟨h.policy, h.session, h.app, h.claimed⟩
  rw [enableTTS_reservation h.policy hne]
  cases enable with
  | true =>
    rw [if_pos rfl]
    apply makeReserved_steady
    apply hl.idle
    show m.activeSession = none
    cases hp : m.activeSession with
    | none => rfl
    | some p => exact absurd (h.active p hp).1 hne
  | false =>
    rw [if_neg Bool.false_ne_true]
    refine ⟨makeSessionInActive_settled hl, fun p hp => ?_⟩
    rw [(sameRegistry_makeSessionInActive _ _).expected, expected_of_disabled rfl] at hp
    cases hp

theorem reservePlayerResource_steady {m : TTSManager} (h : Steady m) (a : Nat) :
    Steady (m.reservePlayerResource a).2 := by
  rcases m.reserve_cases a with ⟨-, e⟩ | ⟨-, hr, e⟩ <;> rw [e]
  · exact h
  have hl : Listed { m with reservedApp := a } := h.set m.ttsEnabled a m.claimedApp h.claimed
  apply makeReserved_steady
  by_cases hc : m.claimedApp = 0
  · exact hl.idle (h.free_of_no_owner ((owner_of_reserved hc).trans hr))
  · -- the claiming app stays the owner
    have ho : ({ m with reservedApp := a } : TTSManager).owner = m.owner := (if_pos hc).trans (if_pos hc).symm
    refine ⟨hl, fun p hp => ?_⟩
    rw [ho]
    exact h.active p hp

theorem releasePlayerResource_steady {m : TTSManager} (h : Steady m) (a : Nat) :
    Steady (m.releasePlayerResource a).2 := by
  have hfree : Listed { m with claimedApp := 0 } := h.set m.ttsEnabled m.reservedApp 0 fun h => absurd rfl h
  have hback : Listed { m with reservedApp := 0 } := h.set m.ttsEnabled 0 m.claimedApp h.claimed
  rcases m.release_cases a with ⟨-, e⟩ | ⟨-, -, -, -, e⟩ | ⟨h0, hc, ha, e⟩ | ⟨h0, hc, hr, ha, e⟩ |
    ⟨h0, hc, hr, ha, e⟩ <;> rw [e]
  · exact h
  · exact makeReserved_steady (makeSessionInActive_settled hfree)
  · -- whoever is active belongs to the claiming app, which then reserves the player too
    have howner : m.owner = a := (owner_of_claimed (hc ▸ h0)).trans hc
    have hown : ∀ p, m.activeSession = some p → m.reservedApp = a := by
      intro p hp
      exact ha ((m.isActiveApp_iff a).mpr ⟨p, hp, (h.active p hp).2.2.1.trans howner⟩)
    refine ⟨⟨hfree, fun p hp => ?_⟩, fun p hp => ?_⟩
    · obtain ⟨hen, ho, happ, hh⟩ := h.active p hp
      have e : ({ m with claimedApp := 0 } : TTSManager).owner = m.owner := (hown p hp).trans howner.symm
      rw [e]
      exact ⟨hen, ho, happ, hh⟩
    · obtain ⟨hen, ho, hmap⟩ := expected_eq_some.mp hp
      have hr := ha (hc ▸ h.claiming_active hen (hc ▸ h0))
      have e : ({ m with claimedApp := 0 } : TTSManager).owner = m.owner := hr.trans howner.symm
      rw [e] at ho hmap
      exact h.expected p (expected_eq_some.mpr ⟨hen, ho, hmap⟩)
  · have howner := h.owner_of_active ha
    have hcl : m.claimedApp = 0 := by
      by_contra hcl
      exact hc ((owner_of_claimed hcl).symm.trans howner)
    have hs := makeSessionInActive_settled h.toListed
    have hf := m.sameRegistry_makeSessionInActive m.activeSession
    refine ⟨Listed.idle ⟨hs.policy, hs.session, hs.app, hs.claimed⟩ (makeSessionInActive_active m), fun p hp => ?_⟩
    have ho : ({ m.makeSessionInActive m.activeSession with reservedApp := 0 } : TTSManager).owner = 0 :=
      owner_of_reserved (hf.claimedApp.trans hcl)
    rw [expected_of_owner_zero ho] at hp
    cases hp
  · by_cases hcl : m.claimedApp = 0
    · refine ⟨hback.idle (h.free ((owner_of_reserved hcl).trans hr) ha), fun p hp => ?_⟩
      rw [expected_of_owner_zero (m := { m with reservedApp := 0 }) (owner_of_reserved hcl)] at hp
      cases hp
    · have ho : ({ m with reservedApp := 0 } : TTSManager).owner = m.owner := (if_pos hcl).trans (if_pos hcl).symm
      refine ⟨⟨hback, fun p hp => ?_⟩, fun p hp => ?_⟩
      · rw [ho]
        exact h.active p hp
      · rw [expected_set_reserved hcl] at hp
        exact h.expected p hp

theorem release_reserving {m : TTSManager} (h : Steady m) {a : Nat} (hl : Listed { m with claimedApp := a })
    (hc : m.claimedApp = 0) (hr : m.reservedApp ≠ a) (hr0 : m.reservedApp ≠ 0) :
    Settled { (({ m with claimedApp := a } : TTSManager).releasePlayerResource m.reservedApp).2 with
      reservedApp := m.reservedApp } ∧
      (({ m with claimedApp := a } : TTSManager).releasePlayerResource m.reservedApp).2.claimedApp = a := by
  rcases m.release_reserving_cases hr hr0 with ⟨-, e⟩ | ⟨hna, e⟩ <;> rw [e]
  · have hs := makeSessionInActive_settled hl
    have hf := ({ m with claimedApp := a } : TTSManager).sameRegistry_makeSessionInActive m.activeSession
    exact ⟨Listed.idle ⟨hs.policy, hs.session, hs.app, hs.claimed⟩
      (makeSessionInActive_active { m with claimedApp := a }), hf.claimedApp⟩
  · exact ⟨Listed.idle ⟨hl.policy, hl.session, hl.app, hl.claimed⟩ (h.free (owner_of_reserved hc) hna), rfl⟩

theorem claim_takes_over {m : TTSManager} (h : Steady m) {a : Nat} (h0 : a ≠ 0) (hm : a ∈ m.appMap)
    (hc : m.claimedApp = 0) (hr : m.reservedApp ≠ a) :
    (m.claimPlayerResource a).1 = .ok ∧ Steady (m.claimPlayerResource a).2 ∧
      (m.claimPlayerResource a).2.claimedApp = a ∧ (m.claimPlayerResource a).2.reservedApp = m.reservedApp := by
  have hl : Listed { m with claimedApp := a } :=
    h.set m.ttsEnabled m.reservedApp a fun _ => (mem_iff_getElem? _ _).mp hm
  unfold claimPlayerResource
  rw [if_neg h0, if_neg (not_not.mpr hm), if_neg (not_not.mpr hc)]
  simp only
  rw [if_neg (fun h => hr h.2)]
  generalize hm' : (if m.reservedApp ≠ 0 then { (({ m with claimedApp := a } : TTSManager).releasePlayerResource
    m.reservedApp).2 with reservedApp := m.reservedApp } else ({ m with claimedApp := a } : TTSManager)) = m'
  have hs : Settled m' ∧ m'.claimedApp = a ∧ m'.reservedApp = m.reservedApp := by
    rw [← hm']
    by_cases hr0 : m.reservedApp = 0
    · rw [if_neg (not_not.mpr hr0)]
      exact ⟨hl.idle (h.free_of_no_owner ((owner_of_reserved hc).trans hr0)), rfl, rfl⟩
    · rw [if_pos hr0]
      obtain ⟨hs, hcl⟩ := release_reserving h hl hc hr hr0
      exact ⟨hs, hcl, rfl⟩
  obtain ⟨hs, hcl, hres⟩ := hs
  have hsteady := makeReserved_steady hs
  have hf := m'.sameRegistry_makeReservedOrClaimedSessionActive
  have hclaimed := hf.claimedApp.trans hcl
  refine ⟨?_, hsteady, hclaimed, hf.reservedApp.trans hres⟩
  cases hen : m'.makeReservedOrClaimedSessionActive.ttsEnabled with
  | false => rfl
  | true =>
    rw [if_neg Bool.noConfusion, if_pos (hsteady.claiming_active hen (hclaimed ▸ h0))]

theorem granted_claim {m : TTSManager} {a : Nat} (h : (m.claimPlayerResource a).1 = .ok) : a ≠ 0 ∧ a ∈ m.appMap := by
  unfold claimPlayerResource at h
  split at h
  · cases h
  · split at h
    · cases h
    · exact ⟨‹_›, not_not.mp ‹_›⟩

theorem claim_spec {m : TTSManager} (h : Steady m) (a : Nat) :
    Steady (m.claimPlayerResource a).2 ∧
      ((m.claimPlayerResource a).1 = .ok ∧
          ((m.claimPlayerResource a).2.ttsEnabled = true → (m.claimPlayerResource a).2.isActiveApp a = true) ∨
        (m.claimPlayerResource a).1 ≠ .ok ∧ (m.claimPlayerResource a).1 ≠ .fail ∧
          (m.claimPlayerResource a).2 = m) := by
  by_cases h0 : a = 0
  · have e : m.claimPlayerResource a = (.emptyAppidInput, m) := if_pos h0
    rw [e]
    exact ⟨h, .inr ⟨by simp, by simp, rfl⟩⟩
  by_cases hm : a ∉ m.appMap
  · have e : m.claimPlayerResource a = (.appNotFound, m) := (if_neg h0).trans (if_pos hm)
    rw [e]
    exact ⟨h, .inr ⟨by simp, by simp, rfl⟩⟩
  have hm : a ∈ m.appMap := not_not.mp hm
  by_cases hc : m.claimedApp = 0
  · by_cases hr : m.reservedApp = a
    · -- the claim of the reserving app is taken back
      have e : m.claimPlayerResource a = (.ok, { m with claimedApp := 0 }) := by
        unfold claimPlayerResource
        rw [if_neg h0, if_neg (not_not.mpr hm), if_neg (not_not.mpr hc)]
        exact if_pos ⟨hr ▸ h0, hr⟩
      have hback : SameGrant m { m with claimedApp := 0 } :=
        ⟨rfl, rfl, rfl, rfl, hc.symm, rfl, rfl, rfl, fun _ => rfl, fun _ => rfl⟩
      rw [e]
      refine ⟨hback.steady h, .inl ⟨rfl, fun hen => ?_⟩⟩
      have ho := (owner_of_reserved hc).trans hr
      obtain ⟨p, hp⟩ := (mem_iff_getElem? _ _).mp hm
      have hact := h.owner_active hen (p := p) (by rw [ho]; exact h0) (by rw [ho]; exact hp)
      rw [ho] at hact
      exact hact
    · obtain ⟨hok, hs, hcl, -⟩ := claim_takes_over h h0 hm hc hr
      refine ⟨hs, .inl ⟨hok, fun hen => ?_⟩⟩
      have hact := hs.claiming_active hen (by rw [hcl]; exact h0)
      rw [hcl] at hact
      exact hact
  · have e : m.claimPlayerResource a = if m.claimedApp = a then (.ok, m) else (.resourceBusy, m) := by
      unfold claimPlayerResource
      rw [if_neg h0, if_neg (not_not.mpr hm), if_pos hc]
    rw [e]
    by_cases hca : m.claimedApp = a
    · rw [if_pos hca]
      exact ⟨h, .inl ⟨rfl, fun hen => hca ▸ h.claiming_active hen hc⟩⟩
    · rw [if_neg hca]
      exact ⟨h, .inr ⟨by simp, by simp, rfl⟩⟩

theorem reserve_spec (m : TTSManager) (a : Nat) :
    (m.reservePlayerResource a).1 = .ok ∧ (m.reservePlayerResource a).2.reservedApp = a ∨
      (m.reservePlayerResource a).1 ≠ .ok ∧ (m.reservePlayerResource a).2 = m := by
  unfold reservePlayerResource
  by_cases h0 : a = 0
  · rw [if_pos h0]
    exact .inr ⟨by simp, rfl⟩
  rw [if_neg h0]
  by_cases hr : m.reservedApp ≠ 0
  · rw [if_pos hr]
    by_cases ha : m.reservedApp = a
    · rw [if_pos ha]
      exact .inl ⟨rfl, ha⟩
    · rw [if_neg ha]
      exact .inr ⟨by simp, rfl⟩
  · rw [if_neg hr]
    exact .inl ⟨rfl, (sameRegistry_makeReservedOrClaimedSessionActive { m with reservedApp := a }).reservedApp⟩

theorem release_refused (m : TTSManager) (a : Nat) (h : (m.releasePlayerResource a).1 ≠ .ok) :
    (m.releasePlayerResource a).2 = m := by
  unfold releasePlayerResource at h ⊢
  by_cases h0 : a = 0
  · rw [if_pos h0]
  rw [if_neg h0] at h ⊢
  by_cases hc : m.claimedApp ≠ 0 ∧ m.claimedApp = a
  · rw [if_pos hc] at h
    simp only at h
    split at h <;> exact absurd rfl h
  rw [if_neg hc] at h ⊢
  by_cases hr : m.reservedApp ≠ 0
  · rw [if_pos hr] at h ⊢
    by_cases ha : m.reservedApp ≠ a
    · rw [if_pos ha]
    · rw [if_neg ha] at h
      exact absurd rfl h
  · rw [if_neg hr] at h
    exact absurd rfl h

/-! ### Creating and destroying sessions -/

theorem enterSession_settled {m : TTSManager} (h : Steady m) {a : Nat} (n : String)
    (hno : ∀ p, m.Live p → m.appId p ≠ a) : Settled (m.enterSession a n) := by
  have hentered := enterSession_entered h.entered n hno
  refine ⟨⟨h.policy, hentered.session, hentered.app, fun hc => ?_⟩, fun p hp => ?_⟩
  · have hmap : (m.enterSession a n).appMap[m.claimedApp]? =
        if a = m.claimedApp then some m.objects.length else m.appMap[m.claimedApp]? := getElem?_insert _ _ _ _
    show ∃ p, (m.enterSession a n).appMap[m.claimedApp]? = some p
    rw [hmap]
    by_cases hb : a = m.claimedApp
    · exact ⟨_, if_pos hb⟩
    · obtain ⟨p, hp⟩ := h.claimed hc
      exact ⟨p, (if_neg hb).trans hp⟩
  · obtain ⟨hen, ho, happ, hh⟩ := h.active p hp
    have hne : p ≠ m.objects.length := Nat.ne_of_lt (lt_of_holds hh)
    rw [appId_eq_ids, ids_enterSession, holds_enterSession, if_neg hne, if_neg hne, ← appId_eq_ids]
    exact ⟨hen, ho, happ, hh⟩

theorem createSession_steady {m : TTSManager} (h : Steady m) (a : Nat) (n : String) :
    Steady (m.createSession a n).2 := by
  rcases m.createSession_cases a n with e | ⟨hno, e⟩
  · rw [e]
    exact h
  · rw [e, addSession_reservation h.policy]
    exact makeReserved_steady (enterSession_settled h n hno)

theorem claimedApp_release (m : TTSManager) {a : Nat} (h0 : a ≠ 0) : (m.releasePlayerResource a).2.claimedApp ≠ a := by
  have hz : (0 : Nat) ≠ a := fun e => h0 e.symm
  rcases m.release_cases a with ⟨hx, e⟩ | ⟨-, -, -, -, e⟩ | ⟨-, -, -, e⟩ | ⟨-, hc, -, -, e⟩ | ⟨-, hc, -, -, e⟩ <;>
    rw [e]
  · exact (hx.resolve_left h0).1
  · have hf := (sameRegistry_makeSessionInActive { m with claimedApp := 0 } m.activeSession).trans
      (sameRegistry_makeReservedOrClaimedSessionActive _)
    rw [hf.claimedApp]
    exact hz
  · exact hz
  · show (m.makeSessionInActive m.activeSession).claimedApp ≠ a
    rw [(m.sameRegistry_makeSessionInActive m.activeSession).claimedApp]
    exact hc
  · exact hc

theorem erase_steady {m : TTSManager} (h : Steady m) {a id p : Nat} (hids : m.ids p = some (a, id))
    (hm : m.appMap[a]? = some p) (hc : m.claimedApp ≠ 0 → m.claimedApp ≠ a) :
    Steady { m with sessionMap := m.sessionMap.erase id, appMap := m.appMap.erase a } := by
  have hentered := erase_entered h.entered hids hm
  refine ⟨⟨⟨h.policy, hentered.session, hentered.app, fun hne => ?_⟩, h.active⟩, fun q hq => ?_⟩
  · obtain ⟨q, hq⟩ := h.claimed hne
    exact ⟨q, (getElem?_erase _ _ _).trans ((if_neg (hc hne).symm).trans hq)⟩
  · obtain ⟨hen, ho, hq⟩ := expected_eq_some.mp hq
    exact h.expected q (expected_eq_some.mpr ⟨hen, ho, (getElem?_erase_some hq).2⟩)

theorem destroySession_same {m : TTSManager} (hpol : m.policy = .reservation) {id p : Nat}
    (hp : m.sessionMap[id]? = some p) :
    SameGrant ((m.releasePlayerResource (m.appId p)).2.leaveMaps id p) (m.destroySession id).2 := by
  rw [destroySession_of_known hp, if_pos hpol]
  exact (sameRegistry_closeSession _ id).sameGrant (activeSession_closeSession _ id) (holds_closeSession _ id)

theorem destroySession_steady {m : TTSManager} (h : Steady m) (id : Nat) : Steady (m.destroySession id).2 := by
  cases hp : m.sessionMap[id]? with
  | none =>
    rw [destroySession_of_unknown hp]
    exact h
  | some p =>
    apply (destroySession_same h.policy hp).steady
    obtain ⟨a, hids, hm⟩ := h.session id p hp
    obtain ⟨-, ham, -, hid⟩ := m.release_registry a
    have hids' := (hid p).trans hids
    rw [appId_of_ids hids, leaveMaps, appId_of_ids hids']
    refine erase_steady (releasePlayerResource_steady h a) hids' (ham ▸ hm) fun h0 e => ?_
    exact claimedApp_release m (e ▸ h0) e

/-! ## Runs -/

theorem effect_steady {m : TTSManager} (h : Steady m) (op : ManagerOp) : Steady (op.effect m) := by
  cases op with
  | enableTTS enable => exact enableTTS_steady h enable
  | createSession a n keys =>
    have hs := createSession_steady h a n
    exact (sameGrant_createSession m a n keys).1.steady hs
  | destroySession id => exact destroySession_steady h id
  | setConfiguration configuration => exact (sameGrant_setConfiguration m configuration).1.steady h
  | reservePlayerResource a =>
    simp only [ManagerOp.effect, h.policy, if_true]
    exact reservePlayerResource_steady h a
  | releasePlayerResource a =>
    simp only [ManagerOp.effect, h.policy, if_true]
    exact releasePlayerResource_steady h a
  | claimPlayerResource a =>
    simp only [ManagerOp.effect, h.policy, if_true]
    exact (claim_spec h a).1
  | isTTSEnabled | listVoices | getConfiguration | isSessionActiveForApp | getResourceAllocationPolicy => exact h

end TTSManager

theorem engine_steady {m : Monitor TTSManager} (h : (engine .reservation).Reachable m) : Steady m.state := by
  refine Machine.Reachable.invariant (I := fun m : Monitor TTSManager => Steady m.state) ?_ ?_ h
  · intro m hm
    obtain ⟨configuration, others, maxFailures, rfl⟩ := hm
    refine ⟨⟨⟨rfl, fun id p hp => ?_, fun a p hp => ?_, fun hc => absurd rfl hc⟩, fun p hp => ?_⟩, fun p hp => ?_⟩
    · exact absurd hp (by simp [TTSManager.new, TTSManager.setResourceAllocationPolicy])
    · exact absurd hp (by simp [TTSManager.new, TTSManager.setResourceAllocationPolicy])
    · cases hp
    · cases hp
  · intro m call m' hs hstep
    rcases engine_step hstep with rfl | ⟨op, -, e⟩ | ⟨p, s, c, -, -, e⟩
    · exact hs
    · rw [e]
      exact TTSManager.effect_steady hs op
    · rw [e]
      exact (TTSManager.sameGrant_callSession m.state p s c).steady hs

/-! ## A claim and its end -/

def EngineCall.GivesUp (m : TTSManager) (appId : Nat) : EngineCall → Prop
  | .manager (.releasePlayerResource a) => a = appId
  | .manager (.destroySession id) => ∃ p, m.sessionMap[id]? = some p ∧ m.appId p = appId
  | _ => False

namespace TTSManager

theorem release_other {m : TTSManager} {a : Nat} (hra : m.reservedApp ≠ a) (hca : m.claimedApp ≠ a) :
    (m.releasePlayerResource a).2 = m := by
  rcases m.release_cases a with ⟨-, e⟩ | ⟨-, h, -⟩ | ⟨-, h, -⟩ | ⟨-, -, h, -⟩ | ⟨-, -, h, -⟩
  · exact e
  · exact absurd h hca
  · exact absurd h hca
  · exact absurd h hra
  · exact absurd h hra

theorem createSession_apps (m : TTSManager) (a : Nat) (n : String) (keys : List String) :
    (ManagerOp.effect m (.createSession a n keys)).reservedApp = m.reservedApp ∧
      (ManagerOp.effect m (.createSession a n keys)).claimedApp = m.claimedApp := by
  simp only [ManagerOp.effect]
  rcases m.createSession_cases a n with e | ⟨-, e⟩
  · rw [e]
    exact ⟨rfl, rfl⟩
  · rw [e]
    have hf := m.sameRegistry_addSession a n
    exact ⟨hf.reservedApp, hf.claimedApp⟩

theorem destroySession_apps {m : TTSManager} (hpol : m.policy = .reservation) {id p : Nat}
    (hp : m.sessionMap[id]? = some p) :
    (m.destroySession id).2.reservedApp = (m.releasePlayerResource (m.appId p)).2.reservedApp ∧
      (m.destroySession id).2.claimedApp = (m.releasePlayerResource (m.appId p)).2.claimedApp := by
  have hf := destroySession_same hpol hp
  exact ⟨hf.reservedApp, hf.claimedApp⟩

theorem effect_keeps_apps {m : TTSManager} (hpol : m.policy = .reservation) {op : ManagerOp}
    (hr : m.reservedApp ≠ 0) (hc : m.claimedApp ≠ 0)
    (hop : ¬ (EngineCall.manager op).GivesUp m m.reservedApp)
    (hop' : ¬ (EngineCall.manager op).GivesUp m m.claimedApp) :
    (op.effect m).reservedApp = m.reservedApp ∧ (op.effect m).claimedApp = m.claimedApp := by
  cases op with
  | enableTTS enable =>
    have hf := m.sameRegistry_enableTTS enable
    exact ⟨hf.reservedApp, hf.claimedApp⟩
  | createSession a n keys => exact m.createSession_apps a n keys
  | destroySession id =>
    simp only [ManagerOp.effect]
    cases hp : m.sessionMap[id]? with
    | none =>
      rw [destroySession_of_unknown hp]
      exact ⟨rfl, rfl⟩
    | some p =>
      obtain ⟨hres, hcl⟩ := destroySession_apps hpol hp
      rw [hres, hcl, release_other (fun e => hop ⟨p, hp, e.symm⟩) (fun e => hop' ⟨p, hp, e.symm⟩)]
      exact ⟨rfl, rfl⟩
  | setConfiguration configuration =>
    have hf := (sameGrant_setConfiguration m configuration).1
    exact ⟨hf.reservedApp, hf.claimedApp⟩
  | reservePlayerResource a =>
    simp only [ManagerOp.effect, hpol, if_true]
    rcases m.reserve_cases a with ⟨-, e⟩ | ⟨-, hr', -⟩
    · rw [e]
      exact ⟨rfl, rfl⟩
    · exact absurd hr' hr
  | releasePlayerResource a =>
    simp only [ManagerOp.effect, hpol, if_true]
    rw [release_other (fun e => hop e.symm) (fun e => hop' e.symm)]
    exact ⟨rfl, rfl⟩
  | claimPlayerResource a =>
    simp only [ManagerOp.effect, hpol, if_true]
    rcases m.claim_cases a with ⟨-, e⟩ | ⟨-, -, hc', -⟩ | ⟨-, -, hc', -⟩ | ⟨-, -, hc', -⟩
    · rw [e]
      exact ⟨rfl, rfl⟩
    all_goals exact absurd hc' hc
  | isTTSEnabled | listVoices | getConfiguration | isSessionActiveForApp | getResourceAllocationPolicy =>
    exact ⟨rfl, rfl⟩

theorem release_claiming {m : TTSManager} (h0 : m.claimedApp ≠ 0) :
    (m.releasePlayerResource m.claimedApp).2.reservedApp = m.reservedApp ∧
      (m.releasePlayerResource m.claimedApp).2.claimedApp = 0 := by
  rcases m.release_cases m.claimedApp with ⟨hx, -⟩ | ⟨-, -, -, -, e⟩ | ⟨-, -, -, e⟩ | ⟨-, hc, -⟩ | ⟨-, hc, -⟩
  · exact absurd rfl (hx.resolve_left h0).1
  · have hf := (sameRegistry_makeSessionInActive { m with claimedApp := 0 } m.activeSession).trans
      (sameRegistry_makeReservedOrClaimedSessionActive _)
    rw [e]
    exact ⟨hf.reservedApp, hf.claimedApp⟩
  · rw [e]
    exact ⟨rfl, rfl⟩
  · exact absurd rfl hc
  · exact absurd rfl hc

theorem effect_ends_claim {m : TTSManager} (hpol : m.policy = .reservation) {op : ManagerOp} (h0 : m.claimedApp ≠ 0)
    (hop : (EngineCall.manager op).GivesUp m m.claimedApp) :
    (op.effect m).reservedApp = m.reservedApp ∧ (op.effect m).claimedApp = 0 := by
  have hrel := release_claiming h0
  cases op with
  | releasePlayerResource a =>
    obtain rfl : a = m.claimedApp := hop
    simp only [ManagerOp.effect, hpol, if_true]
    exact hrel
  | destroySession id =>
    obtain ⟨p, hp, happ⟩ := hop
    obtain ⟨hres, hcl⟩ := destroySession_apps hpol hp
    simp only [ManagerOp.effect]
    rw [hres, hcl, happ]
    exact hrel
  | enableTTS | createSession | setConfiguration | reservePlayerResource | claimPlayerResource | isTTSEnabled
  | listVoices | getConfiguration | isSessionActiveForApp | getResourceAllocationPolicy => cases hop

theorem reserved_holds {m : TTSManager} (h : Steady m) (hc : m.claimedApp = 0) (hr : m.reservedApp ≠ 0)
    (he : m.ttsEnabled = true) {p : Nat} (hp : m.Live p) (happ : m.appId p = m.reservedApp) :
    m.activeSession = some p ∧ m.holds p = true := by
  obtain ⟨id, hid⟩ := hp
  obtain ⟨a, ha, hm⟩ := h.session id p hid
  rw [appId_of_ids ha] at happ
  subst happ
  have ho := owner_of_reserved hc
  have hact := h.expected p (expected_eq_some.mpr ⟨he, ho ▸ hr, ho ▸ hm⟩)
  exact ⟨hact, (h.active p hact).2.2.2⟩

end TTSManager

/-! ## What the requests return -/

section
variable {m m' : Monitor TTSManager} (hpol : m.state.policy = .reservation) {a : Nat}
  {r : Except StdException ManagerReply}

include hpol

theorem claim_done (h : (ManagerOp.claimPlayerResource a).perform m = .done r m') :
    r = .ok (.code (m.state.claimPlayerResource a).1) ∧ m' = ⟨false, (m.state.claimPlayerResource a).2⟩ := by
  obtain ⟨held, m⟩ := m
  have hpol : m.policy = .reservation := hpol
  cases held with
  | false =>
    rw [perform_claimPlayerResource, if_pos hpol] at h
    cases h
    exact ⟨rfl, rfl⟩
  | true =>
    simp only [ManagerOp.perform, EngineM.claimPlayerResource, Bind.bind, Act.bind, Act.get, Act.onState] at h
    rw [if_neg (not_not.mpr hpol)] at h
    cases h

theorem request_done {body : TTSManager → TTSError × TTSManager}
    (h : EngineM.requestPlayerResource body false m = .done r m') :
    r = .ok (.code (body m.state).1) ∧ m' = ⟨false, (body m.state).2⟩ := by
  obtain ⟨held, m⟩ := m
  have hpol : m.policy = .reservation := hpol
  cases held with
  | false =>
    rw [perform_requestPlayerResource, if_pos hpol] at h
    cases h
    exact ⟨rfl, rfl⟩
  | true =>
    simp only [EngineM.requestPlayerResource, Bind.bind, Act.bind, Act.get, Act.onState] at h
    rw [if_neg (not_not.mpr hpol)] at h
    cases h

theorem givesUp_done {op : ManagerOp} (hop : (EngineCall.manager op).GivesUp m.state a)
    (h : op.perform m = .done r m') : m'.state = op.effect m.state := by
  obtain ⟨held, m⟩ := m
  cases held with
  | false => exact perform_effect h
  | true =>
    cases op with
    | destroySession id => cases h
    | releasePlayerResource b =>
      obtain ⟨-, rfl⟩ := request_done hpol h
      exact (if_pos hpol).symm
    | enableTTS | createSession | setConfiguration | reservePlayerResource | claimPlayerResource | isTTSEnabled
    | listVoices | getConfiguration | isSessionActiveForApp | getResourceAllocationPolicy => cases hop

end

/-- **A claim never loses the reservation.** App `B` claims the player over the
reservation of `A`; then anything may be called that gives up neither app, and
at last `B` is given up. -/
theorem claim_keeps_reservation {m m₁ m₂ m₃ : Monitor TTSManager} {A B : Nat} {op : ManagerOp}
    {r : Except StdException ManagerReply} (hm : (engine .reservation).Reachable m)
    (hA : m.state.reservedApp = A) (hA0 : A ≠ 0) (hc : m.state.claimedApp = 0) (hB : B ≠ A)
    (hclaim : (ManagerOp.claimPlayerResource B).perform m = .done (.ok (.code .ok)) m₁)
    (hrun : (engine .reservation).StepsIf
      (fun m call => ¬ call.GivesUp m.state A ∧ ¬ call.GivesUp m.state B) m₁ m₂)
    (hlast : (EngineCall.manager op).GivesUp m₂.state B) (hend : op.perform m₂ = .done r m₃) :
    m₃.state.claimedApp = 0 ∧ m₃.state.reservedApp = A ∧
      (m₃.state.ttsEnabled = true → ∀ p, m₃.state.Live p → m₃.state.appId p = A →
        m₃.state.activeSession = some p ∧ m₃.state.holds p = true) := by
  have hs := engine_steady hm
  obtain ⟨hok, rfl⟩ := claim_done hs.policy hclaim
  obtain ⟨hB0, hmap⟩ := TTSManager.granted_claim (ManagerReply.code.inj (Except.ok.inj hok)).symm
  obtain ⟨-, hs₁, hcl₁, hres₁⟩ := TTSManager.claim_takes_over hs hB0 hmap hc (by rw [hA]; exact hB.symm)
  -- up to the last call the claim and the reservation stand
  have hI : Steady m₂.state ∧ m₂.state.reservedApp = A ∧ m₂.state.claimedApp = B := by
    apply Machine.StepsIf.invariant ?_ hrun
    · exact ⟨hs₁, hres₁.trans hA, hcl₁⟩
    · intro n call n' hI hcall hstep
      obtain ⟨hs, hr, hc⟩ := hI
      rcases engine_step hstep with rfl | ⟨op, rfl, e⟩ | ⟨p, s, c, -, -, e⟩
      · exact ⟨hs, hr, hc⟩
      · obtain ⟨hr', hc'⟩ := TTSManager.effect_keeps_apps hs.policy (by rw [hr]; exact hA0) (by rw [hc]; exact hB0)
          (by rw [hr]; exact hcall.1) (by rw [hc]; exact hcall.2)
        rw [e]
        exact ⟨TTSManager.effect_steady hs op, hr'.trans hr, hc'.trans hc⟩
      · have hf := TTSManager.sameGrant_callSession n.state p s c
        rw [e]
        exact ⟨hf.steady hs, hf.reservedApp.trans hr, hf.claimedApp.trans hc⟩
  obtain ⟨hs₂, hr₂, hc₂⟩ := hI
  have he := givesUp_done hs₂.policy hlast hend
  obtain ⟨hr₃, hc₃⟩ := TTSManager.effect_ends_claim hs₂.policy (by rw [hc₂]; exact hB0)
    (by rw [hc₂]; exact hlast)
  rw [he]
  refine ⟨hc₃, hr₃.trans hr₂, fun hen p hp happ => ?_⟩
  exact TTSManager.reserved_holds (TTSManager.effect_steady hs₂ op) hc₃ (by rw [hr₃, hr₂]; exact hA0) hen hp
    (by rw [happ, hr₃, hr₂])

/-- While app 8 claims over the reservation of app 7, TTS is disabled, a third app
claims in vain, and TTS is enabled again. -/
theorem claim_keeps_reservation_toggled :
    ∃ m, (engine .reservation).exec ⟨false, .new .new ∅ .reservation 1⟩
        ([.enableTTS true, .createSession 7 "guide" [], .createSession 8 "player" [], .reservePlayerResource 7,
          .claimPlayerResource 8, .enableTTS false, .claimPlayerResource 9, .enableTTS true,
          .destroySession 2].map EngineCall.manager) = some m ∧
      m.state.claimedApp = 0 ∧ m.state.reservedApp = 7 ∧
        (m.state.ttsEnabled = true → ∀ p, m.state.Live p → m.state.appId p = 7 →
          m.state.activeSession = some p ∧ m.state.holds p = true) := by
  refine ⟨_, rfl, ?_⟩
  have hm := Machine.reachable_of_exec (M := engine .reservation) (s := ⟨false, .new .new ∅ .reservation 1⟩)
    ⟨.new, ∅, 1, rfl⟩
    ([.enableTTS true, .createSession 7 "guide" [], .createSession 8 "player" [],
      .reservePlayerResource 7].map EngineCall.manager) rfl
  exact claim_keeps_reservation hm rfl (by decide) rfl (by decide) rfl
    (((Relation.ReflTransGen.refl.tail ⟨.manager (.enableTTS false), ⟨id, id⟩, rfl⟩).tail
      ⟨.manager (.claimPlayerResource 9), ⟨id, id⟩, rfl⟩).tail ⟨.manager (.enableTTS true), ⟨id, id⟩, rfl⟩)
    (show (EngineCall.manager (.destroySession 2)).GivesUp _ 8 from ⟨1, rfl, rfl⟩) rfl

/-! ## What the three requests mean -/

/-- **All or nothing.** In every run a claiming app has an entry, a request that is
granted means what it says, and one that is refused leaves everything as it was. -/
theorem requests_mean_what_they_return {m : Monitor TTSManager} (hm : (engine .reservation).Reachable m) (appId : Nat) :
    (m.state.claimedApp = 0 ∨ m.state.claimedApp ∈ m.state.appMap) ∧
    (∀ e m', (ManagerOp.claimPlayerResource appId).perform m = .done (.ok (.code e)) m' → e ≠ .fail ∧
      (e = .ok → m'.state.ttsEnabled = true →
        ∃ p, m'.state.activeSession = some p ∧ m'.state.appId p = appId)) ∧
    (∀ e m', (ManagerOp.reservePlayerResource appId).perform m = .done (.ok (.code e)) m' →
      e = .ok → m'.state.reservedApp = appId) ∧
    (∀ op ∈ [ManagerOp.claimPlayerResource appId, .reservePlayerResource appId, .releasePlayerResource appId],
      (m.held = false → ∃ e m', op.perform m = .done (.ok (.code e)) m') ∧
      ∀ e m', op.perform m = .done (.ok (.code e)) m' → e ≠ .ok → m'.state = m.state) := by
  have hs := engine_steady hm
  have hpol := hs.policy
  refine ⟨?_, fun e m' h => ?_, fun e m' h hok => ?_, fun op hop => ⟨fun hf => ?_, fun e m' h he => ?_⟩⟩
  · by_cases hc : m.state.claimedApp = 0
    · exact .inl hc
    · exact .inr ((mem_iff_getElem? _ _).mpr (hs.claimed hc))
  · obtain ⟨hr, rfl⟩ := claim_done hpol h
    obtain rfl := ManagerReply.code.inj (Except.ok.inj hr)
    rcases (TTSManager.claim_spec hs appId).2 with ⟨hok, hact⟩ | ⟨hok, hfail, -⟩
    · exact ⟨by simp [hok], fun _ hen => (TTSManager.isActiveApp_iff _ _).mp (hact hen)⟩
    · exact ⟨hfail, fun h => absurd h hok⟩
  · obtain ⟨hr, rfl⟩ := request_done hpol h
    obtain rfl := ManagerReply.code.inj (Except.ok.inj hr)
    exact ((m.state.reserve_spec appId).resolve_right fun h => h.1 hok).2
  · obtain ⟨held, m⟩ := m
    obtain rfl : held = false := hf
    have hpol : m.policy = .reservation := hpol
    simp only [List.mem_cons, List.not_mem_nil, or_false] at hop
    rcases hop with rfl | rfl | rfl
    · exact ⟨_, _, (perform_claimPlayerResource m appId).trans (if_pos hpol)⟩
    · exact ⟨_, _, (perform_requestPlayerResource m _ false).trans (if_pos hpol)⟩
    · exact ⟨_, _, (perform_requestPlayerResource m _ false).trans (if_pos hpol)⟩
  · simp only [List.mem_cons, List.not_mem_nil, or_false] at hop
    rcases hop with rfl | rfl | rfl
    · obtain ⟨hr, rfl⟩ := claim_done hpol h
      obtain rfl := ManagerReply.code.inj (Except.ok.inj hr)
      exact ((TTSManager.claim_spec hs appId).2.resolve_left fun h => he h.1).2.2
    · obtain ⟨hr, rfl⟩ := request_done hpol h
      obtain rfl := ManagerReply.code.inj (Except.ok.inj hr)
      exact ((m.state.reserve_spec appId).resolve_left fun h => he h.1).2
    · obtain ⟨hr, rfl⟩ := request_done hpol h
      obtain rfl := ManagerReply.code.inj (Except.ok.inj hr)
      exact m.state.release_refused appId he

/-- App 7 has the player by a claim, and app 8 asks for it in vain. -/
theorem requests_mean_what_they_return_busy :
    ∃ m m', (engine .reservation).exec ⟨false, .new .new ∅ .reservation 1⟩
        ([.enableTTS true, .createSession 7 "guide" [], .createSession 8 "player" [],
          .claimPlayerResource 7].map EngineCall.manager) = some m ∧
      (ManagerOp.claimPlayerResource 8).perform m = .done (.ok (.code .resourceBusy)) m' ∧
      m.state.claimedApp ∈ m.state.appMap ∧ m'.state = m.state := by
  have h := requests_mean_what_they_return (Machine.reachable_of_exec (M := engine .reservation)
    (s := ⟨false, .new .new ∅ .reservation 1⟩) ⟨.new, ∅, 1, rfl⟩
    ([.enableTTS true, .createSession 7 "guide" [], .createSession 8 "player" [],
      .claimPlayerResource 7].map EngineCall.manager) rfl) 8
  exact ⟨_, _, rfl, rfl, h.1.resolve_left (by decide), (h.2.2.2 _ List.mem_cons_self).2 _ _ rfl (by decide)⟩

end TTS
