import TTS.Transition
import TTS.Registry

/-!
# The grant under the reservation policy

At any time one app owns the player: the claiming one, else the reserving one.
The session of the owner holds the speaker while TTS is enabled, and no other
session does. The operations keep this except in two places: destroying the
session of an app that both claims and reserves, and the wrap of the session
counter onto the id of a live session.
-/

namespace TTS

open Monitor Transition

namespace TTSManager

def expected (m : TTSManager) : Option Nat := if m.ttsEnabled ∧ m.owner ≠ 0 then m.appMap[m.owner]? else none

end TTSManager

structure ExclusiveGrant (m : TTSManager) : Prop where
  sole : ∀ p, m.holds p = true → m.activeSession = some p ∧ m.Live p
  owned : m.ttsEnabled = true →
    ∀ p, m.activeSession = some p ↔ m.owner ≠ 0 ∧ m.Live p ∧ m.appId p = m.owner
  off : m.ttsEnabled = false → m.activeSession = none

/-! ## Runs -/

def ManagerOp.decides : ManagerOp → Bool
  | .enableTTS _ | .createSession _ _ _ | .destroySession _ => true
  | .reservePlayerResource _ | .releasePlayerResource _ | .claimPlayerResource _ => true
  | _ => false

def reservation : Machine (Monitor TTSManager) ManagerOp where
  init m := ∃ configuration others maxFailures, m = ⟨false, .new configuration others .reservation maxFailures⟩
  step m op :=
    if op.decides then
      match op.perform m with
      | .done _ m' => some m'
      | .blocked => none
    else none

/-- Not the session of an app that claims and reserves the player while TTS is
enabled, and not a new session under the id of a live one. -/
def GrantKept (m : Monitor TTSManager) : ManagerOp → Prop
  | .destroySession id => ∀ p, m.state.sessionMap[id]? = some p →
      ¬ (m.state.ttsEnabled = true ∧ m.state.claimedApp ≠ 0 ∧ m.state.claimedApp = m.state.appId p ∧
        m.state.reservedApp = m.state.appId p)
  | .createSession appId _ _ => (∀ p, m.state.Live p → m.state.appId p ≠ appId) →
      m.state.nextSessionId ∉ m.state.sessionMap
  | _ => True

/-! ## The invariant -/

/-- The maps agree, the holder is the active session, and a claiming app is live. -/
structure Standing (m : TTSManager) : Prop where
  registry : Registry m
  policy : m.policy = .reservation
  held : ∀ p, m.holds p = true ↔ m.activeSession = some p
  claimed : m.claimedApp ≠ 0 → ∃ p, m.appMap[m.claimedApp]? = some p

structure Granted (m : TTSManager) : Prop where
  standing : Standing m
  active : m.activeSession = m.expected

theorem TTSManager.expected_congr (m m' : TTSManager) (he : m'.ttsEnabled = m.ttsEnabled)
    (ho : m'.owner = m.owner) (ha : m'.appMap = m.appMap) : m'.expected = m.expected := by
  unfold TTSManager.expected
  rw [he, ho, ha]

theorem SameRegistry.expected {m m' : TTSManager} (h : SameRegistry m m') : m'.expected = m.expected :=
  TTSManager.expected_congr m m' h.ttsEnabled h.owner h.appMap

theorem SameRegistry.standing {m m' : TTSManager} (h : SameRegistry m m') (hs : Standing m)
    (hh : ∀ p, m'.holds p = true ↔ m'.activeSession = some p) : Standing m' := by
  refine ⟨h.registry hs.registry, h.policy.trans hs.policy, hh, ?_⟩
  rw [h.claimedApp, h.appMap]
  exact hs.claimed

namespace TTSManager

theorem expected_eq_some {m : TTSManager} {p : Nat} :
    m.expected = some p ↔ m.ttsEnabled = true ∧ m.owner ≠ 0 ∧ m.appMap[m.owner]? = some p := by
  unfold expected
  by_cases h : m.ttsEnabled ∧ m.owner ≠ 0
  · rw [if_pos h]
    exact ⟨fun hp => ⟨h.1, h.2, hp⟩, fun hp => hp.2.2⟩
  · rw [if_neg h]
    exact ⟨fun hp => (nomatch hp), fun hp => absurd ⟨hp.1, hp.2.1⟩ h⟩

theorem expected_of_disabled {m : TTSManager} (h : m.ttsEnabled = false) : m.expected = none := by
  unfold expected
  rw [if_neg (fun h' => by rw [h] at h'; exact Bool.noConfusion h'.1)]

theorem expected_of_owner_zero {m : TTSManager} (h : m.owner = 0) : m.expected = none := by
  unfold expected
  rw [if_neg (fun h' => h'.2 h)]

theorem owner_of_claimed {m : TTSManager} (h : m.claimedApp ≠ 0) : m.owner = m.claimedApp := if_pos h

theorem owner_of_reserved {m : TTSManager} (h : m.claimedApp = 0) : m.owner = m.reservedApp :=
  if_neg (not_not.mpr h)

theorem expected_set_reserved {m : TTSManager} (h : m.claimedApp ≠ 0) (a : Nat) :
    ({ m with reservedApp := a } : TTSManager).expected = m.expected :=
  expected_congr m { m with reservedApp := a } rfl ((if_pos h).trans (if_pos h).symm) rfl

theorem active_cases {m : TTSManager} (h : Granted m) :
    m.activeSession = none ∨
      ∃ p, m.activeSession = some p ∧ m.ttsEnabled = true ∧ m.owner ≠ 0 ∧ m.appMap[m.owner]? = some p ∧
        m.appId p = m.owner := by
  cases hp : m.activeSession with
  | none => exact .inl rfl
  | some p =>
    obtain ⟨he, ho, ha⟩ := expected_eq_some.mp (h.active.symm.trans hp)
    obtain ⟨id, hid, -⟩ := h.standing.registry.app _ _ ha
    exact .inr ⟨p, rfl, he, ho, ha, appId_of_ids hid⟩

/-! ## Making sessions active and inactive -/

theorem makeReserved_cases (m : TTSManager) :
    (m.expected = none ∧ m.makeReservedOrClaimedSessionActive = m) ∨
      ∃ p, m.expected = some p ∧ m.makeReservedOrClaimedSessionActive = m.makeSessionActive p := by
  unfold makeReservedOrClaimedSessionActive expected
  by_cases he : m.ttsEnabled = true
  · by_cases ho : m.owner ≠ 0
    · rw [if_pos he, if_pos ho, if_pos ⟨he, ho⟩]
      cases hp : m.appMap[m.owner]? with
      | none => exact .inl ⟨rfl, rfl⟩
      | some p => exact .inr ⟨p, rfl, rfl⟩
    · rw [if_pos he, if_neg ho, if_neg (fun h => ho h.2)]
      exact .inl ⟨rfl, rfl⟩
  · rw [if_neg he, if_neg (fun h => he h.1)]
    exact .inl ⟨rfl, rfl⟩

theorem makeSessionActive_active (m : TTSManager) (p : Nat) : (m.makeSessionActive p).activeSession = some p := by
  unfold makeSessionActive
  split
  · rfl
  · rename_i h
    exact not_not.mp h

theorem makeSessionActive_holds {m : TTSManager} {p : Nat} (hh : ∀ q, m.holds q = true ↔ m.activeSession = some q)
    (ha : m.activeSession = none ∨ m.activeSession = some p) (hp : (m.ids p).isSome) (q : Nat) :
    (m.makeSessionActive p).holds q = true ↔ (m.makeSessionActive p).activeSession = some q := by
  rw [makeSessionActive_active]
  unfold makeSessionActive
  split
  · rename_i hne
    have hn : m.activeSession = none := ha.resolve_right hne
    have e : ({ (m.ensurePipeline true).setActive p true with activeSession := some p } : TTSManager).holds q =
        if p = q then (m.ids q).isSome else m.holds q := (m.ensurePipeline true).holds_setActive p true q
    rw [e]
    by_cases hq : p = q
    · rw [if_pos hq, ← hq]
      exact iff_of_true hp rfl
    · rw [if_neg hq, hh q, hn]
      exact iff_of_false (fun h => by cases h) (fun h => hq (Option.some.inj h))
  · rename_i h
    rw [hh q, not_not.mp h]

/-- **Granting.** With nobody active, or the right session already, the owner's
session becomes the one that holds the speaker. -/
theorem makeReserved_granted {m : TTSManager} (hs : Standing m)
    (ha : m.activeSession = none ∨ m.activeSession = m.expected) :
    Granted m.makeReservedOrClaimedSessionActive := by
  have hf := m.sameRegistry_makeReservedOrClaimedSessionActive
  rcases m.makeReserved_cases with ⟨he, hm⟩ | ⟨p, he, hm⟩
  · rw [hm]
    refine ⟨hs, ?_⟩
    rw [he] at ha
    rw [he]
    exact ha.elim id id
  · have hx := hf.expected
    rw [hm] at hf hx ⊢
    rw [he] at ha
    obtain ⟨-, -, hmap⟩ := expected_eq_some.mp he
    obtain ⟨id, hid, -⟩ := hs.registry.app _ _ hmap
    refine ⟨hf.standing hs (makeSessionActive_holds hs.held ha (by rw [hid]; rfl)), ?_⟩
    rw [hx, he]
    exact m.makeSessionActive_active p

theorem makeSessionInActive_active (m : TTSManager) : (m.makeSessionInActive m.activeSession).activeSession = none := by
  unfold makeSessionInActive
  cases h : m.activeSession with
  | none => exact h
  | some p => simp

theorem makeSessionInActive_holds {m : TTSManager} (hh : ∀ q, m.holds q = true ↔ m.activeSession = some q) (q : Nat) :
    (m.makeSessionInActive m.activeSession).holds q = true ↔
      (m.makeSessionInActive m.activeSession).activeSession = some q := by
  rw [makeSessionInActive_active]
  have hn : (m.makeSessionInActive m.activeSession).holds q = false := by
    unfold makeSessionInActive
    cases hp : m.activeSession with
    | none =>
      have := hh q
      rw [hp] at this
      simpa using this
    | some p =>
      simp only [ite_true]
      have e : ({ (m.setInactive p true).ensurePipeline false with activeSession := none } : TTSManager).holds q =
          if p = q then false else m.holds q := m.holds_setInactive p true q
      rw [e]
      by_cases hq : p = q
      · rw [if_pos hq]
      · rw [if_neg hq]
        have := hh q
        rw [hp] at this
        rw [← Bool.not_eq_true, this]
        exact fun h => hq (Option.some.inj h)
  rw [hn]
  exact iff_of_false (fun h => by cases h) (fun h => by cases h)

theorem makeSessionInActive_standing {m : TTSManager} (hs : Standing m) :
    Standing (m.makeSessionInActive m.activeSession) :=
  (m.sameRegistry_makeSessionInActive _).standing hs (makeSessionInActive_holds hs.held)

/-! ## The operations -/

theorem isActiveApp_iff (m : TTSManager) (a : Nat) :
    m.isActiveApp a = true ↔ ∃ p, m.activeSession = some p ∧ m.appId p = a := by
  unfold isActiveApp
  cases m.activeSession with
  | none => exact iff_of_false (fun h => nomatch h) (fun ⟨_, h, _⟩ => nomatch h)
  | some p => simp

theorem enableTTS_granted {m : TTSManager} (h : Granted m) (enable : Bool) : Granted (m.enableTTS enable) := by
  by_cases hne : m.ttsEnabled = enable
  · rw [enableTTS_same hne]
    exact h
  have hs : Standing (m.setEnabled enable) :=
    ⟨⟨h.standing.registry.1, h.standing.registry.2⟩, h.standing.policy, h.standing.held, h.standing.claimed⟩
  rw [enableTTS_reservation h.standing.policy hne]
  cases enable with
  | true =>
    rw [if_pos rfl]
    have hoff : m.ttsEnabled = false := by simpa using hne
    exact makeReserved_granted hs (.inl (h.active.trans (expected_of_disabled hoff)))
  | false =>
    rw [if_neg Bool.false_ne_true]
    refine ⟨makeSessionInActive_standing hs, ?_⟩
    have hact := makeSessionInActive_active (m.setEnabled false)
    have hx := (sameRegistry_makeSessionInActive (m.setEnabled false) m.activeSession).expected
    rw [hx, expected_of_disabled rfl]
    exact hact

theorem reserve_cases (m : TTSManager) (a : Nat) :
    ((a = 0 ∨ m.reservedApp ≠ 0) ∧ (m.reservePlayerResource a).2 = m) ∨
    (a ≠ 0 ∧ m.reservedApp = 0 ∧
      (m.reservePlayerResource a).2 = ({ m with reservedApp := a } : TTSManager).makeReservedOrClaimedSessionActive) := by
  unfold reservePlayerResource
  by_cases h0 : a = 0
  · exact .inl ⟨.inl h0, by rw [if_pos h0]⟩
  rw [if_neg h0]
  by_cases hr : m.reservedApp = 0
  · rw [if_neg (not_not.mpr hr)]
    exact .inr ⟨h0, hr, rfl⟩
  · rw [if_pos hr]
    refine .inl ⟨.inr hr, ?_⟩
    split <;> rfl

theorem reservePlayerResource_granted {m : TTSManager} (h : Granted m) (a : Nat) :
    Granted (m.reservePlayerResource a).2 := by
  rcases m.reserve_cases a with ⟨-, e⟩ | ⟨-, hr, e⟩ <;> rw [e]
  · exact h
  have hs : Standing { m with reservedApp := a } :=
    ⟨⟨h.standing.registry.1, h.standing.registry.2⟩, h.standing.policy, h.standing.held, h.standing.claimed⟩
  refine makeReserved_granted hs ?_
  -- a claim is not touched by the new reservation, and without one nobody owned the player
  by_cases hc : m.claimedApp = 0
  · exact .inl (h.active.trans (expected_of_owner_zero ((owner_of_reserved hc).trans hr)))
  · exact .inr (h.active.trans (expected_set_reserved hc a).symm)

theorem release_cases (m : TTSManager) (a : Nat) :
    ((a = 0 ∨ m.claimedApp ≠ a ∧ m.reservedApp ≠ a) ∧ (m.releasePlayerResource a).2 = m) ∨
    (a ≠ 0 ∧ m.claimedApp = a ∧ m.isActiveApp a = true ∧ m.reservedApp ≠ a ∧
      (m.releasePlayerResource a).2 =
        (({ m with claimedApp := 0 } : TTSManager).makeSessionInActive
          m.activeSession).makeReservedOrClaimedSessionActive) ∨
    (a ≠ 0 ∧ m.claimedApp = a ∧ (m.isActiveApp a = true → m.reservedApp = a) ∧
      (m.releasePlayerResource a).2 = { m with claimedApp := 0 }) ∨
    (a ≠ 0 ∧ m.claimedApp ≠ a ∧ m.reservedApp = a ∧ m.isActiveApp a = true ∧
      (m.releasePlayerResource a).2 = { m.makeSessionInActive m.activeSession with reservedApp := 0 }) ∨
    (a ≠ 0 ∧ m.claimedApp ≠ a ∧ m.reservedApp = a ∧ m.isActiveApp a = false ∧
      (m.releasePlayerResource a).2 = { m with reservedApp := 0 }) := by
  unfold releasePlayerResource
  by_cases h0 : a = 0
  · exact .inl ⟨.inl h0, by rw [if_pos h0]⟩
  rw [if_neg h0]
  by_cases hc : m.claimedApp = a
  · rw [if_pos ⟨hc ▸ h0, hc⟩]
    simp only
    by_cases hn : m.isActiveApp a = true ∧ a ≠ m.reservedApp
    · exact .inr (.inl ⟨h0, hc, hn.1, hn.2.symm, congrArg Prod.snd (if_pos hn)⟩)
    · refine .inr (.inr (.inl ⟨h0, hc, fun h => ?_, congrArg Prod.snd (if_neg hn)⟩))
      by_contra hr
      exact hn ⟨h, fun e => hr e.symm⟩
  rw [if_neg (fun h => hc h.2)]
  by_cases hr : m.reservedApp = a
  · rw [if_pos (hr ▸ h0), if_neg (not_not.mpr hr)]
    cases hact : m.isActiveApp a with
    | true => exact .inr (.inr (.inr (.inl ⟨h0, hc, hr, rfl, rfl⟩)))
    | false => exact .inr (.inr (.inr (.inr ⟨h0, hc, hr, rfl, rfl⟩)))
  · refine .inl ⟨.inr ⟨hc, hr⟩, ?_⟩
    by_cases h : m.reservedApp ≠ 0
    · rw [if_pos h, if_pos hr]
    · rw [if_neg h]

theorem release_reserving_cases (m : TTSManager) {a : Nat} (hr : m.reservedApp ≠ a) (hr0 : m.reservedApp ≠ 0) :
    (m.isActiveApp m.reservedApp = true ∧ (({ m with claimedApp := a } : TTSManager).releasePlayerResource m.reservedApp).2 =
      { ({ m with claimedApp := a } : TTSManager).makeSessionInActive m.activeSession with reservedApp := 0 }) ∨
    (m.isActiveApp m.reservedApp = false ∧ (({ m with claimedApp := a } : TTSManager).releasePlayerResource m.reservedApp).2 =
      { m with claimedApp := a, reservedApp := 0 }) := by
  rcases release_cases { m with claimedApp := a } m.reservedApp with ⟨hx, -⟩ | ⟨-, hx, -⟩ | ⟨-, hx, -⟩ |
    ⟨-, -, -, hact, e⟩ | ⟨-, -, -, hact, e⟩
  · exact absurd rfl (hx.resolve_left hr0).2
  · exact absurd hx.symm hr
  · exact absurd hx.symm hr
  · exact .inl ⟨hact, e⟩
  · exact .inr ⟨hact, e⟩

theorem claim_cases (m : TTSManager) (a : Nat) :
    ((a = 0 ∨ a ∉ m.appMap ∨ m.claimedApp ≠ 0) ∧ (m.claimPlayerResource a).2 = m) ∨
    (a ≠ 0 ∧ a ∈ m.appMap ∧ m.claimedApp = 0 ∧ m.reservedApp = a ∧
      (m.claimPlayerResource a).2 = { m with claimedApp := 0 }) ∨
    (a ≠ 0 ∧ a ∈ m.appMap ∧ m.claimedApp = 0 ∧ m.reservedApp = 0 ∧
      (m.claimPlayerResource a).2 = ({ m with claimedApp := a } : TTSManager).makeReservedOrClaimedSessionActive) ∨
    (a ≠ 0 ∧ a ∈ m.appMap ∧ m.claimedApp = 0 ∧ m.reservedApp ≠ a ∧ m.reservedApp ≠ 0 ∧
      (m.claimPlayerResource a).2 = TTSManager.makeReservedOrClaimedSessionActive
        { (({ m with claimedApp := a } : TTSManager).releasePlayerResource m.reservedApp).2 with
          reservedApp := m.reservedApp }) := by
  unfold claimPlayerResource
  by_cases h0 : a = 0
  · exact .inl ⟨.inl h0, by rw [if_pos h0]⟩
  rw [if_neg h0]
  by_cases hm : a ∉ m.appMap
  · exact .inl ⟨.inr (.inl hm), by rw [if_pos hm]⟩
  rw [if_neg hm]
  have hm : a ∈ m.appMap := not_not.mp hm
  by_cases hc : m.claimedApp ≠ 0
  · rw [if_pos hc]
    refine .inl ⟨.inr (.inr hc), ?_⟩
    split <;> rfl
  rw [if_neg hc]
  have hc : m.claimedApp = 0 := not_not.mp hc
  simp only
  by_cases hr : m.reservedApp = a
  · rw [if_pos ⟨hr ▸ h0, hr⟩]
    exact .inr (.inl ⟨h0, hm, hc, hr, rfl⟩)
  rw [if_neg (fun h => hr h.2)]
  by_cases hr0 : m.reservedApp = 0
  · rw [if_neg (not_not.mpr hr0)]
    exact .inr (.inr (.inl ⟨h0, hm, hc, hr0, rfl⟩))
  · rw [if_pos hr0]
    exact .inr (.inr (.inr ⟨h0, hm, hc, hr, hr0, rfl⟩))

/-- A relation kept by what the requests for the speaker do. -/
structure KeptGrants (R : TTSManager → TTSManager → Prop) : Prop extends Kept true R where
  reservedApp (m : TTSManager) (a : Nat) : R m { m with reservedApp := a }
  claimedApp (m : TTSManager) (a : Nat) : R m { m with claimedApp := a }

section
variable {R : TTSManager → TTSManager → Prop}

theorem KeptGrants.reservePlayerResource (h : KeptGrants R) (m : TTSManager) (a : Nat) :
    R m (m.reservePlayerResource a).2 := by
  rcases m.reserve_cases a with ⟨-, e⟩ | ⟨-, -, e⟩ <;> rw [e]
  · exact h.refl m
  · exact h.trans (h.reservedApp m a) (h.makeReserved _)

theorem KeptGrants.releasePlayerResource (h : KeptGrants R) (m : TTSManager) (a : Nat) :
    R m (m.releasePlayerResource a).2 := by
  rcases m.release_cases a with ⟨-, e⟩ | ⟨-, -, -, -, e⟩ | ⟨-, -, -, e⟩ | ⟨-, -, -, -, e⟩ | ⟨-, -, -, -, e⟩ <;> rw [e]
  · exact h.refl m
  · exact h.trans (h.trans (h.claimedApp m 0) (h.makeSessionInActive _ m.activeSession)) (h.makeReserved _)
  · exact h.claimedApp m 0
  · exact h.trans (h.makeSessionInActive m m.activeSession) (h.reservedApp _ 0)
  · exact h.reservedApp m 0

theorem KeptGrants.claimPlayerResource (h : KeptGrants R) (m : TTSManager) (a : Nat) :
    R m (m.claimPlayerResource a).2 := by
  rcases m.claim_cases a with ⟨-, e⟩ | ⟨-, -, -, -, e⟩ | ⟨-, -, -, -, e⟩ | ⟨-, -, -, -, -, e⟩ <;> rw [e]
  · exact h.refl m
  · exact h.claimedApp m 0
  · exact h.trans (h.claimedApp m a) (h.makeReserved _)
  · -- the owner of the reservation loses the speaker, not the reservation
    have hreleased := h.trans (h.claimedApp m a) (h.releasePlayerResource _ m.reservedApp)
    exact h.trans (h.trans hreleased (h.reservedApp _ m.reservedApp)) (h.makeReserved _)

theorem destroySession_kept (m : TTSManager) (id : Nat) (hreserved : m.policy = .reservation → KeptGrants R)
    (hopen : m.policy ≠ .reservation → Kept false R) (hleave : ∀ (m' : TTSManager) (p : Nat), R m' (m'.leaveMaps id p))
    (hclose : ∀ m' : TTSManager, R m' (m'.closeConnection id)) : R m (m.destroySession id).2 := by
  have hclosed : ∀ {notify : Bool}, Kept notify R → ∀ (m' : TTSManager) (p : Nat), R m m' →
      R m ((m'.leaveMaps id p).closeSession id) := by
    intro notify h m' p hm
    have hrest := h.trans (h.trans hm (hleave m' p)) (hclose _)
    unfold closeSession
    split
    · exact h.trans hrest (h.ensurePipeline _ false)
    · exact hrest
  by_cases hpol : m.policy = .reservation
  · have h := hreserved hpol
    cases hp : m.sessionMap[id]? with
    | none =>
      rw [destroySession_of_unknown hp]
      exact h.refl m
    | some p =>
      rw [destroySession_of_known hp, if_pos hpol]
      exact hclosed h.toKept _ p (h.releasePlayerResource m _)
  · have h := hopen hpol
    cases hp : m.sessionMap[id]? with
    | none =>
      rw [destroySession_of_unknown hp]
      exact h.refl m
    | some p =>
      rw [destroySession_of_known hp, if_neg hpol]
      exact hclosed h _ p (h.setInactive m p)

end

theorem isActiveApp_of_owner {m : TTSManager} (h : Granted m) {p : Nat} (ho : m.owner ≠ 0)
    (hp : m.appMap[m.owner]? = some p) (he : m.ttsEnabled = true) : m.isActiveApp m.owner = true := by
  obtain ⟨id, hid, -⟩ := h.standing.registry.app _ _ hp
  exact (m.isActiveApp_iff _).mpr ⟨p, h.active.trans (expected_eq_some.mpr ⟨he, ho, hp⟩), appId_of_ids hid⟩

theorem owner_of_isActiveApp {m : TTSManager} (h : Granted m) {a : Nat} (ha : m.isActiveApp a = true) :
    m.owner = a := by
  obtain ⟨p, hp, happ⟩ := (m.isActiveApp_iff a).mp ha
  rcases active_cases h with hnone | ⟨q, hq, -, -, -, hqa⟩
  · rw [hnone] at hp
    cases hp
  · rw [hp] at hq
    obtain rfl := Option.some.inj hq
    exact hqa.symm.trans happ

theorem none_of_not_isActiveApp {m : TTSManager} (h : Granted m) (hn : m.isActiveApp m.owner = false) :
    m.activeSession = none := by
  rcases active_cases h with hnone | ⟨p, -, he, ho, hp, -⟩
  · exact hnone
  · rw [isActiveApp_of_owner h ho hp he] at hn
    cases hn

theorem granted_of_active {m : TTSManager} (hs : Standing m) (h : m.activeSession = none) (he : m.expected = none) :
    Granted m := ⟨hs, h.trans he.symm⟩

theorem releasePlayerResource_granted {m : TTSManager} (h : Granted m) (a : Nat) :
    Granted (m.releasePlayerResource a).2 := by
  obtain ⟨⟨hreg, hpol, hheld, hclaim⟩, hact⟩ := h
  have h : Granted m := ⟨⟨hreg, hpol, hheld, hclaim⟩, hact⟩
  have hreg' : Registry { m with claimedApp := 0 } := ⟨hreg.1, hreg.2⟩
  rcases m.release_cases a with ⟨-, e⟩ | ⟨h0, hc, ha, hr, e⟩ | ⟨h0, hc, ha, e⟩ | ⟨h0, hc, hr, ha, e⟩ |
    ⟨h0, hc, hr, ha, e⟩
  · rw [e]
    exact h
  · rw [e]
    have hs : Standing { m with claimedApp := 0 } := ⟨hreg', hpol, hheld, fun h => absurd rfl h⟩
    exact makeReserved_granted (makeSessionInActive_standing hs) (.inl (makeSessionInActive_active _))
  · rw [e]
    refine ⟨⟨hreg', hpol, hheld, fun h => absurd rfl h⟩, ?_⟩
    have howner : m.owner = a := (owner_of_claimed (hc ▸ h0)).trans hc
    obtain ⟨p, hp⟩ := hclaim (hc ▸ h0)
    rw [hc, ← howner] at hp
    by_cases he : m.ttsEnabled = true
    · -- the claiming app is active, so it is the reserving one and stays the owner
      have hr := ha (howner ▸ isActiveApp_of_owner h (howner ▸ h0) hp he)
      have hown : ({ m with claimedApp := 0 } : TTSManager).owner = m.owner := hr.trans howner.symm
      exact hact.trans (expected_congr m { m with claimedApp := 0 } rfl hown rfl).symm
    · have hoff : m.ttsEnabled = false := by simpa using he
      have hnone : m.activeSession = none := hact.trans (expected_of_disabled hoff)
      exact hnone.trans (expected_of_disabled (m := { m with claimedApp := 0 }) hoff).symm
  · rw [e]
    have hs := makeSessionInActive_standing h.standing
    have hcl : m.claimedApp = 0 := by
      by_contra hcl
      exact hc ((owner_of_claimed hcl).symm.trans (owner_of_isActiveApp h ha))
    have hf := (m.sameRegistry_makeSessionInActive m.activeSession).claimedApp
    refine granted_of_active ⟨⟨hs.registry.1, hs.registry.2⟩, hs.policy, hs.held, hs.claimed⟩
      (makeSessionInActive_active m) (expected_of_owner_zero ?_)
    exact owner_of_reserved (hf.trans hcl)
  · rw [e]
    refine ⟨⟨⟨hreg.1, hreg.2⟩, hpol, hheld, hclaim⟩, ?_⟩
    by_cases hcl : m.claimedApp = 0
    · -- without a claim the reserving app was the owner, and it was not active
      have hown : m.owner = a := (owner_of_reserved hcl).trans hr
      have hnone : m.activeSession = none := none_of_not_isActiveApp h (hown ▸ ha)
      have hzero : ({ m with reservedApp := 0 } : TTSManager).owner = 0 := if_neg (not_not.mpr hcl)
      exact hnone.trans (expected_of_owner_zero hzero).symm
    · exact hact.trans (expected_set_reserved hcl 0).symm

theorem claimPlayerResource_granted {m : TTSManager} (h : Granted m) (a : Nat) :
    Granted (m.claimPlayerResource a).2 := by
  obtain ⟨⟨hreg, hpol, hheld, -⟩, hact⟩ := id h
  have hs : a ∈ m.appMap → Standing { m with claimedApp := a } := fun hm =>
    ⟨⟨hreg.1, hreg.2⟩, hpol, hheld, fun _ => (mem_iff_getElem? _ _).mp hm⟩
  rcases m.claim_cases a with ⟨-, e⟩ | ⟨-, -, hc, hr, e⟩ | ⟨-, hm, hc, hr0, e⟩ | ⟨-, hm, hc, hr, hr0, e⟩ <;> rw [e]
  · exact h
  · -- the claim of the reserving app is taken back
    have he : ({ m with claimedApp := 0 } : TTSManager).owner = m.owner := (owner_of_reserved hc).symm
    exact ⟨⟨⟨hreg.1, hreg.2⟩, hpol, hheld, fun h => absurd rfl h⟩,
      hact.trans (expected_congr m { m with claimedApp := 0 } rfl he rfl).symm⟩
  · exact makeReserved_granted (hs hm) (.inl (hact.trans (expected_of_owner_zero ((owner_of_reserved hc).trans hr0))))
  · -- the reserving app was the owner: it is released and its reservation kept
    rcases m.release_reserving_cases hr hr0 with ⟨-, e⟩ | ⟨hna, e⟩ <;> rw [e]
    · have hs' := makeSessionInActive_standing (hs hm)
      exact makeReserved_granted ⟨⟨hs'.registry.1, hs'.registry.2⟩, hs'.policy, hs'.held, hs'.claimed⟩
        (.inl (makeSessionInActive_active { m with claimedApp := a }))
    · have hnone : m.activeSession = none := none_of_not_isActiveApp h (owner_of_reserved hc ▸ hna)
      exact makeReserved_granted ⟨⟨hreg.1, hreg.2⟩, hpol, hheld, (hs hm).claimed⟩ (.inl hnone)

theorem SameRegistry.granted {m m' : TTSManager} (h : SameRegistry m m') (hh : ∀ p, m'.holds p = m.holds p)
    (ha : m'.activeSession = m.activeSession) (hg : Granted m) : Granted m' := by
  refine ⟨h.standing hg.standing fun p => ?_, ?_⟩
  · rw [hh, ha]
    exact hg.standing.held p
  · rw [ha, h.expected]
    exact hg.active

theorem addSession_granted {m : TTSManager} (h : Granted m) {a : Nat} (n : String)
    (hno : ∀ p, m.Live p → m.appId p ≠ a) (hfresh : m.nextSessionId ∉ m.sessionMap) :
    Granted (m.addSession a n) := by
  obtain ⟨⟨hreg, hpol, hheld, hclaim⟩, hact⟩ := id h
  have happ : m.appMap[a]? = none := by
    cases hp : m.appMap[a]? with
    | none => rfl
    | some p =>
      obtain ⟨id, hid, hs⟩ := hreg.app a p hp
      exact absurd (appId_of_ids hid) (hno p ⟨id, hs⟩)
  have hmap : ∀ b : Nat, (m.enterSession a n).appMap[b]? = if a = b then some m.objects.length else m.appMap[b]? :=
    fun b => getElem?_insert _ _ _ _
  have hlt : ∀ p, m.activeSession = some p → p ≠ m.objects.length := by
    intro p hp
    obtain ⟨-, -, hp⟩ := expected_eq_some.mp (hact.symm.trans hp)
    obtain ⟨id, hid, -⟩ := hreg.app _ _ hp
    exact Nat.ne_of_lt (lt_of_ids hid)
  have hs : Standing (m.enterSession a n) := by
    refine ⟨enterSession_registry hreg n hno hfresh, hpol, fun p => ?_, fun hc => ?_⟩
    · show _ ↔ m.activeSession = some p
      rw [holds_enterSession]
      by_cases hp : p = m.objects.length
      · rw [if_pos hp]
        exact iff_of_false (fun h => nomatch h) (fun h => hlt p h hp)
      · rw [if_neg hp]
        exact hheld p
    · obtain ⟨p, hp⟩ := hclaim hc
      have hne : a ≠ m.claimedApp := by
        intro e
        rw [← e, happ] at hp
        cases hp
      exact ⟨p, (hmap _).trans ((if_neg hne).trans hp)⟩
  rw [addSession_reservation hpol]
  refine makeReserved_granted hs ?_
  -- if the new session's app owns the player, the owner had no session before
  show m.activeSession = none ∨ m.activeSession = _
  by_cases ho : a = m.owner
  · left
    rcases active_cases h with hnone | ⟨p, -, -, -, hp, -⟩
    · exact hnone
    · rw [← ho, happ] at hp
      cases hp
  · right
    rw [hact]
    unfold expected
    show _ = if m.ttsEnabled = true ∧ m.owner ≠ 0 then (m.enterSession a n).appMap[m.owner]? else none
    rw [hmap, if_neg ho]

theorem createSession_granted {m : TTSManager} (h : Granted m) {a : Nat} (n : String) (keys : List String)
    (hfresh : (∀ p, m.Live p → m.appId p ≠ a) → m.nextSessionId ∉ m.sessionMap) :
    Granted (m.createSession a n).2 ∧
      ∀ p, Granted ((m.createSession a n).2.installCallbacks p keys) := by
  have hg : Granted (m.createSession a n).2 := by
    rcases m.createSession_cases a n with e | ⟨hno, e⟩
    · rw [e]
      exact h
    · rw [e]
      exact addSession_granted h n hno (hfresh hno)
  exact ⟨hg, fun p => SameRegistry.granted (sameRegistry_installCallbacks _ p keys)
    (holds_installCallbacks _ p keys) rfl hg⟩

theorem release_registry (m : TTSManager) (a : Nat) :
    (m.releasePlayerResource a).2.sessionMap = m.sessionMap ∧ (m.releasePlayerResource a).2.appMap = m.appMap ∧
      (m.releasePlayerResource a).2.ttsEnabled = m.ttsEnabled ∧
      ∀ p, (m.releasePlayerResource a).2.ids p = m.ids p := by
  rcases m.release_cases a with ⟨-, e⟩ | ⟨-, -, -, -, e⟩ | ⟨-, -, -, e⟩ | ⟨-, -, -, -, e⟩ | ⟨-, -, -, -, e⟩
  · rw [e]
    exact ⟨rfl, rfl, rfl, fun _ => rfl⟩
  · rw [e]
    have h := (sameRegistry_makeSessionInActive { m with claimedApp := 0 } m.activeSession).trans
      (sameRegistry_makeReservedOrClaimedSessionActive _)
    exact ⟨h.sessionMap, h.appMap, h.ttsEnabled, h.ids⟩
  · rw [e]
    exact ⟨rfl, rfl, rfl, fun _ => rfl⟩
  · rw [e]
    have h := m.sameRegistry_makeSessionInActive m.activeSession
    exact ⟨h.sessionMap, h.appMap, h.ttsEnabled, h.ids⟩
  · rw [e]
    exact ⟨rfl, rfl, rfl, fun _ => rfl⟩

theorem release_owner {m : TTSManager} {a : Nat} (h0 : a ≠ 0)
    (hk : ¬ (m.ttsEnabled = true ∧ m.claimedApp ≠ 0 ∧ m.claimedApp = a ∧ m.reservedApp = a)) :
    (m.releasePlayerResource a).2.claimedApp ≠ a ∧
      (m.ttsEnabled = true → (m.releasePlayerResource a).2.owner ≠ a) := by
  have hz : (0 : Nat) ≠ a := fun e => h0 e.symm
  rcases m.release_cases a with ⟨hx, e⟩ | ⟨-, -, -, hr, e⟩ | ⟨-, hc, -, e⟩ | ⟨-, hc, -, -, e⟩ | ⟨-, hc, -, -, e⟩
  · rw [e]
    obtain ⟨hc, hr⟩ := hx.resolve_left h0
    refine ⟨hc, fun _ => ?_⟩
    unfold owner
    split
    · exact hc
    · exact hr
  · rw [e]
    have h := (sameRegistry_makeSessionInActive { m with claimedApp := 0 } m.activeSession).trans
      (sameRegistry_makeReservedOrClaimedSessionActive _)
    rw [h.claimedApp, h.owner]
    exact ⟨hz, fun _ => hr⟩
  · rw [e]
    exact ⟨hz, fun he hr => hk ⟨he, hc ▸ h0, hc, hr⟩⟩
  · rw [e]
    have h := m.sameRegistry_makeSessionInActive m.activeSession
    have hc' : (m.makeSessionInActive m.activeSession).claimedApp ≠ a := by rw [h.claimedApp]; exact hc
    refine ⟨hc', fun _ => ?_⟩
    unfold owner
    split
    · exact hc'
    · exact hz
  · rw [e]
    refine ⟨hc, fun _ => ?_⟩
    unfold owner
    split
    · exact hc
    · exact hz

theorem erase_granted {m : TTSManager} (h : Granted m) {a id p : Nat} (hids : m.ids p = some (a, id))
    (hs : m.sessionMap[id]? = some p) (hm : m.appMap[a]? = some p) (hc : m.claimedApp ≠ 0 → m.claimedApp ≠ a)
    (ho : m.ttsEnabled = true → m.owner ≠ 0 → m.owner ≠ a) :
    Granted { m with sessionMap := m.sessionMap.erase id, appMap := m.appMap.erase a } := by
  obtain ⟨⟨hreg, hpol, hheld, hclaim⟩, hact⟩ := h
  refine ⟨⟨erase_registry hreg hids hs hm, hpol, hheld, fun h0 => ?_⟩, hact.trans ?_⟩
  · obtain ⟨q, hq⟩ := hclaim h0
    exact ⟨q, by rw [getElem?_erase, if_neg (hc h0).symm]; exact hq⟩
  · unfold expected
    show _ = if m.ttsEnabled = true ∧ m.owner ≠ 0 then (m.appMap.erase a)[m.owner]? else none
    split
    · rename_i h
      rw [getElem?_erase, if_neg (ho h.1 h.2).symm]
    · rfl

theorem destroySession_granted {m : TTSManager} (h : Granted m) (id : Nat)
    (hk : ∀ p, m.sessionMap[id]? = some p →
      ¬ (m.ttsEnabled = true ∧ m.claimedApp ≠ 0 ∧ m.claimedApp = m.appId p ∧ m.reservedApp = m.appId p)) :
    Granted (m.destroySession id).2 := by
  cases hp : m.sessionMap[id]? with
  | none =>
    rw [destroySession_of_unknown hp]
    exact h
  | some p =>
    obtain ⟨a, hids, hm⟩ := h.standing.registry.session id p hp
    have happ : m.appId p = a := appId_of_ids hids
    have hk := hk p hp
    rw [happ] at hk
    have hrel := releasePlayerResource_granted h a
    obtain ⟨hsm, ham, hen, hid⟩ := m.release_registry a
    have hids' := (hid p).trans hids
    have hg : Granted ((m.releasePlayerResource a).2.leaveMaps id p) := by
      unfold leaveMaps
      rw [appId_of_ids hids']
      refine erase_granted hrel hids' (hsm ▸ hp) (ham ▸ hm) (fun h0 e => ?_) (fun he h0 e => ?_)
      · exact (release_owner (e ▸ h0) hk).1 e
      · exact (release_owner (e ▸ h0) hk).2 (hen ▸ he) e
    rw [destroySession_of_known hp, if_pos h.standing.policy, happ]
    exact SameRegistry.granted (sameRegistry_closeSession _ id) (holds_closeSession _ id)
      (activeSession_closeSession _ id) hg

theorem exclusiveGrant_of_granted {m : TTSManager} (h : Granted m) : ExclusiveGrant m := by
  refine ⟨fun p hp => ?_, fun he p => ⟨fun hp => ?_, fun ⟨h0, hl, ha⟩ => ?_⟩, fun he => ?_⟩
  · have hp := (h.standing.held p).mp hp
    obtain ⟨-, -, hm⟩ := expected_eq_some.mp (h.active.symm.trans hp)
    obtain ⟨id, -, hs⟩ := h.standing.registry.app _ _ hm
    exact ⟨hp, id, hs⟩
  · obtain ⟨-, h0, hm⟩ := expected_eq_some.mp (h.active.symm.trans hp)
    obtain ⟨id, hid, hs⟩ := h.standing.registry.app _ _ hm
    exact ⟨h0, ⟨id, hs⟩, appId_of_ids hid⟩
  · rw [h.active, expected_eq_some]
    exact ⟨he, h0, ha ▸ live_appId h.standing.registry hl⟩
  · exact h.active.trans (expected_of_disabled he)

end TTSManager

/-! ## The run -/

theorem reservation_step {m m' : Monitor TTSManager} {op : ManagerOp} (hf : m.held = false)
    (hg : Granted m.state) (hk : GrantKept m op) (hs : reservation.step m op = some m') :
    m'.held = false ∧ Granted m'.state := by
  obtain ⟨held, m⟩ := m
  simp only at hf hg
  subst hf
  have hpol := hg.standing.policy
  cases op with
  | enableTTS enable =>
    obtain rfl := Option.some.inj hs
    exact ⟨rfl, TTSManager.enableTTS_granted hg enable⟩
  | destroySession id =>
    obtain rfl := Option.some.inj hs
    exact ⟨rfl, TTSManager.destroySession_granted hg id hk⟩
  | createSession a n keys =>
    obtain ⟨h, hi⟩ := TTSManager.createSession_granted hg n keys hk
    simp only [reservation, ManagerOp.decides, ite_true, perform_createSession] at hs
    obtain rfl := Option.some.inj hs
    refine ⟨rfl, ?_⟩
    cases (m.createSession a n).1.session with
    | none => exact h
    | some p => exact hi p
  | reservePlayerResource a =>
    have e := perform_requestPlayerResource m (fun m => m.reservePlayerResource a) false
    rw [if_pos hpol] at e
    simp only [reservation, ManagerOp.decides, ite_true, ManagerOp.perform, EngineM.reservePlayerResource, e] at hs
    obtain rfl := Option.some.inj hs
    exact ⟨rfl, TTSManager.reservePlayerResource_granted hg a⟩
  | releasePlayerResource a =>
    have e := perform_requestPlayerResource m (fun m => m.releasePlayerResource a) false
    rw [if_pos hpol] at e
    simp only [reservation, ManagerOp.decides, ite_true, ManagerOp.perform, EngineM.releasePlayerResource, e] at hs
    obtain rfl := Option.some.inj hs
    exact ⟨rfl, TTSManager.releasePlayerResource_granted hg a⟩
  | claimPlayerResource a =>
    have e := perform_claimPlayerResource m a
    rw [if_pos hpol] at e
    simp only [reservation, ManagerOp.decides, ite_true, e] at hs
    obtain rfl := Option.some.inj hs
    exact ⟨rfl, TTSManager.claimPlayerResource_granted hg a⟩
  | isTTSEnabled | listVoices | setConfiguration | getConfiguration | isSessionActiveForApp
  | getResourceAllocationPolicy => cases hs

/-- **One app, one holder.** In every run that keeps to `GrantKept`, the
speaker is held by the owner's live session and by no other. -/
theorem reservation_exclusive {m : Monitor TTSManager} (h : reservation.ReachableIf GrantKept m) :
    ExclusiveGrant m.state := by
  have hI : m.held = false ∧ Granted m.state := by
    refine Machine.ReachableIf.invariant (I := fun m => m.held = false ∧ Granted m.state) ?_ ?_ h
    · rintro _ ⟨configuration, others, maxFailures, rfl⟩
      refine ⟨rfl, ⟨⟨fun id p hp => ?_, fun a p hp => ?_⟩, rfl, fun p => ?_, fun hc => absurd rfl hc⟩, rfl⟩
      · exact absurd hp (by simp [TTSManager.new, TTSManager.setResourceAllocationPolicy])
      · exact absurd hp (by simp [TTSManager.new, TTSManager.setResourceAllocationPolicy])
      · simp [TTSManager.new, TTSManager.setResourceAllocationPolicy, TTSManager.holds]
    · rintro m op m' ⟨hf, hg⟩ hk hs
      exact reservation_step hf hg hk hs
  exact TTSManager.exclusiveGrant_of_granted hI.2

/-- One app claims over the other's reservation. -/
theorem reservation_exclusive_claim :
    ∃ m, reservation.exec ⟨false, .new .new ∅ .reservation 1⟩
        [.enableTTS true, .createSession 7 "guide" [], .createSession 8 "player" [], .reservePlayerResource 7,
          .claimPlayerResource 8] = some m ∧
      m.state.activeSession = some 1 ∧ ExclusiveGrant m.state := by
  refine ⟨_, rfl, rfl, ?_⟩
  have h0 : reservation.ReachableIf GrantKept ⟨false, .new .new ∅ .reservation 1⟩ := .init ⟨.new, ∅, 1, rfl⟩
  have h1 := h0.step (a := ManagerOp.enableTTS true) trivial rfl
  have h2 := h1.step (a := ManagerOp.createSession 7 "guide" []) (fun _ => by decide) rfl
  have h3 := h2.step (a := ManagerOp.createSession 8 "player" []) (fun _ => by decide) rfl
  have h4 := h3.step (a := ManagerOp.reservePlayerResource 7) trivial rfl
  exact reservation_exclusive (h4.step (a := ManagerOp.claimPlayerResource 8) trivial rfl)

/-- An app claims, then reserves the player, and its session is destroyed: the
session still holds the speaker and is the active one, in neither map. -/
theorem reservation_destroys_holder :
    ∃ m, reservation.Reachable m ∧ ¬ ExclusiveGrant m.state := by
  refine ⟨_, Machine.reachable_of_exec (s := ⟨false, .new .new ∅ .reservation 1⟩) ⟨.new, ∅, 1, rfl⟩
    [.enableTTS true, .createSession 7 "guide" [], .claimPlayerResource 7, .reservePlayerResource 7,
      .destroySession 1] rfl, ?_⟩
  intro h
  obtain ⟨-, id, hid⟩ := h.sole 0 (by decide)
  rw [Std.TreeMap.getElem?_of_isEmpty (by decide)] at hid
  cases hid

end TTS
