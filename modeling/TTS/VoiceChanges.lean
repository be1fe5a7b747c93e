import Mathlib.Data.List.Chain
import TTS.ManagerFrames

/-!
# Announced voices

`voice_changed` tells the clients of the engine's voice, which only
`setConfiguration` changes. Its early return for a string that cannot be read
leaves without an announcement, and with the mutex held.
-/

namespace TTS

open Monitor

def Event.voice (e : Event) : Option Text :=
  if e.name = "voice_changed" then
    match e.props.lookup "voice" with
    | some (.str s) => some s.toList
    | _ => none
  else none

theorem Event.voice_changed (v : Text) :
    ((Event.new "voice_changed").set "voice" (.str (String.ofList v))).voice = some v := by
  simp [Event.voice, Event.new, Event.set]

namespace TTSManager

/-- The voices that the clients have been told of. -/
def announcedVoices (m : TTSManager) : List Text := m.events.filterMap Event.voice

/-- Neither the voice nor what the clients know of it changes. -/
structure SameVoice (m m' : TTSManager) : Prop where
  defaultConfiguration : m'.defaultConfiguration = m.defaultConfiguration
  others : m'.others = m.others
  announced : m'.announcedVoices = m.announcedVoices

theorem SameVoice.refl (m : TTSManager) : SameVoice m m := ⟨rfl, rfl, rfl⟩

theorem SameVoice.trans {m m' m'' : TTSManager} (h : SameVoice m m') (h' : SameVoice m' m'') : SameVoice m m'' :=
  ⟨h'.defaultConfiguration.trans h.defaultConfiguration, h'.others.trans h.others, h'.announced.trans h.announced⟩

theorem SameVoice.voice_eq {m m' : TTSManager} (h : SameVoice m m') : m'.voice = m.voice := by
  unfold voice
  rw [h.defaultConfiguration, h.others]

theorem sameVoice_kept (notify : Bool) : Kept notify SameVoice where
  refl := .refl
  trans := .trans
  ensurePipeline _ _ := ⟨rfl, rfl, rfl⟩
  activeSession _ _ := ⟨rfl, rfl, rfl⟩
  setActive _ _ := ⟨rfl, rfl, rfl⟩
  setInactive _ _ := ⟨rfl, rfl, rfl⟩

theorem sameVoice_keptGrants : KeptGrants SameVoice where
  toKept := sameVoice_kept true
  reservedApp _ _ := ⟨rfl, rfl, rfl⟩
  claimedApp _ _ := ⟨rfl, rfl, rfl⟩

theorem sameVoice_enableTTS (m : TTSManager) (enable : Bool) : SameVoice m (m.enableTTS enable) := by
  by_cases hne : m.ttsEnabled = enable
  · rw [enableTTS_same hne]
    exact .refl m
  have hset : SameVoice m (m.setEnabled enable) := by
    refine ⟨rfl, rfl, ?_⟩
    show (m.events ++ [_]).filterMap Event.voice = _
    rw [List.filterMap_append]
    exact List.append_nil _
  exact hset.trans (enableTTS_kept hne (fun _ => sameVoice_kept true) fun _ => sameVoice_kept false)

theorem sameVoice_createSession (m : TTSManager) (a : Nat) (n : String) (keys : List String) :
    SameVoice m (ManagerOp.effect m (.createSession a n keys)) := by
  simp only [ManagerOp.effect]
  rcases m.createSession_cases a n with e | ⟨-, e⟩
  · rw [e]
    exact .refl m
  · rw [e]
    have hadd : SameVoice (m.enterSession a n) (m.addSession a n) :=
      m.addSession_kept a n (fun _ => (sameVoice_kept true).toKeptActive) fun _ => (sameVoice_kept false).toKeptActive
    exact ⟨hadd.defaultConfiguration, hadd.others, hadd.announced⟩

theorem sameVoice_destroySession (m : TTSManager) (id : Nat) : SameVoice m (m.destroySession id).2 := by
  cases hp : m.sessionMap[id]? with
  | none =>
    rw [destroySession_of_unknown hp]
    exact .refl m
  | some p =>
    rw [destroySession_of_known hp]
    have hclose : ∀ m : TTSManager, SameVoice m (m.closeSession id) := by
      intro m
      have hconnection : SameVoice m (m.closeConnection id) := by
        unfold closeConnection
        split <;> exact ⟨rfl, rfl, rfl⟩
      unfold closeSession
      split
      · exact hconnection.trans ((sameVoice_kept true).ensurePipeline _ false)
      · exact hconnection
    refine SameVoice.trans ?_ (hclose _)
    split
    · have h := sameVoice_keptGrants.releasePlayerResource m (m.appId p)
      exact ⟨h.defaultConfiguration, h.others, h.announced⟩
    · exact ⟨rfl, rfl, rfl⟩

theorem sameVoice_callSession (m : TTSManager) (p : Nat) (s : TTSSession) (c : SessionCall) :
    SameVoice m (m.callSession p s c).2 := by
  cases c with
  | speak id text secure =>
    simp only [callSession]
    split <;> exact ⟨rfl, rfl, rfl⟩
  | abortAndClearPending | setPreemptiveSpeak | requestExtendedEvents => exact ⟨rfl, rfl, rfl⟩

theorem sameVoice_effect (m : TTSManager) (op : ManagerOp) (hop : ∀ configuration, op ≠ .setConfiguration configuration) :
    SameVoice m (op.effect m) := by
  cases op with
  | setConfiguration configuration => exact absurd rfl (hop configuration)
  | createSession a n keys => exact m.sameVoice_createSession a n keys
  | destroySession id => exact m.sameVoice_destroySession id
  | enableTTS enable => exact m.sameVoice_enableTTS enable
  | reservePlayerResource a =>
    simp only [ManagerOp.effect]
    split
    · exact sameVoice_keptGrants.reservePlayerResource m a
    · exact .refl m
  | releasePlayerResource a =>
    simp only [ManagerOp.effect]
    split
    · exact sameVoice_keptGrants.releasePlayerResource m a
    · exact .refl m
  | claimPlayerResource a =>
    simp only [ManagerOp.effect]
    split
    · exact sameVoice_keptGrants.claimPlayerResource m a
    · exact .refl m
  | isTTSEnabled | listVoices | getConfiguration | isSessionActiveForApp | getResourceAllocationPolicy => exact .refl m

/-! ## Setting the configuration -/

/-- From `v` on each voice told of is another than the one before, the last one the engine's. -/
structure Voiced (v : Text) (m : TTSManager) : Prop where
  changes : (v :: m.announcedVoices).IsChain (· ≠ ·)
  last : (v :: m.announcedVoices).getLast? = some m.voice

theorem Voiced.same {v : Text} {m m' : TTSManager} (h : Voiced v m) (hs : SameVoice m m') : Voiced v m' := by
  refine ⟨?_, ?_⟩
  · rw [hs.announced]
    exact h.changes
  · rw [hs.announced, hs.voice_eq]
    exact h.last

/-- `announceVoice` tells of the new voice where it is another than the old one. -/
theorem Voiced.announce {v : Text} {m m' : TTSManager} (h : Voiced v m) (ha : m'.announcedVoices = m.announcedVoices) :
    Voiced v (m'.announceVoice m.voice) := by
  unfold announceVoice
  split
  · rename_i hne
    have hnew : (m'.sendEvent ((Event.new "voice_changed").set "voice" (.str (String.ofList m'.voice)))).announcedVoices =
        m.announcedVoices ++ [m'.voice] := by
      rw [← ha]
      show (m'.events ++ [_]).filterMap Event.voice = _
      rw [List.filterMap_append, List.filterMap_cons_some (Event.voice_changed m'.voice)]
      rfl
    refine ⟨?_, ?_⟩
    · rw [hnew, ← List.cons_append]
      refine h.changes.append (.singleton _) fun x hx y hy => ?_
      rw [h.last] at hx
      obtain rfl := Option.some.inj hx
      obtain rfl := Option.some.inj hy
      exact hne
    · rw [hnew, ← List.cons_append, List.getLast?_append]
      rfl
  · rename_i heq
    refine ⟨ha ▸ h.changes, ?_⟩
    rw [ha, h.last, not_not.mp heq]

/-- A configuration that is read is announced; one that is not leaves the mutex held. -/
theorem voiced_setConfiguration {v : Text} {m : TTSManager} {m' : Monitor TTSManager} {configuration : Text}
    {r : Except StdException ManagerReply} (h : Voiced v m)
    (hd : (ManagerOp.setConfiguration configuration).perform ⟨false, m⟩ = .done r m') :
    (v :: m'.state.announcedVoices).IsChain (· ≠ ·) ∧ (m'.held = false → Voiced v m'.state) := by
  by_cases hread : (m.defaultConfiguration.fromString configuration ',').1 = .ok true
  · rw [perform_setConfiguration hread] at hd
    cases hd
    have hvoiced : Voiced v ((({ m with
        defaultConfiguration := (m.defaultConfiguration.fromString configuration ',').2
        } : TTSManager).passConfiguration).announceVoice m.voice) := h.announce rfl
    exact ⟨hvoiced.changes, fun _ => hvoiced⟩
  · obtain ⟨r', hu⟩ := perform_setConfiguration_unread hread
    rw [hu] at hd
    cases hd
    exact ⟨h.changes, fun hf => by cases hf⟩

end TTSManager

open TTSManager

theorem engine_voiced {policy : ResourceAllocationPolicy} {v : Text} {m m' : Monitor TTSManager} {call : EngineCall}
    (hc : (v :: m.state.announcedVoices).IsChain (· ≠ ·)) (h : m.held = false → Voiced v m.state)
    (hs : (engine policy).step m call = some m') :
    (v :: m'.state.announcedVoices).IsChain (· ≠ ·) ∧ (m'.held = false → Voiced v m'.state) := by
  have hsame : SameVoice m.state m'.state → (m'.held = false → m.held = false) →
      (v :: m'.state.announcedVoices).IsChain (· ≠ ·) ∧ (m'.held = false → Voiced v m'.state) := by
    intro hv hheld
    exact ⟨hv.announced ▸ hc, fun hf => (h (hheld hf)).same hv⟩
  cases call with
  | session p c =>
    obtain ⟨s, -, rfl⟩ := Option.map_eq_some_iff.mp hs
    exact hsame (m.state.sameVoice_callSession p s c) id
  | manager op =>
    obtain ⟨r, hd⟩ := engine_manager_done hs
    obtain ⟨held, m⟩ := m
    cases held with
    | true =>
      obtain rfl := perform_held hd
      exact ⟨hc, h⟩
    | false =>
      by_cases hop : ∃ configuration, op = .setConfiguration configuration
      · obtain ⟨configuration, rfl⟩ := hop
        exact voiced_setConfiguration (h rfl) hd
      · have hv := m.sameVoice_effect op fun configuration e => hop ⟨configuration, e⟩
        rw [← perform_effect hd] at hv
        exact hsame hv fun _ => rfl

/-- **The clients know the voice.** In every run of the engine each voice that is announced is another than the one
before; and while the mutex is free, the last one announced, or the first voice if none was, is the engine's. -/
theorem voices_announced {policy : ResourceAllocationPolicy} {configuration : TTSConfiguration} {others : Others}
    {maxFailures : Nat} {calls : List EngineCall} {m : Monitor TTSManager}
    (hs : (engine policy).exec ⟨false, .new configuration others policy maxFailures⟩ calls = some m) :
    (configuration.resolvedVoice others :: m.state.announcedVoices).IsChain (· ≠ ·) ∧
      (m.held = false →
        (configuration.resolvedVoice others :: m.state.announcedVoices).getLast? = some m.state.voice) := by
  have hrun := Transition.Machine.exec_invariant
    (I := fun m => (configuration.resolvedVoice others :: m.state.announcedVoices).IsChain (· ≠ ·) ∧
      (m.held = false → Voiced (configuration.resolvedVoice others) m.state))
    (fun call _ m m' hI hs => engine_voiced hI.1 hI.2 hs) ?_ hs
  · exact ⟨hrun.1, fun hf => (hrun.2 hf).last⟩
  · have hnew : (TTSManager.new configuration others policy maxFailures).announcedVoices = [] ∧
        (TTSManager.new configuration others policy maxFailures).voice = configuration.resolvedVoice others := by
      cases policy <;> exact ⟨rfl, rfl⟩
    rw [hnew.1]
    exact ⟨.singleton _, fun _ => ⟨hnew.1 ▸ .singleton _, by rw [hnew.1, hnew.2]; rfl⟩⟩

/-- Two voices, the second given twice. -/
def givesVoices : List EngineCall :=
  [.manager (.setConfiguration "a,b,fr,v,,5".toList), .manager (.createSession 7 "guide" []),
    .manager (.setConfiguration "a,b,fr,w,,5".toList), .manager (.setConfiguration "c,d,en,w,,5".toList)]

theorem voices_announced_two :
    ∃ m, (engine .open).exec ⟨false, .new .new ∅ .open 1⟩ givesVoices = some m ∧
      m.state.announcedVoices = ["v".toList, "w".toList] ∧
      (TTSConfiguration.new.resolvedVoice ∅ :: m.state.announcedVoices).IsChain (· ≠ ·) ∧
      (m.held = false →
        (TTSConfiguration.new.resolvedVoice ∅ :: m.state.announcedVoices).getLast? = some m.state.voice) := by
  obtain ⟨m, hm⟩ : ∃ m, (engine .open).exec ⟨false, .new .new ∅ .open 1⟩ givesVoices = some m := ⟨_, rfl⟩
  refine ⟨m, hm, ?_, voices_announced hm⟩
  obtain rfl := Option.some.inj hm
  decide

/-- A string that fails at its volume changes the voice, and nobody is told. -/
theorem voice_unannounced :
    ∃ m, (engine .open).exec ⟨false, .new .new ∅ .open 1⟩
        [.manager (.setConfiguration "a,b,fr,v,loud,5".toList)] = some m ∧
      m.held = true ∧ m.state.voice = "v".toList ∧ m.state.announcedVoices = [] := by
  refine ⟨_, rfl, ?_, ?_, ?_⟩ <;> decide

end TTS
