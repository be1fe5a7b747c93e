import TTS.ConfigurationFile
import TTS.ManagerFrames
import TTS.SpeechUrl

/-!
# The endpoints of the sessions

A session copies the default configuration when it is created and is updated
with later ones. `setConfiguration` mirrors a missing endpoint before it passes
the configuration on, `loadConfigurationsFromFile` does not.
-/

namespace TTS

open Monitor Transition

/-! ## What leaves the sessions' endpoints -/

def TTSSession.endPoints (s : TTSSession) : (Text × Text) × (Text × Text) :=
  (s.configuration.endPoints, s.tmpConfiguration.endPoints)

def TTSManager.endPoints (m : TTSManager) : List ((Text × Text) × (Text × Text)) := m.objects.map TTSSession.endPoints

namespace TTSSession

theorem endPoints_setActive (s : TTSSession) (n : Bool) : (s.setActive n).endPoints = s.endPoints := by
  unfold setActive
  cases s.speaker <;> cases n <;> rfl

theorem endPoints_cancelled (s : TTSSession) (ids : List Nat) : (s.cancelled ids).endPoints = s.endPoints := by
  unfold cancelled
  split
  · rfl
  · split <;> rfl

theorem endPoints_abortAndClearPending (s : TTSSession) (self : Nat) (sp : TTSSpeaker) :
    (s.abortAndClearPending self sp).1.endPoints = s.endPoints := by
  unfold abortAndClearPending
  split
  · exact s.endPoints_cancelled _
  · rfl

theorem endPoints_setInactive (s : TTSSession) (self : Nat) (sp : TTSSpeaker) (n : Bool) :
    (s.setInactive self sp n).1.endPoints = s.endPoints := by
  have h := s.endPoints_abortAndClearPending self sp
  unfold setInactive
  cases s.speaker with
  | false => rfl
  | true => cases n <;> exact h

end TTSSession

namespace TTSManager

theorem map_modify {objects : List TTSSession} {p : Nat} {f : TTSSession → TTSSession}
    (hf : ∀ s : TTSSession, (f s).endPoints = s.endPoints) :
    (objects.modify p f).map TTSSession.endPoints = objects.map TTSSession.endPoints := by
  refine List.ext_getElem? fun q => ?_
  rw [List.getElem?_map, List.getElem?_map, List.getElem?_modify]
  cases objects[q]? with
  | none => rfl
  | some s => by_cases h : p = q <;> simp [h, hf]

theorem endPoints_setActive (m : TTSManager) (p : Nat) (n : Bool) : (m.setActive p n).endPoints = m.endPoints :=
  map_modify fun s => s.endPoints_setActive n

theorem endPoints_setInactive (m : TTSManager) (p : Nat) (n : Bool) : (m.setInactive p n).endPoints = m.endPoints :=
  map_modify fun s => s.endPoints_setInactive p m.speaker n

theorem endPoints_kept (notify : Bool) : Kept notify fun m m' => m'.endPoints = m.endPoints where
  refl _ := rfl
  trans h h' := h'.trans h
  ensurePipeline _ _ := rfl
  activeSession _ _ := rfl
  setActive m p := m.endPoints_setActive p notify
  setInactive m p := m.endPoints_setInactive p notify

theorem endPoints_keptGrants : KeptGrants fun m m' => m'.endPoints = m.endPoints where
  toKept := endPoints_kept true
  reservedApp _ _ := rfl
  claimedApp _ _ := rfl

theorem endPoints_enableTTS (m : TTSManager) (enable : Bool) : (m.enableTTS enable).endPoints = m.endPoints := by
  by_cases hne : m.ttsEnabled = enable
  · rw [enableTTS_same hne]
  · exact enableTTS_kept hne (fun _ => endPoints_kept true) fun _ => endPoints_kept false

theorem endPoints_destroySession (m : TTSManager) (id : Nat) : (m.destroySession id).2.endPoints = m.endPoints := by
  refine destroySession_kept m id (fun _ => endPoints_keptGrants) (fun _ => endPoints_kept false) (fun _ _ => rfl) ?_
  intro r
  unfold closeConnection
  split <;> rfl

theorem endPoints_addSession (m : TTSManager) (a : Nat) (n : String) :
    (m.addSession a n).endPoints = m.endPoints ++ [(m.defaultConfiguration.endPoints, ([], []))] := by
  have henter : (m.enterSession a n).endPoints = m.endPoints ++ [(m.defaultConfiguration.endPoints, ([], []))] := by
    unfold endPoints enterSession
    rw [List.map_append]
    rfl
  refine Eq.trans ?_ henter
  exact addSession_kept m a n (fun _ => (endPoints_kept true).toKeptActive) fun _ => (endPoints_kept false).toKeptActive

theorem endPoints_installCallbacks (m : TTSManager) (p : Nat) (keys : List String) :
    (m.installCallbacks p keys).endPoints = m.endPoints :=
  map_modify fun _ => rfl

theorem endPoints_createSession (m : TTSManager) (a : Nat) (n : String) (keys : List String) :
    (ManagerOp.effect m (.createSession a n keys)).endPoints =
      if (m.createSession a n).1.result = .ok then m.endPoints ++ [(m.defaultConfiguration.endPoints, ([], []))]
      else m.endPoints := by
  simp only [ManagerOp.effect]
  rcases m.createSession_cases a n with e | ⟨-, e⟩
  · rw [e]
    exact (if_neg (by simp)).symm
  · rw [e, if_pos rfl]
    exact (endPoints_installCallbacks _ _ keys).trans (m.endPoints_addSession a n)

theorem endPoints_callSession (m : TTSManager) (p : Nat) (s : TTSSession) (c : SessionCall) :
    (m.callSession p s c).2.endPoints = m.endPoints := by
  cases c with
  | speak id text secure =>
    simp only [callSession]
    split <;> rfl
  | abortAndClearPending => exact map_modify fun s => s.endPoints_abortAndClearPending p m.speaker
  | setPreemptiveSpeak | requestExtendedEvents => exact map_modify fun _ => rfl

end TTSManager

/-! ## Paired endpoints -/

def TTSSession.Paired (s : TTSSession) : Prop := s.configuration.EndPointsPaired ∧ s.tmpConfiguration.EndPointsPaired

namespace TTSSession

theorem setConfiguration_paired {s : TTSSession} (h : s.Paired) {config : TTSConfiguration} (hc : config.EndPointsPaired)
    (speaking : Bool) : (s.setConfiguration config speaking).Paired := by
  unfold setConfiguration
  split
  · exact ⟨h.1, hc⟩
  · exact ⟨TTSConfiguration.endPointsPaired_updateWith h.1 hc, h.2⟩

theorem ended_paired {s : TTSSession} (h : s.Paired) (k : Terminal) (id : Nat) (text : Text) : (s.ended k id text).Paired := by
  have hextended : ∀ e name, (s.sendExtended e name id).Paired := by
    intro e name
    unfold sendExtended
    split <;> exact h
  cases k with
  | spoke =>
    simp only [ended, spoke]
    split
    · exact ⟨TTSConfiguration.endPointsPaired_updateWith h.1 h.2, h.2⟩
    · exact h
  | interrupted | networkerror | playbackerror => exact hextended _ _

end TTSSession

namespace TTSManager

def SessionsPaired (m : TTSManager) : Prop := ∀ s ∈ m.objects, s.Paired

theorem sessionsPaired_of_endPoints {m m' : TTSManager} (h : m'.endPoints = m.endPoints) (hm : m.SessionsPaired) :
    m'.SessionsPaired := by
  intro s' hs'
  have hmem : s'.endPoints ∈ m.endPoints := h ▸ List.mem_map_of_mem hs'
  obtain ⟨s, hs, he⟩ := List.mem_map.mp hmem
  have hp := hm s hs
  simp only [TTSSession.endPoints, TTSConfiguration.endPoints, Prod.mk.injEq] at he
  obtain ⟨⟨h1, h2⟩, h3, h4⟩ := he
  unfold TTSSession.Paired TTSConfiguration.EndPointsPaired at *
  rwa [h1, h2, h3, h4] at hp

theorem forall_mem_modify {objects : List TTSSession} {p : Nat} {f : TTSSession → TTSSession}
    (h : ∀ s ∈ objects, s.Paired) (hf : ∀ s : TTSSession, s.Paired → (f s).Paired) :
    ∀ s ∈ objects.modify p f, s.Paired := by
  intro s' hs'
  obtain ⟨q, hq⟩ := List.mem_iff_getElem?.mp hs'
  rw [List.getElem?_modify] at hq
  obtain ⟨s, hs, rfl⟩ := Option.map_eq_some_iff.mp hq
  have hp := h s (List.mem_of_getElem? hs)
  by_cases hpq : p = q
  · simpa [hpq] using hf s hp
  · simpa [hpq] using hp

theorem passConfiguration_paired {m : TTSManager} (h : m.SessionsPaired) : m.passConfiguration.SessionsPaired := by
  have hc := m.defaultConfiguration.endPointsPaired_mirrorEndPoints
  have hfold : ∀ (its : List (Nat × Nat)) (objects : List TTSSession), (∀ s ∈ objects, s.Paired) →
      ∀ s ∈ its.foldl (fun objects it => objects.modify it.2 fun s =>
        s.setConfiguration m.defaultConfiguration.mirrorEndPoints (m.speaker.isSpeakingClient it.2)) objects, s.Paired := by
    intro its
    induction its with
    | nil => exact fun _ h => h
    | cons it its ih =>
      intro objects hobj
      exact ih _ (forall_mem_modify hobj fun s hs => TTSSession.setConfiguration_paired hs hc _)
  exact hfold _ _ h

theorem setConfiguration_paired {m : TTSManager} (h : m.SessionsPaired) (configuration : Text) :
    (ManagerOp.effect m (.setConfiguration configuration)).SessionsPaired := by
  simp only [ManagerOp.effect]
  split
  · intro s hs
    rw [announceVoice_objects] at hs
    have hpass : (TTSManager.passConfiguration { m with
        defaultConfiguration := (m.defaultConfiguration.fromString configuration ',').2 }).SessionsPaired :=
      passConfiguration_paired h
    exact hpass s hs
  · exact h

theorem createSession_paired {m : TTSManager} (h : m.SessionsPaired) {a : Nat} (n : String) (keys : List String)
    (hc : (m.createSession a n).1.result = .ok → m.defaultConfiguration.EndPointsPaired) :
    (ManagerOp.effect m (.createSession a n keys)).SessionsPaired := by
  have hend := m.endPoints_createSession a n keys
  by_cases hok : (m.createSession a n).1.result = .ok
  · rw [if_pos hok] at hend
    have henter : ({ m with objects := m.objects ++ [TTSSession.new a n 0 m.defaultConfiguration] } :
        TTSManager).SessionsPaired := by
      intro s hs
      rcases List.mem_append.mp hs with hs | hs
      · exact h s hs
      · rw [List.mem_singleton.mp hs]
        exact ⟨hc hok, Iff.rfl⟩
    refine sessionsPaired_of_endPoints (hend.trans ?_) henter
    show _ = (m.objects ++ [TTSSession.new a n 0 m.defaultConfiguration]).map TTSSession.endPoints
    rw [List.map_append]
    rfl
  · rw [if_neg hok] at hend
    exact sessionsPaired_of_endPoints hend h

end TTSManager

/-! ## Runs -/

/-- The calls of the engine, and what the speaker thread does to the sessions:
it says whose speech is spoken, and tells how a speech ended. -/
inductive SpeechStep
  | call (c : EngineCall)
  | setSpeaking (state : Bool) (client : Option Nat)
  | callback (p : Nat) (k : Terminal) (id : Nat) (text : Text)

def speeches : Machine (Monitor TTSManager) SpeechStep where
  init m := ∃ file maxFailures m₀, TTSManager.load file maxFailures = .ok m₀ ∧ m = ⟨false, m₀⟩
  step m
    | .call c => (engine m.state.policy).step m c
    | .setSpeaking state client =>
      some { m with state := { m.state with speaker := m.state.speaker.setSpeakingState state client } }
    | .callback p k id text =>
      some { m with state := { m.state with objects := m.state.objects.modify p fun s => s.ended k id text } }

/-- The URL of every speech a valid session may be asked for begins with an
endpoint: the secure one for a secure speech, the plain one otherwise. -/
def ServesEndPoints (escape : Text → Option Text) (m : TTSManager) : Prop :=
  ∀ (p : Nat) (s : TTSSession), m.objects[p]? = some s → s.configuration.isValid = true → ∀ d : SpeechData,
    ∃ endpoint, endpoint ≠ [] ∧
      endpoint = (if d.secure then s.configuration.ttsEndPointSecured else s.configuration.ttsEndPoint) ∧
      endpoint <+: constructURL escape s.configuration m.others d

/-- No session is created while just one endpoint of the default configuration is set. -/
def CreatesPaired (m : Monitor TTSManager) : SpeechStep → Prop
  | .call (.manager (.createSession a n _)) =>
    (m.state.createSession a n).1.result = .ok → m.state.defaultConfiguration.EndPointsPaired
  | _ => True

theorem effect_paired {m : TTSManager} (h : m.SessionsPaired) {op : ManagerOp}
    (hc : ∀ a n keys, op = .createSession a n keys → (m.createSession a n).1.result = .ok →
      m.defaultConfiguration.EndPointsPaired) : (op.effect m).SessionsPaired := by
  cases op with
  | createSession a n keys => exact TTSManager.createSession_paired h n keys (hc a n keys rfl)
  | setConfiguration configuration => exact TTSManager.setConfiguration_paired h configuration
  | enableTTS enable => exact TTSManager.sessionsPaired_of_endPoints (m.endPoints_enableTTS enable) h
  | destroySession id => exact TTSManager.sessionsPaired_of_endPoints (m.endPoints_destroySession id) h
  | reservePlayerResource a =>
    simp only [ManagerOp.effect]
    split
    · exact TTSManager.sessionsPaired_of_endPoints
        (TTSManager.endPoints_keptGrants.reservePlayerResource m a) h
    · exact h
  | releasePlayerResource a =>
    simp only [ManagerOp.effect]
    split
    · exact TTSManager.sessionsPaired_of_endPoints
        (TTSManager.endPoints_keptGrants.releasePlayerResource m a) h
    · exact h
  | claimPlayerResource a =>
    simp only [ManagerOp.effect]
    split
    · exact TTSManager.sessionsPaired_of_endPoints
        (TTSManager.endPoints_keptGrants.claimPlayerResource m a) h
    · exact h
  | isTTSEnabled | listVoices | getConfiguration | isSessionActiveForApp | getResourceAllocationPolicy => exact h

theorem step_paired {m m' : Monitor TTSManager} {a : SpeechStep} (h : m.state.SessionsPaired)
    (hc : CreatesPaired m a) (hs : speeches.step m a = some m') : m'.state.SessionsPaired := by
  cases a with
  | setSpeaking state client =>
    obtain rfl := Option.some.inj hs
    exact h
  | callback p k id text =>
    obtain rfl := Option.some.inj hs
    exact TTSManager.forall_mem_modify h fun s hp => TTSSession.ended_paired hp k id text
  | call c =>
    have hstep : (engine m.state.policy).step m c = some m' := hs
    rcases engine_step hstep with rfl | ⟨op, rfl, he⟩ | ⟨p, s, c, rfl, -, he⟩
    · exact h
    · rw [he]
      refine effect_paired h fun a n keys hop => ?_
      subst hop
      exact hc
    · rw [he]
      exact TTSManager.sessionsPaired_of_endPoints (m.state.endPoints_callSession p s c) h

theorem servesEndPoints_of_paired (escape : Text → Option Text) {m : TTSManager} (h : m.SessionsPaired) :
    ServesEndPoints escape m := by
  intro p s hs hvalid d
  have hpaired := (h s (List.mem_of_getElem? hs)).1
  refine ⟨s.configuration.chosenEndPoint d.secure, ?_, rfl, chosenEndPoint_prefix escape hvalid m.others d⟩
  intro hempty
  have hboth : s.configuration.ttsEndPoint = [] ∧ s.configuration.ttsEndPointSecured = [] := by
    cases hd : d.secure with
    | true =>
      rw [hd] at hempty
      exact ⟨hpaired.mpr hempty, hempty⟩
    | false =>
      rw [hd] at hempty
      exact ⟨hempty, hpaired.mp hempty⟩
  rw [TTSConfiguration.isValid, hboth.1, hboth.2] at hvalid
  cases hvalid

theorem load_paired {file : Option (List Text)} {maxFailures : Nat} {m : TTSManager}
    (h : TTSManager.load file maxFailures = .ok m) : m.SessionsPaired := by
  unfold TTSManager.load at h
  cases hl : loadConfigurationsFromFile .new ∅ file with
  | error e =>
    rw [hl] at h
    cases h
  | ok r =>
    rw [hl] at h
    obtain rfl := Except.ok.inj h
    have hobjects : (TTSManager.new r.configuration r.others (r.policy.getD .invalid) maxFailures).objects = [] := by
      unfold TTSManager.new TTSManager.setResourceAllocationPolicy
      split <;> rfl
    intro s hs
    rw [hobjects] at hs
    cases hs

/-- In a run that creates no session while just one default endpoint is set,
every speech goes to an endpoint. -/
theorem speeches_serve_endPoints (escape : Text → Option Text) (m : Monitor TTSManager)
    (h : speeches.ReachableIf CreatesPaired m) : ServesEndPoints escape m.state := by
  have hpaired : m.state.SessionsPaired := by
    refine Machine.ReachableIf.invariant (I := fun m => m.state.SessionsPaired) ?_
      (fun _ _ _ hI hk hs => step_paired hI hk hs) h
    rintro m ⟨file, maxFailures, m₀, hload, rfl⟩
    exact load_paired hload
  exact servesEndPoints_of_paired escape hpaired

/-- An engine whose file sets both endpoints, with a session that may speak. -/
theorem speeches_serve_both_endPoints :
    ∃ m : Monitor TTSManager, (∃ s : TTSSession, m.state.objects[0]? = some s ∧ s.speak = .ok) ∧ ServesEndPoints some m.state := by
  have h0 : speeches.ReachableIf CreatesPaired _ :=
    .init ⟨some ["TTSEndPoint=http://tts/?".toList, "SecureTTSEndPoint=https://tts/?".toList], 1, _, rfl, rfl⟩
  have h1 := h0.step (a := SpeechStep.call (.manager (.enableTTS true))) trivial rfl
  have h2 := h1.step (a := SpeechStep.call (.manager (.createSession 7 "guide" []))) (fun _ => by decide) rfl
  exact ⟨_, ⟨_, rfl, by decide⟩, speeches_serve_endPoints some _ h2⟩

/-- With a file that sets the plain endpoint only, a secure speech has none. -/
theorem speeches_without_endPoint :
    ∃ m, speeches.Reachable m ∧ (∃ s : TTSSession, m.state.objects[0]? = some s ∧ s.speak = .ok) ∧
      ¬ServesEndPoints some m.state := by
  have h0 : speeches.init _ := ⟨some ["TTSEndPoint=http://tts/?".toList], 1, _, rfl, rfl⟩
  refine ⟨_, Machine.reachable_of_exec h0
    [.call (.manager (.enableTTS true)), .call (.manager (.createSession 7 "guide" []))] rfl, ⟨_, rfl, by decide⟩, ?_⟩
  intro h
  obtain ⟨endpoint, hne, he, -⟩ := h 0 _ rfl (by decide) ⟨0, true, 1, [], 0⟩
  exact hne he

end TTS
