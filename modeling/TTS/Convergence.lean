import TTS.Transition
import TTS.Registry

/-!
# Convergence of the sessions' configurations

`setConfiguration` reaches a session at once, or is parked in the session
while it speaks. A parked update is taken over by `spoke` alone. The run has
one speech at a time, as the speaker thread does, and the steps of the thread
that the session sees: the state set speaking, the callback that ends the
speech, the state cleared.
-/

namespace TTS

open Monitor Transition

/-- Where the thread stands between two speeches, with the session spoken for. -/
inductive SpeechPhase
  | idle
  | speaking (p : Nat)
  | reported (p : Nat)
  deriving DecidableEq, Repr

structure SpeechRun where
  manager : Monitor TTSManager
  phase : SpeechPhase

namespace SpeechRun

inductive Label
  | createSession (appId : Nat) (appName : String) (keys : List String)
  | setConfiguration (configuration : Text)
  | start (p : Nat)
  | callback (k : Terminal) (id : Nat) (text : Text)
  | finish

def call (st : SpeechRun) (op : ManagerOp) : Option SpeechRun :=
  match op.perform st.manager with
  | .done (.ok _) m => if m.held then none else some { st with manager := m }
  | _ => none

def setSpeaking (m : Monitor TTSManager) (state : Bool) (p : Option Nat) : Monitor TTSManager :=
  { m with state := { m.state with speaker := m.state.speaker.setSpeakingState state p } }

def step (st : SpeechRun) : Label → Option SpeechRun
  | .createSession appId appName keys => st.call (.createSession appId appName keys)
  | .setConfiguration configuration => st.call (.setConfiguration configuration)
  | .start p =>
    if st.phase = .idle ∧ p < st.manager.state.objects.length then
      some ⟨setSpeaking st.manager true (some p), .speaking p⟩
    else none
  | .callback k id text =>
    match st.phase with
    | .speaking p =>
      some ⟨{ st.manager with
        state := { st.manager.state with
          objects := st.manager.state.objects.modify p fun s => s.ended k id text } }, .reported p⟩
    | _ => none
  | .finish =>
    match st.phase with
    | .reported _ => some ⟨setSpeaking st.manager false none, .idle⟩
    | _ => none

def machine : Machine SpeechRun Label where
  init st := st.manager.held = false ∧ st.manager.state.sessionMap = ∅ ∧ st.manager.state.objects = [] ∧
    st.manager.state.speaker.clientSpeaking = none ∧ st.phase = .idle
  step := step

/-- A live session that is not speaking has the default configuration. -/
def Converged (st : SpeechRun) : Prop :=
  ∀ p s, st.manager.state.Live p → st.manager.state.objects[p]? = some s →
    st.manager.state.speaker.clientSpeaking ≠ some p →
      s.configuration.Agrees st.manager.state.defaultConfiguration

/-- A speech with a parked update ends in `spoke`, and none is parked after the
callback while the session still counts as speaking. -/
def UpdateTaken (st : SpeechRun) : Label → Prop
  | .callback k _ _ => k ≠ .spoke → ∀ p s, st.phase = .speaking p →
      st.manager.state.objects[p]? = some s → s.havingConfigToUpdate = false
  | .setConfiguration _ => ∀ p s, st.phase = .reported p → st.manager.state.objects[p]? = some s → s.speaker = false
  | _ => True

end SpeechRun

/-! ## One session -/

/-- An update is parked in a speaking session, where it is the default
configuration, or the session has the default configuration. -/
structure TTSSession.Follows (s : TTSSession) (config : TTSConfiguration) (speaking : Bool) : Prop where
  empty : s.configuration.EmptyIn config
  current : s.havingConfigToUpdate = false → s.configuration.Agrees config
  parked : s.havingConfigToUpdate = true → speaking = true ∧ s.speaker = true ∧ s.tmpConfiguration = config

namespace TTSSession

theorem follows_of_agrees {s : TTSSession} {config : TTSConfiguration} {speaking : Bool}
    (h : s.configuration.Agrees config) (hp : s.havingConfigToUpdate = false) : s.Follows config speaking :=
  ⟨h.emptyIn, fun _ => h, fun h => absurd (hp.symm.trans h) (fun e => nomatch e)⟩

theorem setConfiguration_follows {s : TTSSession} {config : TTSConfiguration} {speaking b : Bool}
    (he : s.configuration.EmptyIn config) (hp : s.havingConfigToUpdate = true → b = true ∧ s.speaker = true)
    (hb : b = true → speaking = true) (hs : s.speaker = true → speaking = true → b = true) :
    (s.setConfiguration config speaking).Follows config b := by
  unfold setConfiguration
  by_cases h : (s.speaker && speaking) = true
  · rw [if_pos h]
    rw [Bool.and_eq_true] at h
    exact ⟨he, fun h => (nomatch h), fun _ => ⟨hs h.1 h.2, h.1, rfl⟩⟩
  · rw [if_neg h]
    refine follows_of_agrees (TTSConfiguration.agrees_updateWith he) ?_
    by_contra hh
    obtain ⟨h1, h2⟩ := hp (by simpa using hh)
    exact h (by rw [h2, hb h1]; rfl)

theorem setConfiguration_speaker (s : TTSSession) (config : TTSConfiguration) (speaking : Bool) :
    (s.setConfiguration config speaking).speaker = s.speaker := by
  unfold setConfiguration
  split <;> rfl

theorem setConfiguration_iterate_follows {s : TTSSession} {config : TTSConfiguration} {speaking b : Bool}
    (he : s.configuration.EmptyIn config) (hp : s.havingConfigToUpdate = true → b = true ∧ s.speaker = true)
    (hb : b = true → speaking = true) (hs : s.speaker = true → speaking = true → b = true) (n : Nat) :
    ((fun s : TTSSession => s.setConfiguration config speaking)^[n + 1] s).Follows config b := by
  induction n generalizing s with
  | zero => exact setConfiguration_follows he hp hb hs
  | succ n ih =>
    have h := setConfiguration_follows he hp hb hs
    rw [Function.iterate_succ_apply]
    refine ih h.empty (fun hh => ?_) (fun hh => ?_)
    · exact ⟨(h.parked hh).1, (h.parked hh).2.1⟩
    · exact hs ((setConfiguration_speaker s config speaking).symm.trans hh)

theorem spoke_follows {s : TTSSession} {config : TTSConfiguration} {speaking b : Bool} (h : s.Follows config speaking)
    (id : Nat) (text : Text) : (s.spoke id text).Follows config b := by
  unfold spoke
  by_cases hp : s.havingConfigToUpdate = true
  · have ht := (h.parked hp).2.2
    simp only [hp, ite_true]
    refine follows_of_agrees ?_ rfl
    show (s.configuration.updateWith s.tmpConfiguration).Agrees config
    rw [ht]
    exact TTSConfiguration.agrees_updateWith h.empty
  · have hp : s.havingConfigToUpdate = false := by simpa using hp
    simp only [hp, Bool.false_eq_true, ite_false]
    exact follows_of_agrees (h.current hp) hp

theorem sendExtended_follows {s : TTSSession} {config : TTSConfiguration} {speaking b : Bool}
    (h : s.Follows config speaking) (hp : s.havingConfigToUpdate = false) (e : ExtendedEvent) (name : String)
    (id : Nat) : (s.sendExtended e name id).Follows config b := by
  unfold sendExtended
  split <;> exact follows_of_agrees (h.current hp) hp

theorem ended_follows {s : TTSSession} {config : TTSConfiguration} {speaking b : Bool} (h : s.Follows config speaking)
    {k : Terminal} (hk : k ≠ .spoke → s.havingConfigToUpdate = false) (id : Nat) (text : Text) :
    (s.ended k id text).Follows config b := by
  cases k with
  | spoke => exact spoke_follows h id text
  | interrupted | networkerror | playbackerror =>
    exact sendExtended_follows h (hk (fun e => nomatch e)) _ _ id

theorem setActive_follows {s : TTSSession} {config : TTSConfiguration} {speaking : Bool}
    (h : s.Follows config speaking) (n : Bool) : (s.setActive n).Follows config speaking := by
  unfold setActive
  by_cases hs : s.speaker = true
  · rw [if_pos hs]
    exact h
  · have hp : s.havingConfigToUpdate = false := by
      by_contra hh
      exact hs (h.parked (by simpa using hh)).2.1
    rw [if_neg hs]
    cases n <;> exact follows_of_agrees (h.current hp) hp

end TTSSession

/-! ## The operations -/

structure KeepsFollowing (m m' : TTSManager) : Prop where
  client : m'.speaker.clientSpeaking = m.speaker.clientSpeaking
  objects : ∀ (p : Nat) (s' : TTSSession), m'.objects[p]? = some s' →
    ∃ s : TTSSession, m.objects[p]? = some s ∧ ∀ config b, s.Follows config b → s'.Follows config b

theorem KeepsFollowing.refl (m : TTSManager) : KeepsFollowing m m := ⟨rfl, fun _ s h => ⟨s, h, fun _ _ => id⟩⟩

theorem KeepsFollowing.trans {m m' m'' : TTSManager} (h : KeepsFollowing m m') (h' : KeepsFollowing m' m'') :
    KeepsFollowing m m'' := by
  refine ⟨h'.client.trans h.client, fun p s'' hs'' => ?_⟩
  obtain ⟨s', hs', hf'⟩ := h'.objects p s'' hs''
  obtain ⟨s, hs, hf⟩ := h.objects p s' hs'
  exact ⟨s, hs, fun config b hh => hf' config b (hf config b hh)⟩

namespace TTSManager

theorem keepsFollowing_modify {m m' : TTSManager} (p : Nat) (f : TTSSession → TTSSession)
    (hc : m'.speaker.clientSpeaking = m.speaker.clientSpeaking) (ho : m'.objects = m.objects.modify p f)
    (hf : ∀ s config b, s.Follows config b → (f s).Follows config b) : KeepsFollowing m m' := by
  refine ⟨hc, fun q s' hs' => ?_⟩
  rw [ho, List.getElem?_modify] at hs'
  obtain ⟨s, hs, rfl⟩ := Option.map_eq_some_iff.mp hs'
  refine ⟨s, hs, fun config b h => ?_⟩
  by_cases hp : p = q
  · simpa [hp] using hf s config b h
  · simpa [hp] using h

theorem keepsFollowing_setActive (m : TTSManager) (p : Nat) (n : Bool) : KeepsFollowing m (m.setActive p n) :=
  keepsFollowing_modify p _ rfl rfl fun _ _ _ h => TTSSession.setActive_follows h n

theorem keepsFollowing_installCallbacks (m : TTSManager) (p : Nat) (keys : List String) :
    KeepsFollowing m (m.installCallbacks p keys) :=
  keepsFollowing_modify p _ rfl rfl fun _ _ _ h => ⟨h.1, h.2, h.3⟩

theorem keepsFollowing_kept (notify : Bool) : KeptActive notify KeepsFollowing where
  refl := .refl
  trans := .trans
  ensurePipeline _ _ := ⟨rfl, fun _ s hs => ⟨s, hs, fun _ _ => id⟩⟩
  activeSession _ _ := ⟨rfl, fun _ s hs => ⟨s, hs, fun _ _ => id⟩⟩
  setActive m p := m.keepsFollowing_setActive p notify

theorem keepsFollowing_addSession (m : TTSManager) (a : Nat) (n : String) :
    KeepsFollowing (m.enterSession a n) (m.addSession a n) :=
  m.addSession_kept a n (fun _ => keepsFollowing_kept true) fun _ => keepsFollowing_kept false

theorem getElem?_foldl_modify {α : Type} (f : Nat → α → α) (its : List (Nat × Nat)) (objects : List α) (q : Nat) :
    (its.foldl (fun objects it => objects.modify it.2 (f it.2)) objects)[q]? =
      (objects[q]?).map (f q)^[(its.map Prod.snd).count q] := by
  induction its generalizing objects with
  | nil => simp
  | cons it its ih =>
    rw [List.foldl_cons, ih, List.getElem?_modify, List.map_cons, List.count_cons]
    cases objects[q]? with
    | none => rfl
    | some s => by_cases h : it.2 = q <;> simp [h]

theorem getElem?_passConfiguration {m : TTSManager} {p : Nat} (hl : m.Live p) :
    ∃ n, m.passConfiguration.objects[p]? = (m.objects[p]?).map
      (fun s : TTSSession =>
        s.setConfiguration m.defaultConfiguration.mirrorEndPoints (m.speaker.isSpeakingClient p))^[n + 1] := by
  obtain ⟨id, hid⟩ := hl
  have hmem : p ∈ m.sessionMap.toList.map Prod.snd :=
    List.mem_map.mpr ⟨(id, p), Std.TreeMap.mem_toList_iff_getElem?_eq_some.mpr hid, rfl⟩
  obtain ⟨n, hn⟩ := Nat.exists_eq_succ_of_ne_zero (Nat.pos_iff_ne_zero.mp (List.count_pos_iff.mpr hmem))
  refine ⟨n, ?_⟩
  rw [← Nat.succ_eq_add_one, ← hn]
  exact getElem?_foldl_modify
    (fun q (s : TTSSession) => s.setConfiguration m.defaultConfiguration.mirrorEndPoints (m.speaker.isSpeakingClient q)) _ _ _

theorem passConfiguration_empty {m : TTSManager} (configuration : Text) :
    m.defaultConfiguration.EmptyIn
      (m.defaultConfiguration.fromString configuration ',').2.mirrorEndPoints :=
  (TTSConfiguration.emptyIn_fromString _ _ _).trans (TTSConfiguration.emptyIn_mirrorEndPoints _)

end TTSManager

/-! ## The run -/

namespace SpeechPhase

def client : SpeechPhase → Option Nat
  | .idle => none
  | .speaking p | .reported p => some p

def mayPark (phase : SpeechPhase) (p : Nat) : Bool := phase == .speaking p

end SpeechPhase

namespace SpeechRun

structure Following (st : SpeechRun) : Prop where
  free : st.manager.held = false
  client : st.manager.state.speaker.clientSpeaking = st.phase.client
  follows : ∀ p s, st.manager.state.Live p → st.manager.state.objects[p]? = some s →
    s.Follows st.manager.state.defaultConfiguration (st.phase.mayPark p)

theorem mem_createSession {m : TTSManager} {a : Nat} {n : String} {keys : List String} {m' : TTSManager}
    (hm : m' = ((m.createSession a n).1.session.map fun p =>
      (m.createSession a n).2.installCallbacks p keys).getD (m.createSession a n).2) :
    m' = m ∨ KeepsFollowing (m.enterSession a n) m' ∧ SameRegistry (m.enterSession a n) m' := by
  subst hm
  rcases m.createSession_cases a n with e | ⟨-, e⟩
  · rw [e]
    exact .inl rfl
  · rw [e]
    exact .inr ⟨(m.keepsFollowing_addSession a n).trans (TTSManager.keepsFollowing_installCallbacks _ _ keys),
      (m.sameRegistry_addSession a n).trans (TTSManager.sameRegistry_installCallbacks _ _ keys)⟩

theorem createSession_following {st st' : SpeechRun} (h : st.Following) {a : Nat} {n : String} {keys : List String}
    (hs : st.call (.createSession a n keys) = some st') : st'.Following := by
  obtain ⟨⟨held, m⟩, phase⟩ := st
  obtain ⟨hfree, hclient, hf⟩ := id h
  simp only at hfree hclient hf
  subst hfree
  unfold call at hs
  simp only [perform_createSession] at hs
  obtain rfl := Option.some.inj hs
  rcases mem_createSession (m := m) (a := a) (n := n) rfl with hm | ⟨hk, hr⟩
  · rw [hm]
    exact ⟨rfl, hclient, hf⟩
  · refine ⟨rfl, hk.client.trans hclient, fun p s' hl hs' => ?_⟩
    obtain ⟨s, hs, hkeep⟩ := hk.objects p s' hs'
    rw [hr.defaultConfiguration]
    refine hkeep _ _ ?_
    rw [TTSManager.getElem?_enterSession] at hs
    by_cases hp : p = m.objects.length
    · -- a new session has the default configuration
      rw [if_pos hp] at hs
      obtain rfl := Option.some.inj hs
      exact TTSSession.follows_of_agrees (TTSConfiguration.Agrees.refl _) rfl
    · rw [if_neg hp] at hs
      obtain ⟨id, hid⟩ := hl
      rw [hr.sessionMap] at hid
      have hid : (m.sessionMap.insert m.nextSessionId m.objects.length)[id]? = some p := hid
      rw [getElem?_insert] at hid
      by_cases he : m.nextSessionId = id
      · rw [if_pos he] at hid
        exact absurd (Option.some.inj hid).symm hp
      · rw [if_neg he] at hid
        exact hf p s ⟨id, hid⟩ hs

theorem setConfiguration_following {st st' : SpeechRun} (h : st.Following) {configuration : Text}
    (hk : st.UpdateTaken (.setConfiguration configuration))
    (hs : st.call (.setConfiguration configuration) = some st') : st'.Following := by
  obtain ⟨⟨held, m⟩, phase⟩ := st
  obtain ⟨hfree, hclient, hf⟩ := h
  simp only at hfree hclient hf
  subst hfree
  unfold call at hs
  by_cases hr : (m.defaultConfiguration.fromString configuration ',').1 = .ok true
  · simp only [perform_setConfiguration hr] at hs
    obtain rfl := Option.some.inj hs
    refine ⟨rfl, (congrArg _ (TTSManager.announceVoice_speaker _ _)).trans hclient, fun p s' hl hs' => ?_⟩
    simp only [TTSManager.announceVoice_objects, TTSManager.announceVoice_defaultConfiguration] at hs' ⊢
    simp only [TTSManager.Live, TTSManager.announceVoice_sessionMap] at hl
    have hl : m.Live p := hl
    obtain ⟨k, hk'⟩ := TTSManager.getElem?_passConfiguration (m := { m with
      defaultConfiguration := (m.defaultConfiguration.fromString configuration ',').2 }) (p := p) hl
    rw [hk'] at hs'
    obtain ⟨s, hs, rfl⟩ := Option.map_eq_some_iff.mp hs'
    have hfs := hf p s hl hs
    have hcl : m.speaker.isSpeakingClient p = (phase.client == some p) := by
      rw [← hclient]
      rfl
    refine TTSSession.setConfiguration_iterate_follows
      (hfs.empty.trans (TTSManager.passConfiguration_empty configuration)) (fun hh => ?_) (fun hb => ?_)
      (fun hsp hb => ?_) k
    · exact ⟨(hfs.parked hh).1, (hfs.parked hh).2.1⟩
    · have hb : phase = .speaking p := eq_of_beq hb
      show m.speaker.isSpeakingClient p = true
      rw [hcl, hb]
      exact beq_self_eq_true _
    · have hb : m.speaker.isSpeakingClient p = true := hb
      rw [hcl] at hb
      cases phase with
      | idle => cases hb
      | speaking q =>
        obtain rfl := Option.some.inj (eq_of_beq hb)
        exact beq_self_eq_true _
      | reported q =>
        obtain rfl := Option.some.inj (eq_of_beq hb)
        have := hk q s rfl hs
        rw [this] at hsp
        cases hsp
  · obtain ⟨r, hm⟩ := perform_setConfiguration_unread hr
    simp only [hm] at hs
    cases r <;> simp at hs

theorem callback_following {st st' : SpeechRun} (h : st.Following) {k : Terminal} {id : Nat} {text : Text}
    (hk : st.UpdateTaken (.callback k id text)) (hs : st.step (.callback k id text) = some st') :
    st'.Following := by
  obtain ⟨m, phase⟩ := st
  cases phase with
  | idle | reported => cases hs
  | speaking p =>
    obtain rfl := Option.some.inj hs
    refine ⟨h.free, h.client, fun q s' hl hs' => ?_⟩
    rw [List.getElem?_modify] at hs'
    obtain ⟨s, hs, rfl⟩ := Option.map_eq_some_iff.mp hs'
    have hf := h.follows q s hl hs
    by_cases hq : p = q
    · subst hq
      simp only [ite_true]
      exact TTSSession.ended_follows hf (fun hne => hk hne p s rfl hs) id text
    · simp only [hq, ite_false]
      have : (SpeechPhase.speaking p).mayPark q = false := beq_eq_false_iff_ne.mpr fun e => hq (by cases e; rfl)
      rw [this] at hf
      exact hf

theorem step_following {st st' : SpeechRun} {a : Label} (h : st.Following) (hk : st.UpdateTaken a)
    (hs : st.step a = some st') : st'.Following := by
  cases a with
  | createSession a n keys => exact createSession_following h hs
  | setConfiguration configuration => exact setConfiguration_following h hk hs
  | callback k id text => exact callback_following h hk hs
  | start p =>
    simp only [step, Option.ite_none_right_eq_some, Option.some.injEq] at hs
    obtain ⟨⟨hi, -⟩, rfl⟩ := hs
    refine ⟨h.free, rfl, fun q s hl hs => ?_⟩
    have hf := h.follows q s hl hs
    have hp : st.phase.mayPark q = false := by rw [hi]; rfl
    rw [hp] at hf
    exact TTSSession.follows_of_agrees (hf.current (by
      by_contra hh
      exact absurd (hf.parked (by simpa using hh)).1 (fun e => nomatch e))) (by
      by_contra hh
      exact absurd (hf.parked (by simpa using hh)).1 (fun e => nomatch e))
  | finish =>
    obtain ⟨m, phase⟩ := st
    cases phase with
    | idle | speaking => cases hs
    | reported p =>
      obtain rfl := Option.some.inj hs
      exact ⟨h.free, rfl, h.follows⟩

/-- **The latest configuration wins.** In every run that takes each parked
update over, a live session that is not speaking has the default configuration. -/
theorem configurations_converge {st : SpeechRun} (h : machine.ReachableIf UpdateTaken st) : st.Converged := by
  have hI : st.Following := by
    refine Machine.ReachableIf.invariant (I := Following) ?_ (fun _ _ _ hI hk hs => step_following hI hk hs) h
    rintro st ⟨hfree, -, hobj, hclient, hphase⟩
    refine ⟨hfree, by rw [hclient, hphase]; rfl, fun p s _ hs => ?_⟩
    rw [hobj] at hs
    cases hs
  intro p s hl hs hne
  have hf := hI.follows p s hl hs
  refine hf.current ?_
  by_contra hh
  have hp : st.phase = .speaking p := eq_of_beq (hf.parked (by simpa using hh)).1
  exact hne (by rw [hI.client, hp]; rfl)

def start : SpeechRun := ⟨⟨false, (TTSManager.new .new ∅ .open 1).enableTTS true⟩, .idle⟩

/-- A configuration set while the session speaks is taken over by `spoke`. -/
theorem configurations_converge_spoke :
    ∃ st, machine.exec start
        [.createSession 7 "guide" [], .start 0, .setConfiguration "a,b,fr,v,,5".toList, .callback .spoke 1 [],
          .finish] = some st ∧
      (st.manager.state.objects[0]?).map (fun s => s.configuration.language) = some "fr".toList ∧ st.Converged := by
  refine ⟨_, rfl, by decide, ?_⟩
  have h0 : machine.ReachableIf UpdateTaken start := .init ⟨rfl, rfl, rfl, rfl, rfl⟩
  have h1 := h0.step (a := Label.createSession 7 "guide" []) trivial rfl
  have h2 := h1.step (a := Label.start 0) trivial rfl
  have h3 := h2.step (a := Label.setConfiguration "a,b,fr,v,,5".toList) (fun _ _ h => by cases h) rfl
  have h4 := h3.step (a := Label.callback .spoke 1 []) (fun h => absurd rfl h) rfl
  exact configurations_converge (h4.step (a := Label.finish) trivial rfl)

/-- The same speech, interrupted: the update stays parked. -/
theorem configurations_diverge : ∃ st, machine.Reachable st ∧ ¬ st.Converged := by
  refine ⟨_, Machine.reachable_of_exec (s := start) ⟨rfl, rfl, rfl, rfl, rfl⟩
    [.createSession 7 "guide" [], .start 0, .setConfiguration "a,b,fr,v,,5".toList, .callback .interrupted 1 [],
      .finish] rfl, ?_⟩
  intro h
  have := (h 0 _ ⟨1, rfl⟩ rfl (by decide)).2.2.1
  exact absurd this (by decide)

end SpeechRun

end TTS
