import TTS.JsonRuns

/-!
# The service behind the JSON-RPC client

`Service` and `TextToSpeechService` with the queries that find out whether the
service is active, and with the record of its crashes. The link is the one the
client sees; here its calls go through the queries. A remote call appears as its
reply, `none` when it failed, and a clock reading as its ticks.
-/

namespace TTS

open Transition

/-- What `restartServiceOnCrash` sets. -/
structure RestartPolicy where
  restartOnCrash : Bool
  maxRestartAttempts : Nat
  duration : Nat
  ignoreManualDeactivation : Bool

structure Service extends TextToSpeechService where
  activeQuerySuccess : Bool
  policy : RestartPolicy
  crashTimeStamps : List Int

/-- The replies to the remote calls of one `initialize`, should they be made. -/
structure InitializeReplies where
  isActive : Option Bool
  activate : Bool
  forced : Option Bool
  again : Option Bool

/-- A call of `onDeactivation` with what the clock says when the last session is
judged and when the crash is recorded. -/
structure Deactivation where
  requested : Bool
  checked : Int
  recorded : Int
  deriving DecidableEq

/-- Ticks of `system_clock`. -/
def ticksPerSecond : Int := 1000000000

namespace Service

def new (policy : RestartPolicy) : Service := { TextToSpeechService.new with
  activeQuerySuccess := false
  policy := policy
  crashTimeStamps := [] }

/-- The callsign is not empty. -/
def isActive (s : Service) (force : Bool) (reply : Option Bool) : Bool × Service :=
  if force || !s.activeQuerySuccess then
    (reply.getD false, { s with activeQuerySuccess := reply.isSome, active := reply.getD false })
  else (s.active, s)

def activate (s : Service) (success : Bool) : Service := if s.active then s else { s with active := success }

/-- `Service::initialize` up to the remote object. -/
def findActive (s : Service) (activateIfRequired : Bool) (r : InitializeReplies) : Service :=
  let (active, s) := s.isActive false r.isActive
  if active then s else ((if activateIfRequired then s.activate r.activate else s).isActive true r.forced).2

def connect (s : Service) (activateIfRequired : Bool) (r : InitializeReplies) : Service :=
  if s.initialized then s
  else
    let s := s.findActive activateIfRequired r
    if s.active && !s.remoteObject then { s with remoteObject := true } else s

/-- `TextToSpeechService::initialize`, up to the telling of the clients. -/
def setUp (s : Service) (activateIfRequired : Bool) (r : InitializeReplies) (accepts : String → Bool) : Service :=
  if s.initialized then s
  else
    let (active, s) := (s.connect activateIfRequired r).isActive false r.again
    let s :=
      if active && s.remoteObject then { s with
        toTextToSpeechService := ["onttsstatechanged", "onvoicechanged"].foldl
          (TextToSpeechService.subscribe accepts) s.toTextToSpeechService }
      else s
    { s with isInitialized := true }

/-- `uninitialize` of both classes: the events it unsubscribes, and what it leaves. -/
def uninitialize (s : Service) : List String × Service :=
  (s.eventsRegistered, { s with toTextToSpeechService := s.toTextToSpeechService.deactivated })

/-- What `isActive` returns is `m_active`, as the link has it then. -/
def registerSpeechEventHandlers (s : Service) (reply : Option Bool) (accepts : String → Bool) : Service :=
  let s := (s.isActive false reply).2
  { s with toTextToSpeechService := s.toTextToSpeechService.registerSpeechEventHandlers accepts }

/-! ## Crashes -/

def lastSessionWasHealthy (s : Service) (now : Int) : Bool :=
  match s.crashTimeStamps.getLast? with
  | some last => decide ((s.policy.duration : Int) ≤ (now - last).tdiv ticksPerSecond)
  | none => true

def isServiceUnstable (s : Service) : Bool := decide (s.policy.maxRestartAttempts < s.crashTimeStamps.length)

/-- The end of `onDeactivation`, also whether the reactivation of the service was posted. -/
def recordCrash (s : Service) (d : Deactivation) : Bool × Service :=
  let s := if s.lastSessionWasHealthy d.checked then { s with crashTimeStamps := [] } else s
  let s := { s with crashTimeStamps := s.crashTimeStamps ++ [d.recorded] }
  (!s.isServiceUnstable, s)

def onDeactivation (s : Service) (d : Deactivation) : Bool × Service :=
  let s := ( uninitialize { s with eventsRegistered := [] }).2
  if !s.policy.restartOnCrash then (false, s)
  else if d.requested && s.policy.ignoreManualDeactivation then (false, s)
  else s.recordCrash d

end Service

/-! ## Runs -/

inductive ServiceCall
  | isActive (force : Bool) (reply : Option Bool)
  | activate (success : Bool)
  | setUp (activateIfRequired : Bool) (replies : InitializeReplies) (accepts : String → Bool)
  | registerSpeechEventHandlers (reply : Option Bool) (accepts : String → Bool)
  | uninitialize
  | onDeactivation (d : Deactivation)

def Service.perform (s : Service) : ServiceCall → Service
  | .isActive force reply => (s.isActive force reply).2
  | .activate success => s.activate success
  | .setUp activateIfRequired replies accepts => s.setUp activateIfRequired replies accepts
  | .registerSpeechEventHandlers reply accepts => s.registerSpeechEventHandlers reply accepts
  | ServiceCall.uninitialize => ( uninitialize s).2
  | .onDeactivation d => (s.onDeactivation d).2

def service : Machine Service ServiceCall where
  init s := ∃ policy, s = .new policy
  step s call := some (s.perform call)

/-! ## What a call does to the link -/

namespace Service

theorem isActive_link (s : Service) (force : Bool) (reply : Option Bool) :
    ∃ active, (s.isActive force reply).2.toTextToSpeechService = { s.toTextToSpeechService with active := active } := by
  unfold isActive
  split <;> exact ⟨_, rfl⟩

theorem isActive_active (s : Service) (force : Bool) (reply : Option Bool) :
    (s.isActive force reply).1 = (s.isActive force reply).2.active := by
  unfold isActive
  split <;> rfl

theorem activate_link (s : Service) (success : Bool) :
    ∃ active, (s.activate success).toTextToSpeechService = { s.toTextToSpeechService with active := active } := by
  unfold activate
  split <;> exact ⟨_, rfl⟩

theorem findActive_link (s : Service) (activateIfRequired : Bool) (r : InitializeReplies) :
    ∃ active, (s.findActive activateIfRequired r).toTextToSpeechService = { s.toTextToSpeechService with active := active } := by
  obtain ⟨first, hfirst⟩ := s.isActive_link false r.isActive
  unfold findActive
  generalize s.isActive false r.isActive = found at hfirst
  obtain ⟨active, s'⟩ := found
  cases active with
  | true => exact ⟨first, hfirst⟩
  | false =>
    have hactivate : ∃ active, (if activateIfRequired then s'.activate r.activate else s').toTextToSpeechService =
        { s.toTextToSpeechService with active := active } := by
      cases activateIfRequired with
      | true =>
        obtain ⟨active, h⟩ := s'.activate_link r.activate
        exact ⟨active, by rw [if_pos rfl, h, hfirst]⟩
      | false => exact ⟨first, hfirst⟩
    obtain ⟨second, hsecond⟩ := hactivate
    obtain ⟨third, hthird⟩ := (if activateIfRequired then s'.activate r.activate else s').isActive_link true r.forced
    exact ⟨third, by simp only [Bool.false_eq_true, if_false, hthird, hsecond]⟩

theorem onDeactivation_frame (s : Service) (d : Deactivation) :
    (s.onDeactivation d).2.toTextToSpeechService = s.toTextToSpeechService.deactivated ∧
      (s.onDeactivation d).2.policy = s.policy := by
  unfold onDeactivation
  simp only
  split
  · exact ⟨rfl, rfl⟩
  · split
    · exact ⟨rfl, rfl⟩
    · unfold recordCrash
      simp only
      split <;> exact ⟨rfl, rfl⟩

theorem connect_link {s : Service} (h : s.initialized = false) (activateIfRequired : Bool) (r : InitializeReplies) :
    ∃ active, (s.connect activateIfRequired r).toTextToSpeechService =
      { s.toTextToSpeechService with active := active, remoteObject := s.remoteObject || active } := by
  obtain ⟨active, hactive⟩ := s.findActive_link activateIfRequired r
  refine ⟨active, ?_⟩
  unfold connect
  rw [if_neg (by rw [h]; exact Bool.false_ne_true)]
  generalize s.findActive activateIfRequired r = s' at hactive
  obtain ⟨link, success, policy, stamps⟩ := s'
  obtain rfl : link = _ := hactive
  cases active <;> cases hr : s.remoteObject <;> simp [hr]

theorem setUp_link {s : Service} (h : s.initialized = false) (activateIfRequired : Bool) (r : InitializeReplies)
    (accepts : String → Bool) :
    ∃ active remote, (s.setUp activateIfRequired r accepts).toTextToSpeechService =
      { s.toTextToSpeechService with
        active := active
        remoteObject := s.remoteObject || remote
        isInitialized := true
        eventsRegistered := s.eventsRegistered ++
          if active && (s.remoteObject || remote) then ["onttsstatechanged", "onvoicechanged"].filter accepts else [] } := by
  obtain ⟨remote, hconnect⟩ := connect_link h activateIfRequired r
  obtain ⟨active, hagain⟩ := (s.connect activateIfRequired r).isActive_link false r.again
  have hfound := (s.connect activateIfRequired r).isActive_active false r.again
  rw [hconnect] at hagain
  unfold setUp
  generalize (s.connect activateIfRequired r).isActive false r.again = found at hagain hfound
  obtain ⟨found, ⟨link, success, policy, stamps⟩⟩ := found
  obtain rfl : link = _ := hagain
  obtain rfl : found = active := hfound
  refine ⟨found, remote, ?_⟩
  rw [if_neg (by rw [h]; exact Bool.false_ne_true)]
  simp only [TextToSpeechService.foldl_subscribe]
  split
  · rename_i hup
    simp [(Bool.and_eq_true_iff.mp hup).2]
  · simp

/-- Where the last query is not made this is the link as the client sees it. -/
theorem setUp_eq_setUp {s : Service} (h : s.initialized = false) (activateIfRequired : Bool) (r : InitializeReplies)
    (accepts : String → Bool) (hagain : (s.connect activateIfRequired r).activeQuerySuccess = true) :
    (s.setUp activateIfRequired r accepts).toTextToSpeechService =
      (s.toTextToSpeechService.setUp (s.connect activateIfRequired r).active accepts).2 := by
  obtain ⟨active, hconnect⟩ := connect_link h activateIfRequired r
  have hquery : (s.connect activateIfRequired r).isActive false r.again =
      ((s.connect activateIfRequired r).active, s.connect activateIfRequired r) := by
    unfold isActive
    rw [hagain]
    rfl
  have hup : ¬s.initialized = true := by
    rw [h]
    exact Bool.false_ne_true
  unfold setUp TextToSpeechService.setUp
  rw [if_neg hup, if_neg hup, hquery]
  generalize s.connect activateIfRequired r = s' at hconnect
  obtain ⟨link, success, policy, stamps⟩ := s'
  obtain rfl : link = _ := hconnect
  simp only
  split <;> rfl

end Service

end TTS
