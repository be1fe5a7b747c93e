import TTS.LockOrder

/-!
# The locks of the JSON-RPC client

The mutex of `TTSClient::create`, `m_serviceListMutex`, `Service::m_mutex`, the
`m_mutex` of the worker and of each `SpeechRequestMap`; and the worker's
thread, which `cleanup` joins, as a lock that the thread has while it runs.
What the callbacks of the users do is a parameter: many are called under
`Service::m_mutex`. Remote calls are taken to return.
-/

namespace TTS

open LockOrder Transition

inductive ServiceLock
  | create
  | serviceList
  | thread
  | service
  | worker
  /-- The `SpeechRequestMap` of a client. -/
  | speeches (client : Nat)
  deriving DecidableEq

def ServiceLock.rank : ServiceLock → Nat
  | .create => 0
  | .serviceList => 1
  | .thread => 2
  | .service => 3
  | .worker => 4
  | .speeches _ => 5

theorem ServiceLock.rank_le (l : ServiceLock) : l.rank ≤ 5 := by
  cases l <;> simp [rank]

abbrev ServiceCode := Code ServiceLock

namespace ServiceCode

/-! ## The worker -/

/-- Where the worker is not running, its last thread is joined and a new one started. -/
def post : ServiceCode := .seq (.guard .worker) (.maybe (.guard .thread))

/-- The thread; `task` runs between the sections. -/
def workerThread (task : ServiceCode) : ServiceCode :=
  .scope .thread (.seq (.guard .worker) (.loop (.seq task (.guard .worker))))

section
/-! ## The service -/

variable (callback : ServiceCode)

/-- `notifyClientsOfActivation`, `notifyClientsOfDeactivation`. -/
def notifyClients : ServiceCode := .scope .service (.loop (.maybe callback))

/-- `initialize` tells the clients that TTS is disabled. -/
def setUp : ServiceCode := .scope .service (.maybe (.loop (.maybe callback)))

/-- A speech event is looked up in the map of each client. -/
def dispatchEvent : ServiceCode :=
  .maybe (.scope .service (.loop (.pick fun client => .seq (.maybe (.guard (.speeches client))) (.maybe callback))))

/-- The tasks that install the state handler and reactivate the service take no locks. -/
def task : ServiceCode := .maybe (.maybe (.seq (setUp callback) (notifyClients callback)))

def onActivation : ServiceCode := post

def onDeactivation : ServiceCode := .seq (notifyClients callback) (.maybe post)

def onPluginStateChange : ServiceCode :=
  .scope .serviceList (.loop (.maybe (.either onActivation (.maybe (onDeactivation callback)))))

/-! ## The client -/

/-- `TTSClient::create` with the constructors it runs; the first one makes the service. -/
def create : ServiceCode :=
  .scope .create (.seq (.maybe (.seq (.guard .serviceList) (.maybe post)))
    (.seq (setUp callback) (.seq (.guard .service) (.maybe callback))))

def destroy (client : Nat) : ServiceCode := .seq (.guard .service) (.maybe (.guard (.speeches client)))

def createSession : ServiceCode := .maybe (.seq (.maybe callback) (.maybe callback))

end

end ServiceCode

/-- What the application's code may call of a client. -/
inductive JsonMethod
  | speak
  | abort
  | pause
  | resume
  | isSpeaking
  | getSpeechState
  | enableTTS
  | listVoices
  | setTTSConfiguration
  | getTTSConfiguration
  | isTTSEnabled
  | destroySession
  deriving DecidableEq

def JsonMethod.locks (client : Nat) : JsonMethod → ServiceCode
  | .speak | .abort | .pause | .resume | .isSpeaking | .getSpeechState => .maybe (.guard (.speeches client))
  | .enableTTS | .listVoices | .setTTSConfiguration | .getTTSConfiguration | .isTTSEnabled | .destroySession => .skip

inductive ServiceEntry
  | create
  | destroy (client : Nat)
  | createSession
  | method (client : Nat) (m : JsonMethod)
  | dispatchEvent
  | onPluginStateChange
  | workerThread

def ServiceEntry.locks (callback : ServiceCode) : ServiceEntry → ServiceCode
  | .create => ServiceCode.create callback
  | .destroy client => ServiceCode.destroy client
  | .createSession => ServiceCode.createSession callback
  | .method client m => m.locks client
  | .dispatchEvent => ServiceCode.dispatchEvent callback
  | .onPluginStateChange => ServiceCode.onPluginStateChange callback
  | .workerThread => ServiceCode.workerThread (ServiceCode.task callback)

def serviceLocks (callback : ServiceCode) : Machine (Threads ServiceLock) (Label ServiceEntry) :=
  Threads.machine (ServiceEntry.locks callback)

/-! ## The order -/

/-- A callback may make these calls, of any clients. -/
def JsonMethod.callback (calls : List (Nat × JsonMethod)) : ServiceCode :=
  calls.foldr (fun call rest => .seq (call.2.locks call.1) rest) .skip

theorem JsonMethod.locks_above (client : Nat) (m : JsonMethod) : (m.locks client).Above ServiceLock.rank 5 := by
  cases m <;> simp [locks, ServiceLock.rank]

theorem JsonMethod.callback_above (calls : List (Nat × JsonMethod)) : (callback calls).Above ServiceLock.rank 4 := by
  induction calls with
  | nil => trivial
  | cons call calls ih => exact ⟨(call.2.locks_above call.1).mono (by decide), ih⟩

namespace ServiceCode

section
variable {callback : ServiceCode} (h : callback.Above ServiceLock.rank 4)
include h

theorem notifyClients_above : (notifyClients callback).Above ServiceLock.rank 3 := by
  simpa [notifyClients, ServiceLock.rank] using h

theorem setUp_above : (setUp callback).Above ServiceLock.rank 3 := by
  simpa [setUp, ServiceLock.rank] using h

theorem dispatchEvent_above : (dispatchEvent callback).Above ServiceLock.rank 3 := by
  simpa [dispatchEvent, ServiceLock.rank] using h

theorem task_above : (task callback).Above ServiceLock.rank 3 := by
  simpa [task] using ⟨setUp_above h, notifyClients_above h⟩

end

theorem post_above : post.Above ServiceLock.rank 2 := by
  simp [post, ServiceLock.rank]

end ServiceCode

open ServiceCode in
theorem ServiceEntry.above {callback : ServiceCode} (h : callback.Above ServiceLock.rank 4) (e : ServiceEntry) :
    (e.locks callback).Above ServiceLock.rank 0 := by
  have hcallback := h.mono (Nat.zero_le 4)
  cases e with
  | create =>
    have hinit := (setUp_above h).mono (show 1 ≤ 3 by decide)
    have hfirst := h.mono (show 1 ≤ 4 by decide)
    have hpost := post_above.mono (show 1 ≤ 2 by decide)
    simp [locks, ServiceCode.create, ServiceLock.rank, hinit, hfirst, hpost]
  | destroy client => simp [locks, ServiceCode.destroy]
  | createSession => simpa [locks, ServiceCode.createSession] using hcallback
  | method client m => exact (m.locks_above client).mono (Nat.zero_le 5)
  | dispatchEvent => exact (dispatchEvent_above h).mono (Nat.zero_le 3)
  | onPluginStateChange =>
    have hnotify := (notifyClients_above h).mono (show 2 ≤ 3 by decide)
    simp [locks, ServiceCode.onPluginStateChange, ServiceCode.onActivation, ServiceCode.onDeactivation,
      ServiceLock.rank, post_above, hnotify]
  | workerThread =>
    have htask := task_above h
    simp [locks, ServiceCode.workerThread, ServiceLock.rank, htask]

/-- **No deadlock in the JSON-RPC client.** Where the callbacks make no calls but those that look up a speech or take no
lock, all calls, events, state changes and tasks come to an end, however many threads are in them and however they
interleave; until then some thread can go on. -/
theorem service_calls_return {callback : ServiceCode} (hcallback : callback.Above ServiceLock.rank 4)
    {s : Threads ServiceLock} (hs : (serviceLocks callback).Reachable s) :
    ∃ n, ∀ (is : List Nat) (t : Threads ServiceLock), (serviceLocks callback).exec s (is.map .go) = some t →
      is.length ≤ n ∧ (is.length < n → ∃ i, (t.goOn i).isSome) ∧
      (is.length = n → (∀ i, t.remaining i = []) ∧ ∀ l, t.holder l = none) := by
  refine Threads.calls_return ServiceLock.rank_le (hs.mono fun s a _ => ?_)
  cases a with
  | call i e choices => exact e.above hcallback
  | go i => trivial

/-- A callback that asks for the state of a speech. -/
def asking : ServiceCode := JsonMethod.callback [(0, .getSpeechState)]

/-- An event of the service is handed to client 0 while the service is deactivated. -/
def eventAndDeactivation : List (Label ServiceEntry) :=
  [.call 0 .dispatchEvent [1, 1, 0, 1, 1, 1], .call 1 .onPluginStateChange [1, 1, 1, 1, 1, 1, 1, 1, 1], .go 0]

theorem service_calls_return_asking :
    ∃ s : Threads ServiceLock, (serviceLocks asking).exec ⟨fun _ => [], fun _ => none⟩ eventAndDeactivation = some s ∧
      s.holder .service = some 0 ∧
      ∃ n, ∀ (is : List Nat) (t : Threads ServiceLock), (serviceLocks asking).exec s (is.map .go) = some t →
        is.length ≤ n ∧ (is.length < n → ∃ i, (t.goOn i).isSome) ∧
        (is.length = n → (∀ i, t.remaining i = []) ∧ ∀ l, t.holder l = none) := by
  have hs := Machine.reachable_of_exec (M := serviceLocks asking) (s := ⟨fun _ => [], fun _ => none⟩) rfl
    eventAndDeactivation rfl
  exact ⟨_, rfl, rfl, service_calls_return (JsonMethod.callback_above _) hs⟩

/-- A callback that destroys the client waits for the mutex that its own thread has. -/
theorem destroying_callback_stuck :
    ∃ s : Threads ServiceLock, (serviceLocks (ServiceCode.destroy 0)).Reachable s ∧ s.remaining 0 ≠ [] ∧
      ∀ i, s.goOn i = none := by
  have hs := Machine.reachable_of_exec (M := serviceLocks (ServiceCode.destroy 0)) (s := ⟨fun _ => [], fun _ => none⟩) rfl
    [.call 0 .dispatchEvent [1, 1, 0, 0, 1, 0], .go 0] rfl
  refine ⟨_, hs, by decide, fun i => ?_⟩
  cases i <;> rfl

end TTS
