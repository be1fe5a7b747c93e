import TTS.History
import TTS.LockOrder

/-!
# The locks of the RtRemote client

The mutex of `TTSClient::create`, the two static mutexes of the startup
threads, `m_startupThreadMutex` and `m_mutex` of each client; and as locks that
a thread has while it runs, the startup thread of each client and the
dispatcher, which a destructor joins. The wait of a startup thread is one for a
lock that is free, unless the notification that was to end it is lost. What the
callbacks of the users do is a parameter. Remote calls are taken to return.
-/

namespace TTS

open LockOrder Transition

inductive ClientLock
  | create
  | dispatcher
  | startupThread (client : Nat)
  /-- `m_startupThreadMutex`. -/
  | monitor (client : Nat)
  /-- Taken where no notification will wake the thread. -/
  | wakeUp (client : Nat)
  /-- `sMutex` of `connectToTTSManager`. -/
  | connect
  /-- `m_mutex`. -/
  | sessions (client : Nat)
  /-- The static mutex of `findRemoteObject`. -/
  | locate
  deriving DecidableEq

def ClientLock.rank : ClientLock → Nat
  | .create => 0
  | .dispatcher => 1
  | .startupThread _ => 2
  | .monitor _ | .wakeUp _ => 3
  | .connect => 4
  | .sessions _ => 5
  | .locate => 6

theorem ClientLock.rank_le (l : ClientLock) : l.rank ≤ 6 := by
  cases l <;> simp [rank]

abbrev ClientCode := Code ClientLock

/-- The users' callbacks: of a connection made or closed, in `createSession`, and of an event. -/
structure UserCallbacks where
  connected : ClientCode
  closed : ClientCode
  created : ClientCode
  event : ClientCode

namespace UserCallbacks

/-- Each takes only locks above those under which it is called. -/
structure InOrder (u : UserCallbacks) : Prop where
  connected : u.connected.Above ClientLock.rank 5
  closed : u.closed.Above ClientLock.rank 0
  created : u.created.Above ClientLock.rank 6
  event : u.event.Above ClientLock.rank 2

end UserCallbacks

namespace ClientCode

def findRemoteObject : ClientCode := .guard .locate

/-- A wait on `m_startupThreadCondition`, which evaluates the predicate under the mutex and blocks without it, any
number of times, and the check for the engine with the mutex locked again. -/
def monitorServer (client : Nat) : ClientCode :=
  .seq (.loop (.seq (.guard (.monitor client)) (.guard (.wakeUp client))))
    (.scope (.monitor client) (.maybe (.guard .connect)))

variable (u : UserCallbacks)

def connectToTTSManager (client : Nat) : ClientCode :=
  .scope (.startupThread client)
    (.loop (.seq (.scope .connect (.seq (.maybe findRemoteObject) (.maybe u.connected))) (.maybe (monitorServer client))))

/-- `onEventCB`, on the dispatcher or on a main loop of the application. -/
def onEventCB : ClientCode := .either (.scope .dispatcher (.maybe u.event)) (.maybe u.event)

def rtServerCrashCB : ClientCode := .maybe u.closed

def create : ClientCode := .scope .create (.maybe findRemoteObject)

/-- The last client joins the dispatcher too. -/
def destroy (client : Nat) : ClientCode := .seq (.guard (.startupThread client)) (.maybe (.guard .dispatcher))

def createSession (client : Nat) : ClientCode :=
  .maybe (.scope (.sessions client) (.seq (.maybe u.created) (.maybe u.created)))

end ClientCode

/-- The other calls of a client take no locks. `quitMissed` is no call: the destructor's notification falls between the
predicate of the thread's wait and the block. -/
inductive ClientEntry
  | create
  | destroy (client : Nat)
  | createSession (client : Nat)
  | otherCall
  | connectToTTSManager (client : Nat)
  | onEventCB
  | rtServerCrashCB
  | quitMissed (client : Nat)

def ClientEntry.locks (u : UserCallbacks) : ClientEntry → ClientCode
  | .create => ClientCode.create
  | .destroy client => ClientCode.destroy client
  | .createSession client => ClientCode.createSession u client
  | .otherCall => .skip
  | .connectToTTSManager client => ClientCode.connectToTTSManager u client
  | .onEventCB => ClientCode.onEventCB u
  | .rtServerCrashCB => ClientCode.rtServerCrashCB u
  | .quitMissed client => .take (.wakeUp client)

/-- A call, or a step of one, with no notification missed. -/
def unmissed : Label ClientEntry → Bool
  | .call _ (.quitMissed _) _ => false
  | _ => true

def clientLocks (u : UserCallbacks) : Machine (Threads ClientLock) (Label ClientEntry) :=
  Threads.machine (ClientEntry.locks u)

/-! ## The order -/

/-- Sessions may be created when the connection is made, and when an event comes. -/
theorem ClientCode.createSession_above {u : UserCallbacks} (h : u.created.Above ClientLock.rank 6) (client : Nat) :
    (createSession u client).Above ClientLock.rank 5 := by
  simpa [createSession, ClientLock.rank] using h

theorem ClientCode.monitorServer_above (client : Nat) : (monitorServer client).Above ClientLock.rank 3 := by
  simp [monitorServer, ClientLock.rank]

theorem ClientEntry.above {u : UserCallbacks} (h : u.InOrder) {e : ClientEntry} (he : ∀ client, e ≠ .quitMissed client) :
    (e.locks u).Above ClientLock.rank 0 := by
  cases e with
  | quitMissed client => exact absurd rfl (he client)
  | create => simp [locks, ClientCode.create, ClientCode.findRemoteObject, ClientLock.rank]
  | destroy client => simp [locks, ClientCode.destroy]
  | createSession client => exact (ClientCode.createSession_above h.created client).mono (Nat.zero_le 5)
  | otherCall => trivial
  | connectToTTSManager client =>
    simp [locks, ClientCode.connectToTTSManager, ClientCode.findRemoteObject, ClientLock.rank, h.connected,
      ClientCode.monitorServer_above]
  | onEventCB =>
    have hunlocked := h.event.mono (Nat.zero_le 2)
    simp [locks, ClientCode.onEventCB, ClientLock.rank, h.event, hunlocked]
  | rtServerCrashCB => simpa [locks, ClientCode.rtServerCrashCB] using h.closed

/-- **No deadlock in the RtRemote client.** Where the callbacks take their locks in order, all calls, startup threads
and events of all clients come to an end, however many threads are in them and however they interleave, unless a
notification to quit is lost; until then some thread can go on. -/
theorem client_calls_return {u : UserCallbacks} (hu : u.InOrder) {s : Threads ClientLock}
    (hs : (clientLocks u).ReachableIf (fun _ a => unmissed a = true) s) :
    ∃ n, ∀ (is : List Nat) (t : Threads ClientLock), (clientLocks u).exec s (is.map .go) = some t →
      is.length ≤ n ∧ (is.length < n → ∃ i, (t.goOn i).isSome) ∧
      (is.length = n → (∀ i, t.remaining i = []) ∧ ∀ l, t.holder l = none) := by
  refine Threads.calls_return ClientLock.rank_le (hs.mono fun s a ha => ?_)
  cases a with
  | call i e choices =>
    apply ClientEntry.above hu
    rintro client rfl
    cases ha
  | go i => trivial

def noCallbacks : UserCallbacks := ⟨.skip, .skip, .skip, .skip⟩

/-- The session of client 0 is created as soon as it is connected. -/
def createsSession : UserCallbacks := { noCallbacks with connected := ClientCode.createSession noCallbacks 0 }

/-- Client 0 has been connected, and client 1 waits for its turn while it is destroyed. -/
def connectedAndDestroyed : List (Label ClientEntry) :=
  [.call 0 (.connectToTTSManager 0) [1, 1, 1, 1, 0, 0, 1, 1, 1], .call 1 (.connectToTTSManager 1) [1, 0, 0, 0],
    .call 2 (.destroy 1) [0], .go 0, .go 0, .go 0, .go 0, .go 0, .go 1]

theorem client_calls_return_connected :
    ∃ s : Threads ClientLock, (clientLocks createsSession).exec ⟨fun _ => [], fun _ => none⟩ connectedAndDestroyed = some s ∧
      s.goOn 1 = none ∧ s.goOn 2 = none ∧
      ∃ n, ∀ (is : List Nat) (t : Threads ClientLock), (clientLocks createsSession).exec s (is.map .go) = some t →
        is.length ≤ n ∧ (is.length < n → ∃ i, (t.goOn i).isSome) ∧
        (is.length = n → (∀ i, t.remaining i = []) ∧ ∀ l, t.holder l = none) := by
  have hstart : (clientLocks createsSession).ReachableIf (fun _ a => unmissed a = true) ⟨fun _ => [], fun _ => none⟩ := .init rfl
  have hs := hstart.execIf connectedAndDestroyed rfl
  have hcreate : (ClientCode.createSession noCallbacks 0).Above ClientLock.rank 5 :=
    ClientCode.createSession_above (u := noCallbacks) trivial 0
  have hu : createsSession.InOrder := ⟨hcreate, trivial, trivial, trivial⟩
  exact ⟨_, rfl, rfl, rfl, client_calls_return hu hs⟩

/-- Client 1 is destroyed when client 0 is connected, and its thread waits for the mutex that is held meanwhile. -/
example : ∃ s : Threads ClientLock, (clientLocks { noCallbacks with connected := ClientCode.destroy 1 }).Reachable s ∧
    s.remaining 0 ≠ [] ∧ ∀ i, s.goOn i = none := by
  have hs := Machine.reachable_of_exec (M := clientLocks { noCallbacks with connected := ClientCode.destroy 1 })
    (s := ⟨fun _ => [], fun _ => none⟩) rfl
    [.call 0 (.connectToTTSManager 0) [1, 0, 1, 0, 0], .call 1 (.connectToTTSManager 1) [1, 0, 0, 0], .go 1, .go 0, .go 0] rfl
  refine ⟨_, hs, by decide, fun i => ?_⟩
  match i with
  | 0 | 1 => rfl
  | _ + 2 => rfl

/-- The thread of client 0 blocks after the notification of its destructor, which joins it for ever. -/
example : ∃ s : Threads ClientLock, (clientLocks noCallbacks).Reachable s ∧ s.remaining 1 ≠ [] ∧ ∀ i, s.goOn i = none := by
  have hs := Machine.reachable_of_exec (M := clientLocks noCallbacks) (s := ⟨fun _ => [], fun _ => none⟩) rfl
    ([.call 0 (.connectToTTSManager 0) [1, 0, 0, 1, 1, 0]] ++ List.replicate 5 (.go 0) ++
      [.call 2 (.quitMissed 0) [], .go 2, .call 1 (.destroy 0) [0]]) rfl
  refine ⟨_, hs, by decide, fun i => ?_⟩
  match i with
  | 0 | 1 | 2 => rfl
  | _ + 3 => rfl

end TTS
