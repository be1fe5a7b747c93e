import TTS.History
import TTS.JsonRuns
import TTS.Mirror

/-!
# The enabled flag of the JSON-RPC client

`m_ttsEnabled` is fetched by `isTTSEnabled`, on the caller's thread, and set by
the service's events, on another; nothing keeps an event from overtaking the
reply that a fetch is about to store. A service that comes up is taken to be
disabled until one or the other tells. `initialize` and `onDeactivation` take
their steps one by one, and only the clients are told under the mutex.
-/

namespace TTS

open Transition

namespace TTSClientPrivateJsonRPC

/-- `isTTSEnabled` up to the remote call: whether it is made. -/
def query (s : TTSClientPrivateJsonRPC) (active force : Bool) : Bool × TTSClientPrivateJsonRPC :=
  (active && (force || s.firstQuery), if active then { s with firstQuery := false } else s)

/-- Its end, with the reply. -/
def storeEnabled (s : TTSClientPrivateJsonRPC) (isenabled : Bool) : TTSClientPrivateJsonRPC := { s with ttsEnabled := isenabled }

theorem isTTSEnabled_eq (s : TTSClientPrivateJsonRPC) (active force : Bool) (fetched : Option Bool) :
    s.isTTSEnabled active force fetched =
      if (s.query active force).1 then
        match fetched with
        | none => (false, (s.query active force).2)
        | some isenabled => (isenabled, (s.query active force).2.storeEnabled isenabled)
      else (active && s.ttsEnabled, (s.query active force).2) := by
  unfold isTTSEnabled query
  cases active with
  | false => rfl
  | true =>
    cases force || s.firstQuery with
    | false => rfl
    | true => cases fetched <;> rfl

end TTSClientPrivateJsonRPC

/-- Where `TextToSpeechService::initialize` is. -/
inductive Initializing
  | out
  /-- The events that it has still to subscribe to. -/
  | subscribing (events : List String)
  | telling

/-- Where `onDeactivation` is. -/
inductive Deactivating
  | out
  /-- The link is gone, `m_initialized` is not. -/
  | unlinked
  | telling

structure JsonFlag where
  service : TextToSpeechService
  initializing : Initializing
  deactivating : Deactivating
  /-- Whether TTS is enabled in the service. -/
  enabled : Bool
  client : TTSClientPrivateJsonRPC
  /-- The state changes sent over this subscription. -/
  sent : List Bool
  handled : Nat
  /-- The state change that `dispatchEvent` has, and whether it found the service initialized. -/
  received : Option (Bool × Bool)
  /-- Replies to `isttsenabled` still to be stored, with the number of events sent before they were made. -/
  fetches : List (Nat × Bool)
  /-- The last that the client's flag was set to is what a reply or an event said, and no event was dropped since. -/
  known : Bool

namespace JsonFlag

inductive Label
  /-- Another client is there. -/
  | construct (connectionCallback : Bool)
  | setEnabled (enabled : Bool)
  /-- `dispatchEvent`, up to the mutex, and from there. -/
  | receive
  | dispatch
  /-- `isTTSEnabled`, up to the reply; `createSession` makes the forced one. -/
  | query (force failed : Bool)
  | store (i : Nat)
  /-- `initialize`, with what `isActive` finds: the link, each subscription, `m_initialized`, the clients. -/
  | link (active : Bool)
  | subscribe (accepts : String → Bool)
  | setInitialized
  | tellInitialized
  /-- `onDeactivation`: the link, `m_initialized`, the clients. -/
  | deactivate
  | clearInitialized
  | tellDeactivated

variable (st : JsonFlag)

def subscribed : Prop := "onttsstatechanged" ∈ st.service.eventsRegistered

instance : Decidable st.subscribed := inferInstanceAs (Decidable (_ ∈ _))

def step : Label → Option JsonFlag
  | .construct connectionCallback =>
    match st.initializing with
    | .out => some { st with client := .new connectionCallback, fetches := [], known := false }
    | _ => none
  | .setEnabled enabled =>
    some { st with enabled := enabled, sent := if st.subscribed then st.sent ++ [enabled] else st.sent }
  | .receive =>
    match st.received, st.sent[st.handled]? with
    | none, some enabled => some { st with received := some (enabled, st.service.initialized) }
    | _, _ => none
  | .dispatch =>
    match st.received, st.initializing with
    | some (_, false), _ => some { st with received := none, handled := st.handled + 1, known := false }
    | some (enabled, true), .out =>
      some { st with
        client := st.client.onTTSStateChange enabled
        received := none
        handled := st.handled + 1
        known := true }
    | _, _ => none
  | .query force failed =>
    let asks := (st.client.query st.service.active force).1 && st.service.remoteObject && !failed
    some { st with
      client := (st.client.query st.service.active force).2
      fetches := if asks then st.fetches ++ [(st.sent.length, st.enabled)] else st.fetches }
  | .store i =>
    (st.fetches[i]?).map fun f => { st with
      client := st.client.storeEnabled f.2
      fetches := st.fetches.eraseIdx i
      known := true }
  | .link active =>
    match st.initializing with
    | .out =>
      if st.service.initialized then none
      else
        let remoteObject := st.service.remoteObject || active
        some { st with
          service := { st.service with active := active, remoteObject := remoteObject }
          initializing :=
            .subscribing (if active && remoteObject then ["onttsstatechanged", "onvoicechanged"] else []) }
    | _ => none
  | .subscribe accepts =>
    match st.initializing with
    | .subscribing (event :: events) =>
      some { st with
        service := st.service.subscribe accepts event
        initializing := .subscribing events
        sent := if st.subscribed then st.sent else []
        handled := if st.subscribed then st.handled else 0
        known := st.known && st.subscribed }
    | _ => none
  | .setInitialized =>
    match st.initializing with
    | .subscribing [] =>
      some { st with service := { st.service with isInitialized := true }, initializing := .telling }
    | _ => none
  | .tellInitialized =>
    match st.initializing with
    | .telling => some { st with client := st.client.onTTSStateChange false, initializing := .out, known := false }
    | _ => none
  | .deactivate =>
    match st.deactivating with
    | .out =>
      some { st with
        service := { st.service with active := false, remoteObject := false, eventsRegistered := [] }
        deactivating := .unlinked }
    | _ => none
  | .clearInitialized =>
    match st.deactivating with
    | .unlinked =>
      some { st with
        service := { st.service with isInitialized := false, registeredSpeechEventHandlers := false }
        deactivating := .telling }
    | _ => none
  | .tellDeactivated =>
    match st.deactivating, st.initializing with
    | .telling, .out => some { st with client := st.client.onDeactivation, deactivating := .out, known := false }
    | _, _ => none

/-- A client of a service that is not there yet. -/
def start (connectionCallback : Bool) : JsonFlag where
  service := .new
  initializing := .out
  deactivating := .out
  enabled := false
  client := .new connectionCallback
  sent := []
  handled := 0
  received := none
  fetches := []
  known := false

def machine : Machine JsonFlag Label where
  init st := ∃ connectionCallback, st = start connectionCallback
  step := step

/-- No event is processed before a reply that was made before it was sent is stored, and neither is on its way from
before a subscription. -/
def InOrder : Label → Prop
  | .dispatch => ∀ f ∈ st.fetches, st.handled < f.1
  | .subscribe _ => st.subscribed ∨ st.fetches = [] ∧ st.received = none
  | _ => True

instance (a : Label) : Decidable (st.InOrder a) :=
  match a with
  | .dispatch => inferInstanceAs (Decidable (∀ f ∈ st.fetches, st.handled < f.1))
  | .subscribe _ => inferInstanceAs (Decidable (st.subscribed ∨ st.fetches = [] ∧ st.received = none))
  | .construct _ | .setEnabled _ | .receive | .query _ _ | .store _ | .link _ | .setInitialized |
    .tellInitialized | .deactivate | .clearInitialized | .tellDeactivated => inferInstanceAs (Decidable True)

variable {st}

/-- The steps of `initialize` in a row. -/
theorem setUp_exec (hi : st.initializing = .out) (hs : st.service.initialized = false) (active : Bool)
    (accepts : String → Bool) :
    ∃ st', machine.exec st (.link active :: (if active then [.subscribe accepts, .subscribe accepts] else []) ++
        [.setInitialized, .tellInitialized]) = some st' ∧
      st'.service = (st.service.setUp active accepts).2 ∧ st'.client = st.client.onTTSStateChange false := by
  obtain ⟨service, initializing, deactivating, enabled, client, sent, handled, received, fetches, known⟩ := st
  obtain rfl : initializing = .out := hi
  have hs : service.initialized = false := hs
  cases active with
  | false =>
    refine ⟨_, by simp [machine, Machine.exec, step, hs]; rfl, ?_, rfl⟩
    simp [TextToSpeechService.setUp, hs]
  | true =>
    refine ⟨_, by simp [machine, Machine.exec, step, hs]; rfl, ?_, rfl⟩
    simp [TextToSpeechService.setUp, hs]

/-- The steps of `onDeactivation` in a row. -/
theorem deactivate_exec (hi : st.initializing = .out) (hd : st.deactivating = .out) :
    machine.exec st [.deactivate, .clearInitialized, .tellDeactivated] = some { st with
      service := st.service.deactivated, client := st.client.onDeactivation, known := false } := by
  obtain ⟨service, initializing, deactivating, enabled, client, sent, handled, received, fetches, known⟩ := st
  obtain rfl : initializing = .out := hi
  obtain rfl : deactivating = .out := hd
  rfl

/-- What each step finds and leaves; those of `initialize` and `onDeactivation` beside the subscriptions touch nothing
that is on its way. -/
inductive Ran (st : JsonFlag) : Label → JsonFlag → Prop
  | construct (connectionCallback : Bool) :
    Ran st (.construct connectionCallback)
      { st with client := .new connectionCallback, fetches := [], known := false }
  | setEnabled (enabled : Bool) :
    Ran st (.setEnabled enabled) { st with
      enabled := enabled, sent := if st.subscribed then st.sent ++ [enabled] else st.sent }
  | receive {enabled : Bool} (he : st.sent[st.handled]? = some enabled) :
    Ran st .receive { st with received := some (enabled, st.service.initialized) }
  | drop {enabled : Bool} (hr : st.received = some (enabled, false)) :
    Ran st .dispatch { st with received := none, handled := st.handled + 1, known := false }
  | dispatch {enabled : Bool} (hr : st.received = some (enabled, true)) :
    Ran st .dispatch { st with
      client := st.client.onTTSStateChange enabled, received := none, handled := st.handled + 1, known := true }
  | query (force failed : Bool) :
    Ran st (.query force failed) { st with
      client := (st.client.query st.service.active force).2
      fetches :=
        if (st.client.query st.service.active force).1 && st.service.remoteObject && !failed then
          st.fetches ++ [(st.sent.length, st.enabled)]
        else st.fetches }
  | store {i : Nat} {f : Nat × Bool} (hf : st.fetches[i]? = some f) :
    Ran st (.store i) { st with
      client := st.client.storeEnabled f.2, fetches := st.fetches.eraseIdx i, known := true }
  | subscribe (accepts : String → Bool) (event : String) (events : List String) :
    Ran st (.subscribe accepts) { st with
      service := st.service.subscribe accepts event
      initializing := .subscribing events
      sent := if st.subscribed then st.sent else []
      handled := if st.subscribed then st.handled else 0
      known := st.known && st.subscribed }
  | other {a : Label} {service : TextToSpeechService} {client : TTSClientPrivateJsonRPC} {known : Bool}
    (initializing : Initializing) (deactivating : Deactivating)
    (hservice : service.eventsRegistered = st.service.eventsRegistered ∨ service.eventsRegistered = [])
    (hknown : known = true → st.known = true ∧ client = st.client) :
    Ran st a { st with
      service := service, initializing := initializing, deactivating := deactivating, client := client, known := known }

theorem step_ran {st' : JsonFlag} {a : Label} (hs : st.step a = some st') : st.Ran a st' := by
  cases a with
  | construct connectionCallback =>
    simp only [step] at hs
    split at hs
    next =>
      cases hs
      exact .construct connectionCallback
    next => cases hs
  | setEnabled enabled =>
    cases hs
    exact .setEnabled enabled
  | receive =>
    simp only [step] at hs
    split at hs
    next he =>
      cases hs
      exact .receive he
    next => cases hs
  | dispatch =>
    simp only [step] at hs
    split at hs
    next hr =>
      cases hs
      exact .drop hr
    next hr _ =>
      cases hs
      exact .dispatch hr
    next => cases hs
  | query force failed =>
    cases hs
    exact .query force failed
  | store i =>
    obtain ⟨f, hf, rfl⟩ := Option.map_eq_some_iff.mp hs
    exact .store hf
  | link active =>
    simp only [step] at hs
    split at hs
    next =>
      simp only [Option.ite_none_left_eq_some, Option.some.injEq] at hs
      obtain ⟨-, rfl⟩ := hs
      exact .other _ _ (.inl rfl) fun hk => ⟨hk, rfl⟩
    next => cases hs
  | subscribe accepts =>
    simp only [step] at hs
    split at hs
    next event events _ =>
      cases hs
      exact .subscribe accepts event events
    next => cases hs
  | setInitialized =>
    simp only [step] at hs
    split at hs
    next =>
      cases hs
      exact .other _ _ (.inl rfl) fun hk => ⟨hk, rfl⟩
    next => cases hs
  | tellInitialized =>
    simp only [step] at hs
    split at hs
    next =>
      cases hs
      exact .other _ _ (.inl rfl) fun hk => (by cases hk)
    next => cases hs
  | deactivate =>
    simp only [step] at hs
    split at hs
    next =>
      cases hs
      exact .other _ _ (.inr rfl) fun hk => ⟨hk, rfl⟩
    next => cases hs
  | clearInitialized =>
    simp only [step] at hs
    split at hs
    next =>
      cases hs
      exact .other _ _ (.inl rfl) fun hk => ⟨hk, rfl⟩
    next => cases hs
  | tellDeactivated =>
    simp only [step] at hs
    split at hs
    next =>
      cases hs
      exact .other _ _ (.inl rfl) fun hk => (by cases hk)
    next => cases hs

/-! ## What the client knows -/

/-- With `c` for the flag, as if no event had been dropped. -/
structure Tracked (st : JsonFlag) (c : Bool) : Prop where
  follows : Mirror.Follows some st.enabled ⟨st.sent, c, st.handled, st.fetches⟩
  flag : st.known = true → st.client.ttsEnabled = c
  received : ∀ r, st.received = some r → st.sent[st.handled]? = some r.1

variable {st' : JsonFlag}

theorem query_ttsEnabled (s : TTSClientPrivateJsonRPC) (active force : Bool) :
    (s.query active force).2.ttsEnabled = s.ttsEnabled := by
  unfold TTSClientPrivateJsonRPC.query
  split <;> rfl

/-- A new subscription starts with the service's state, and nothing on its way. -/
theorem subscribe_tracked {accepts : String → Bool} (h : st.subscribed → ∃ c, Tracked st c)
    (ho : st.InOrder (.subscribe accepts)) (event : String) (events : List String) :
    ∃ c, Tracked { st with
      service := st.service.subscribe accepts event
      initializing := .subscribing events
      sent := if st.subscribed then st.sent else []
      handled := if st.subscribed then st.handled else 0
      known := st.known && st.subscribed } c := by
  by_cases hsub : st.subscribed
  · obtain ⟨c, hc⟩ := h hsub
    refine ⟨c, ?_, fun hk => hc.flag (Bool.and_eq_true_iff.mp hk).1, fun r hr => ?_⟩
    · simpa only [if_pos hsub] using hc.follows
    · simpa only [if_pos hsub] using hc.received r hr
  · obtain ⟨hnone, hreceived⟩ := ho.resolve_left hsub
    refine ⟨st.enabled, ?_, fun hk => ?_, fun r hr => ?_⟩
    · simp only [if_neg hsub, hnone]
      exact ⟨Nat.le_refl _, rfl, fun f hf => (by cases hf)⟩
    · exact absurd (of_decide_eq_true (Bool.and_eq_true_iff.mp hk).2) hsub
    · exact absurd (hreceived.symm.trans hr) (by simp)

theorem step_tracked {a : Label} (h : st.subscribed → ∃ c, Tracked st c) (ho : st.InOrder a) (hs : st.step a = some st')
    (hsub : st'.subscribed) : ∃ c, Tracked st' c := by
  cases step_ran hs with
  | construct connectionCallback =>
    obtain ⟨c, hc⟩ := h hsub
    exact ⟨c, ⟨hc.follows.handled_le, hc.follows.copy, fun f hf => (by cases hf)⟩, fun hk => (by cases hk), hc.received⟩
  | setEnabled enabled =>
    have hsub : st.subscribed := hsub
    obtain ⟨c, hc⟩ := h hsub
    have hsent : (if st.subscribed then st.sent ++ [enabled] else st.sent) = st.sent ++ [enabled] := if_pos hsub
    refine ⟨c, ?_, hc.flag, fun r hr => ?_⟩
    · rw [hsent]
      exact hc.follows.emit [enabled]
    · have hr := hc.received r hr
      rw [hsent, List.getElem?_append_left (List.getElem?_eq_some_iff.mp hr).1]
      exact hr
  | receive he =>
    obtain ⟨c, hc⟩ := h hsub
    exact ⟨c, hc.follows, hc.flag, fun r hr => Option.some.inj hr ▸ he⟩
  | @drop enabled hr =>
    obtain ⟨c, hc⟩ := h hsub
    exact ⟨enabled, hc.follows.handle (hc.received _ hr) (.inr ho), fun hk => (by cases hk), fun r hr => (by cases hr)⟩
  | @dispatch enabled hr =>
    obtain ⟨c, hc⟩ := h hsub
    exact ⟨enabled, hc.follows.handle (hc.received _ hr) (.inr ho), fun _ => rfl, fun r hr => (by cases hr)⟩
  | query force failed =>
    obtain ⟨c, hc⟩ := h hsub
    refine ⟨c, ?_, fun hk => (query_ttsEnabled st.client st.service.active force).trans (hc.flag hk), hc.received⟩
    cases (st.client.query st.service.active force).1 && st.service.remoteObject && !failed with
    | false => exact hc.follows
    | true => exact hc.follows.fetch
  | @store i f hf =>
    obtain ⟨c, hc⟩ := h hsub
    have hkept : ∀ g ∈ st.fetches.eraseIdx i, g ∈ st.fetches := fun g hg => List.mem_of_mem_eraseIdx hg
    exact ⟨f.2, hc.follows.store (List.mem_of_getElem? hf) hkept, fun _ => rfl, hc.received⟩
  | subscribe accepts event events => exact subscribe_tracked h ho event events
  | @other _ service client known _ _ hservice hknown =>
    have hsub : "onttsstatechanged" ∈ service.eventsRegistered := hsub
    rcases hservice with hsame | hnone
    · rw [hsame] at hsub
      obtain ⟨c, hc⟩ := h hsub
      refine ⟨c, hc.follows, fun hk => ?_, hc.received⟩
      obtain ⟨htold, rfl⟩ := hknown hk
      exact hc.flag htold
    · rw [hnone] at hsub
      cases hsub

/-- **Told, and up to date.** In every order of state changes, events, fetches and restarts in which no event overtakes
a reply, and neither is on its way from before a subscription: where the client is subscribed and what it was told last
is a reply or an event, and every event is processed, its flag is the service's. -/
theorem enabled_known (h : machine.ReachableIf InOrder st) (hsub : st.subscribed) (hk : st.known = true)
    (hq : st.handled = st.sent.length) : st.client.ttsEnabled = st.enabled := by
  have htracked : st.subscribed → ∃ c, Tracked st c := by
    refine h.invariant (I := fun st => st.subscribed → ∃ c, Tracked st c) ?_ fun _ _ _ hI ho hs => step_tracked hI ho hs
    rintro _ ⟨connectionCallback, rfl⟩ hsub
    cases hsub
  obtain ⟨c, hc⟩ := htracked hsub
  exact (hc.flag hk).trans (hc.follows.copy_eq hq)

/-- `initialize`, on a service that accepts everything. -/
def up : List Label :=
  [.link true, .subscribe fun _ => true, .subscribe fun _ => true, .setInitialized, .tellInitialized]

/-- TTS is disabled while the reply to the first query is on its way. -/
theorem enabled_known_late :
    ∃ st, machine.ReachableIf InOrder st ∧ st.fetches = [] ∧ st.sent = [false] ∧ st.client.ttsEnabled = st.enabled := by
  have h := (Machine.ReachableIf.init ⟨true, rfl⟩ : machine.ReachableIf InOrder (start true)).execIf
    (.setEnabled true :: up ++ [.query false false, .setEnabled false, .store 0, .receive, .dispatch]) rfl
  exact ⟨_, h, rfl, rfl, enabled_known h (by decide) rfl rfl⟩

/-- The event overtakes the reply, and the client takes TTS to be enabled. -/
theorem enabled_overtaken :
    ∃ st, machine.Reachable st ∧ st.subscribed ∧ st.known = true ∧ st.handled = st.sent.length ∧
      st.enabled = false ∧ st.client.ttsEnabled = true := by
  refine ⟨_, Machine.reachable_of_exec (s := start true) ⟨true, rfl⟩
    (.setEnabled true :: up ++ [.query false false, .setEnabled false, .receive, .dispatch, .store 0]) rfl, ?_⟩
  decide

/-- The reply is stored while the service is still being initialized, and `initialize` overwrites it. -/
theorem enabled_overwritten :
    ∃ st, machine.ReachableIf InOrder st ∧ st.subscribed ∧ st.handled = st.sent.length ∧ st.enabled = true ∧
      st.client.ttsEnabled = false := by
  have h := (Machine.ReachableIf.init ⟨true, rfl⟩ : machine.ReachableIf InOrder (start true)).execIf
    [.setEnabled true, .link true, .subscribe fun _ => true, .subscribe fun _ => true, .query false false, .store 0,
      .setInitialized, .tellInitialized] rfl
  exact ⟨_, h, by decide, rfl, rfl, rfl⟩

/-- The first query fetches, but after a restart of the service the next one does not. -/
theorem enabled_unknown :
    ∃ st, machine.ReachableIf InOrder st ∧ st.subscribed ∧ st.handled = st.sent.length ∧ st.enabled = true ∧
      ∀ fetched, (st.client.isTTSEnabled st.service.active false fetched).1 = false := by
  have h := (Machine.ReachableIf.init ⟨true, rfl⟩ : machine.ReachableIf InOrder (start true)).execIf
    (.setEnabled true :: up ++ [.query false false, .store 0, .deactivate, .clearInitialized, .tellDeactivated] ++ up) rfl
  exact ⟨_, h, by decide, rfl, rfl, fun fetched => rfl⟩

end JsonFlag

end TTS
