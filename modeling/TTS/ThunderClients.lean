import TTS.JsonRuns
import TTS.SpeechStates
import Mathlib.Logic.Function.Basic

/-!
# The clients of one service

All JSON-RPC clients of a process share one link to the service, and
`dispatchEvent` hands each event to every client that is registered. Whose
speech an event is about, and which speech a request is about, is left to the
map of each client. Clients come and go, and the service may be restarted and
number its speeches anew.
-/

namespace TTS

open Transition Function

/-! ## Requests about a speech -/

/-- A call that ends by itself, or asks the service about the speech of that number. -/
inductive SpeechRequest (α β : Type)
  | ends (a : α)
  | invokes (method : String) (speechid : Nat) (answer : Option β → α)

def SpeechRequest.target {α β : Type} : SpeechRequest α β → Option Nat
  | .ends _ => none
  | .invokes _ speechid _ => some speechid

namespace TTSClientPrivateJsonRPC

/-- The call succeeds with the request. -/
def invoked : Option Unit → TTSError
  | none => .fail
  | some _ => .ok

/-- What `pause` and `resume` share. -/
def control (method : String) (s : TTSClientPrivateJsonRPC) (active : Bool) (speechId : Nat) : SpeechRequest TTSError Unit :=
  if !active then .ends .fail
  else if !s.ttsEnabled then .ends .ok
  else
    let serviceid := s.requestedSpeeches.getServiceId speechId
    if serviceid = 0 then .ends .ok else .invokes method serviceid invoked

def pause := control "pause"
def resume := control "resume"

def abort (s : TTSClientPrivateJsonRPC) (active : Bool) : SpeechRequest TTSError Unit :=
  if !active then .ends .fail
  else if !s.ttsEnabled then .ends .ok
  else if s.requestedSpeeches.isEmpty || s.lastSpeechId = 0 then .ends .ok
  else .invokes "cancel" s.lastSpeechId invoked

/-- The answer has the label `speaking`, or not. -/
def isSpeaking (s : TTSClientPrivateJsonRPC) (active : Bool) : SpeechRequest Bool (Option Bool) :=
  if !active then .ends false
  else if s.requestedSpeeches.isEmpty || s.lastSpeechId = 0 then .ends false
  else .invokes "isspeaking" s.lastSpeechId fun r => (r.bind id).getD false

def destroySession (s : TTSClientPrivateJsonRPC) : TTSClientPrivateJsonRPC := { s with sessionCallback := false }

end TTSClientPrivateJsonRPC

/-! ## The process -/

/-- What became of an event of speech `speech` of `owner` at one client, which `listens` if it has a callback. -/
structure HeardEvent where
  owner : Nat
  speech : Nat
  event : SpeechEvent
  listens : Bool
  reports : List SpeechReport
  deriving DecidableEq, Repr

structure ThunderClients where
  service : TextToSpeechService
  /-- Number of the activation of the service that runs, or ran last. -/
  activation : Nat
  /-- The numbers that it has given. -/
  numbers : List Nat
  clients : Nat → Option TTSClientPrivateJsonRPC
  speeches : Nat → List JsonSpeech
  heard : Nat → List HeardEvent

namespace ThunderClients

inductive Label
  /-- `found` says whether the service was found active, should that be asked. -/
  | construct (c : Nat) (connectionCallback found : Bool) (accepts : String → Bool)
  | destroy (c : Nat)
  | createSession (c appId : Nat) (callback : Bool) (fetched : Option Bool)
  | destroySession (c : Nat)
  | speak (c id serviceId : Nat) (accepts : String → Bool)
  | unnumbered (c id : Nat) (failed : Bool) (accepts : String → Bool)
  | reply (c i : Nat)
  | event (c i : Nat) (e : SpeechEvent)
  | stateChange (enabled : Bool)
  | deactivate
  | activate (accepts : String → Bool)

variable (st : ThunderClients)

def setClient (c : Nat) (s : Option TTSClientPrivateJsonRPC) : ThunderClients :=
  { st with clients := update st.clients c s }

def allClients (f : TTSClientPrivateJsonRPC → TTSClientPrivateJsonRPC) : ThunderClients :=
  { st with clients := fun d => (st.clients d).map f }

def setSpeeches (c : Nat) (l : List JsonSpeech) : ThunderClients := { st with speeches := update st.speeches c l }

def setSpeech (c i : Nat) (sp : JsonSpeech) : ThunderClients := st.setSpeeches c ((st.speeches c).set i sp)

/-- Where the link is set up anew every client is told that TTS is disabled. -/
def setUp (found : Bool) (accepts : String → Bool) : ThunderClients :=
  let (anew, service) := st.service.setUp found accepts
  if anew then
    { st.allClients (·.onTTSStateChange false) with service := service, activation := st.activation + 1, numbers := [] }
  else st

def calls (s : TTSClientPrivateJsonRPC) : Bool := s.speakTest st.service.active == .ok && st.service.remoteObject

def call (c : Nat) (s : TTSClientPrivateJsonRPC) (accepts : String → Bool) : ThunderClients :=
  { st.setClient c (some s) with service := st.service.registerSpeechEventHandlers accepts }

def accept (c id serviceId : Nat) : ThunderClients :=
  { st.setSpeeches c (st.speeches c ++ [⟨id, serviceId, st.activation, false, none⟩]) with
    numbers := serviceId :: st.numbers }

def takeReply (c i : Nat) (s : TTSClientPrivateJsonRPC) (sp : JsonSpeech) : ThunderClients :=
  (st.setClient c (some (s.speakReturn sp.clientId (some (some sp.serviceId))).2)).setSpeech c i { sp with returned := true }

def dispatchEvent (c i : Nat) (e : SpeechEvent) (sp : JsonSpeech) : ThunderClients :=
  let st' := st.allClients fun s => (st.service.dispatchEvent e sp.serviceId s).2
  let st' := { st' with
    heard := fun d => st.heard d ++ (st.clients d).toList.map fun s =>
      ⟨c, i, e, s.sessionCallback, (st.service.dispatchEvent e sp.serviceId s).1⟩ }
  if e.terminal then st'.setSpeech c i { sp with ended := some e } else st'

/-- The service gives each speech that it accepts a number of its own. -/
def step : Label → Option ThunderClients
  | .construct c connectionCallback found accepts =>
    if (st.clients c).isNone ∧ (st.speeches c).isEmpty then
      some ((st.setUp found accepts).setClient c (some (.new connectionCallback)))
    else none
  | .destroy c => some (st.setClient c none)
  | .createSession c appId callback fetched =>
    (st.clients c).map fun s => st.setClient c (some (s.createSession st.service.active appId callback fetched).2)
  | .destroySession c => (st.clients c).map fun s => st.setClient c (some s.destroySession)
  | .speak c id serviceId accepts =>
    (st.clients c).bind fun s =>
      if st.calls s ∧ serviceId ≠ 0 ∧ serviceId ∉ st.numbers then
        some ((st.call c s.speakCall accepts).accept c id serviceId)
      else none
  | .unnumbered c id failed accepts =>
    (st.clients c).bind fun s =>
      if st.calls s then
        some (st.call c (s.speakCall.speakReturn id (if failed then none else some none)).2 accepts)
      else none
  | .reply c i =>
    (st.clients c).bind fun s => ((st.speeches c)[i]?).bind fun sp =>
      if sp.returned then none else some (st.takeReply c i s sp)
  -- the running service sends events to its subscribers, none after a terminal one
  | .event c i e =>
    ((st.speeches c)[i]?).bind fun sp =>
      if sp.activation = st.activation ∧ e.name ∈ st.service.eventsRegistered ∧ sp.ended = none then
        some (st.dispatchEvent c i e sp)
      else none
  | .stateChange enabled =>
    if "onttsstatechanged" ∈ st.service.eventsRegistered then
      some (if st.service.initialized then st.allClients (·.onTTSStateChange enabled) else st)
    else none
  | .deactivate => some { st.allClients (·.onDeactivation) with service := st.service.deactivated }
  | .activate accepts =>
    if st.service.remoteObject then none
    else some (st.setUp true accepts)

def start : ThunderClients where
  service := .new
  activation := 0
  numbers := []
  clients _ := none
  speeches _ := []
  heard _ := []

def machine : Machine ThunderClients Label where
  init st := st = start
  step := step

/-! ## Whose number it is -/

def At (c i : Nat) (sp : JsonSpeech) : Prop := (st.speeches c)[i]? = some sp

variable {st : ThunderClients}

theorem setClient_self (c : Nat) (s : Option TTSClientPrivateJsonRPC) : (st.setClient c s).clients c = s :=
  update_self _ _ _

theorem setClient_of_ne {c d : Nat} (h : d ≠ c) (s : Option TTSClientPrivateJsonRPC) :
    (st.setClient c s).clients d = st.clients d := update_of_ne h _ _

theorem setSpeeches_self (c : Nat) (l : List JsonSpeech) : (st.setSpeeches c l).speeches c = l := update_self _ _ _

theorem setSpeeches_of_ne {c d : Nat} (h : d ≠ c) (l : List JsonSpeech) : (st.setSpeeches c l).speeches d = st.speeches d :=
  update_of_ne h _ _

theorem at_accept {c d j : Nat} {sp x : JsonSpeech} :
    (st.setSpeeches c (st.speeches c ++ [sp])).At d j x ↔ st.At d j x ∨ d = c ∧ j = (st.speeches c).length ∧ x = sp := by
  unfold At
  by_cases h : d = c
  · subst h
    rw [setSpeeches_self, getElem?_concat_iff]
    simp
  · rw [setSpeeches_of_ne h]
    simp [h]

theorem at_setSpeech {c i d j : Nat} {sp sp' x : JsonSpeech} (hi : st.At c i sp) :
    (st.setSpeech c i sp').At d j x ↔ d = c ∧ j = i ∧ x = sp' ∨ ¬ (d = c ∧ j = i) ∧ st.At d j x := by
  unfold At setSpeech
  by_cases h : d = c
  · subst h
    rw [setSpeeches_self, getElem?_set_iff hi]
    simp
  · rw [setSpeeches_of_ne h]
    simp [h]

/-- What the maps and the last number of each client are. -/
structure Sound (st : ThunderClients) : Prop where
  link : Linked st.service
  entries : ∀ c s, st.clients c = some s → Entries s.requestedSpeeches (st.speeches c)
  numbered : ∀ c i sp, st.At c i sp → sp.serviceId ≠ 0 ∧ sp.activation ≤ st.activation ∧
    (sp.activation = st.activation → sp.serviceId ∈ st.numbers)
  unique : ∀ c i sp d j sp', st.At c i sp → st.At d j sp' → sp.activation = sp'.activation →
    sp.serviceId = sp'.serviceId → d = c ∧ j = i
  apart : ∀ c i sp d s, st.At c i sp → sp.activation = st.activation → sp.returned = true → st.clients d = some s →
    (∃ k : Nat, s.requestedSpeeches[k]? = some sp.serviceId) → d = c
  last : ∀ c s, st.clients c = some s → s.lastSpeechId ≠ 0 → ∃ i sp, st.At c i sp ∧ sp.returned = true ∧
    sp.activation = st.activation ∧ sp.serviceId = s.lastSpeechId

/-- A reply comes in the activation of its call, under a client id that is not 0 and not in the client's map, and
no unfinished speech of an activation before has its number; an event comes after the reply. -/
def Orderly (st : ThunderClients) : Label → Prop
  | .reply c i => ∀ sp, st.At c i sp → sp.clientId ≠ 0 ∧ sp.activation = st.activation ∧
      (∀ s, st.clients c = some s → sp.clientId ∉ s.requestedSpeeches) ∧
      ∀ d j sp', (st.clients d).isSome → st.At d j sp' → sp'.Pending → sp'.serviceId = sp.serviceId →
        sp'.activation = st.activation
  | .event c i _ => ∀ sp, st.At c i sp → sp.returned = true
  | _ => True

/-- No speech, no entry of a map and nothing heard changes; last numbers are kept, or forgotten. -/
structure Quiet (st st' : ThunderClients) : Prop where
  link : Linked st.service → Linked st'.service
  speeches : st'.speeches = st.speeches
  heard : st'.heard = st.heard
  running : st'.activation = st.activation ∧ st'.numbers = st.numbers ∨ st.activation < st'.activation
  clients : ∀ c s', st'.clients c = some s' →
    (∃ s, st.clients c = some s ∧ s'.requestedSpeeches = s.requestedSpeeches ∧
        (s'.lastSpeechId = 0 ∨ st'.activation = st.activation ∧ s'.lastSpeechId = s.lastSpeechId)) ∨
      s'.requestedSpeeches = ∅ ∧ s'.lastSpeechId = 0 ∧ st.speeches c = []

theorem Sound.quiet {st' : ThunderClients} (h : Sound st) (hq : Quiet st st') : Sound st' := by
  have hat : ∀ {c i sp}, st'.At c i sp → st.At c i sp := by
    intro c i sp hi
    unfold At at hi
    rwa [hq.speeches] at hi
  have hrunning : ∀ {c i sp}, st'.At c i sp → sp.activation = st'.activation →
      sp.activation = st.activation ∧ st'.numbers = st.numbers := by
    intro c i sp hi he
    obtain ⟨-, hle, -⟩ := h.numbered c i sp (hat hi)
    rcases hq.running with ⟨ha, hn⟩ | ha
    · exact ⟨he.trans ha, hn⟩
    · omega
  refine ⟨hq.link h.link, fun c s' hs' => ?_, fun c i sp hi => ?_,
    fun c i sp d j sp' hi hj => h.unique c i sp d j sp' (hat hi) (hat hj),
    fun c i sp d s' hi he hr hs' => ?_, fun c s' hs' hlast => ?_⟩
  · rw [hq.speeches]
    rcases hq.clients c s' hs' with ⟨s, hs, hm, -⟩ | ⟨hm, -, hnil⟩
    · rw [hm]
      exact h.entries c s hs
    · rw [hm, hnil]
      exact entries_nil
  · obtain ⟨h0, hle, hn⟩ := h.numbered c i sp (hat hi)
    refine ⟨h0, ?_, fun he => ?_⟩
    · rcases hq.running with ⟨ha, -⟩ | ha <;> omega
    · rw [(hrunning hi he).2]
      exact hn (hrunning hi he).1
  · rintro ⟨k, hk⟩
    rcases hq.clients d s' hs' with ⟨s, hs, hm, -⟩ | ⟨hm, -, -⟩
    · rw [hm] at hk
      exact h.apart c i sp d s (hat hi) (hrunning hi he).1 hr hs ⟨k, hk⟩
    · rw [hm] at hk
      simp at hk
  · rcases hq.clients c s' hs' with ⟨s, hs, -, h0 | ⟨ha', hle⟩⟩ | ⟨-, h0, -⟩
    · exact absurd h0 hlast
    · rw [hle] at hlast
      obtain ⟨i, sp, hi, hr, he, hn⟩ := h.last c s hs hlast
      refine ⟨i, sp, ?_, hr, he.trans ha'.symm, hn.trans hle.symm⟩
      unfold At
      rwa [hq.speeches]
    · exact absurd h0 hlast

/-! ## The kinds of step -/

theorem quiet_setUp (found : Bool) (accepts : String → Bool) : Quiet st (st.setUp found accepts) := by
  have hl := TextToSpeechService.setUp_linked (s := st.service) found accepts
  unfold setUp
  cases hsu : st.service.setUp found accepts with
  | mk anew service =>
    rw [hsu] at hl
    cases anew with
    | false =>
      refine ⟨id, rfl, rfl, .inl ⟨rfl, rfl⟩, fun c s' hs' => .inl ⟨s', hs', rfl, .inr ⟨rfl, rfl⟩⟩⟩
    | true =>
      refine ⟨hl, rfl, rfl, .inr (Nat.lt_succ_self _), fun c s' hs' => ?_⟩
      obtain ⟨s, hs, rfl⟩ := Option.map_eq_some_iff.mp hs'
      exact .inl ⟨s, hs, rfl, .inl rfl⟩

/-- One client is exchanged for one with the same map. -/
theorem quiet_setClient {c : Nat} {s s' : TTSClientPrivateJsonRPC} (hs : st.clients c = some s)
    (hm : s'.requestedSpeeches = s.requestedSpeeches) (hl : s'.lastSpeechId = 0 ∨ s'.lastSpeechId = s.lastSpeechId) :
    Quiet st (st.setClient c (some s')) := by
  refine ⟨id, rfl, rfl, .inl ⟨rfl, rfl⟩, fun d x hx => ?_⟩
  by_cases h : d = c
  · subst h
    rw [setClient_self] at hx
    obtain rfl := Option.some.inj hx
    exact .inl ⟨s, hs, hm, hl.imp_right fun hl => ⟨rfl, hl⟩⟩
  · rw [setClient_of_ne h] at hx
    exact .inl ⟨x, hx, rfl, .inr ⟨rfl, rfl⟩⟩

theorem Quiet.trans {st' st'' : ThunderClients} (h : Quiet st st') (h' : Quiet st' st'') : Quiet st st'' := by
  refine ⟨h'.link ∘ h.link, h'.speeches.trans h.speeches, h'.heard.trans h.heard, ?_, fun c s'' hs'' => ?_⟩
  · rcases h.running with ⟨ha, hn⟩ | ha <;> rcases h'.running with ⟨ha', hn'⟩ | ha'
    · exact .inl ⟨ha'.trans ha, hn'.trans hn⟩
    · exact .inr (ha ▸ ha')
    · exact .inr (ha' ▸ ha)
    · exact .inr (ha.trans ha')
  · rcases h'.clients c s'' hs'' with ⟨s', hs', hm', hl'⟩ | ⟨hm', hl', hnil⟩
    · rcases h.clients c s' hs' with ⟨s, hs, hm, hl⟩ | ⟨hm, hl, hnil⟩
      · refine .inl ⟨s, hs, hm'.trans hm, ?_⟩
        rcases hl' with hl' | ⟨ha', hl'⟩
        · exact .inl hl'
        · rcases hl with hl | ⟨ha, hl⟩
          · exact .inl (hl'.trans hl)
          · exact .inr ⟨ha'.trans ha, hl'.trans hl⟩
      · refine .inr ⟨hm'.trans hm, ?_, hnil⟩
        rcases hl' with hl' | ⟨-, hl'⟩
        · exact hl'
        · exact hl'.trans hl
    · exact .inr ⟨hm', hl', h.speeches ▸ hnil⟩

theorem quiet_call {c : Nat} {s s' : TTSClientPrivateJsonRPC} (accepts : String → Bool) (hs : st.clients c = some s)
    (hm : s'.requestedSpeeches = s.requestedSpeeches) (hl : s'.lastSpeechId = 0) : Quiet st (st.call c s' accepts) := by
  have hq := quiet_setClient hs hm (.inl hl)
  exact ⟨TextToSpeechService.register_linked accepts, rfl, rfl, hq.running, hq.clients⟩

/-- Every client is told something that makes it forget its last number. -/
theorem quiet_allClients (f : TTSClientPrivateJsonRPC → TTSClientPrivateJsonRPC)
    (hf : ∀ s, (f s).requestedSpeeches = s.requestedSpeeches ∧ (f s).lastSpeechId = 0) {service : TextToSpeechService}
    (hl : Linked st.service → Linked service) : Quiet st { st.allClients f with service := service } := by
  refine ⟨hl, rfl, rfl, .inl ⟨rfl, rfl⟩, fun c s' hs' => ?_⟩
  obtain ⟨s, hs, rfl⟩ := Option.map_eq_some_iff.mp hs'
  exact .inl ⟨s, hs, (hf s).1, .inl (hf s).2⟩

theorem createSession_kept (s : TTSClientPrivateJsonRPC) (active : Bool) (appId : Nat) (callback : Bool)
    (fetched : Option Bool) :
    (s.createSession active appId callback fetched).2.requestedSpeeches = s.requestedSpeeches ∧
      (s.createSession active appId callback fetched).2.lastSpeechId = s.lastSpeechId := by
  unfold TTSClientPrivateJsonRPC.createSession TTSClientPrivateJsonRPC.isTTSEnabled
  cases active with
  | false => exact ⟨rfl, rfl⟩
  | true => cases s.connectionCallback <;> cases fetched <;> simp

theorem quiet_construct {c : Nat} (hnil : st.speeches c = []) (connectionCallback : Bool) :
    Quiet st (st.setClient c (some (.new connectionCallback))) := by
  refine ⟨id, rfl, rfl, .inl ⟨rfl, rfl⟩, fun d x hx => ?_⟩
  by_cases h : d = c
  · subst h
    rw [setClient_self] at hx
    obtain rfl := Option.some.inj hx
    exact .inr ⟨rfl, rfl, hnil⟩
  · rw [setClient_of_ne h] at hx
    exact .inl ⟨x, hx, rfl, .inr ⟨rfl, rfl⟩⟩

theorem quiet_destroy (c : Nat) : Quiet st (st.setClient c none) := by
  refine ⟨id, rfl, rfl, .inl ⟨rfl, rfl⟩, fun d x hx => ?_⟩
  by_cases h : d = c
  · subst h
    rw [setClient_self] at hx
    cases hx
  · rw [setClient_of_ne h] at hx
    exact .inl ⟨x, hx, rfl, .inr ⟨rfl, rfl⟩⟩

/-- Besides the quiet steps a speech is accepted, its reply processed or one of its events dispatched. -/
theorem step_cases {st' : ThunderClients} {a : Label} (hs : st.step a = some st') :
    Quiet st st' ∨
      (∃ st₁ c id serviceId, Quiet st st₁ ∧ st₁.numbers = st.numbers ∧ serviceId ≠ 0 ∧ serviceId ∉ st.numbers ∧
        st' = st₁.accept c id serviceId) ∨
      (∃ c i s sp, a = .reply c i ∧ st.clients c = some s ∧ st.At c i sp ∧ sp.returned = false ∧
        st' = st.takeReply c i s sp) ∨
      ∃ c i e sp, a = .event c i e ∧ st.At c i sp ∧ sp.activation = st.activation ∧
        e.name ∈ st.service.eventsRegistered ∧ sp.ended = none ∧ st' = st.dispatchEvent c i e sp := by
  cases a with
  | construct c connectionCallback found accepts =>
    simp only [step, Option.ite_none_right_eq_some, Option.some.injEq] at hs
    obtain ⟨⟨-, hnil⟩, rfl⟩ := hs
    have hq : Quiet st (st.setUp found accepts) := quiet_setUp found accepts
    refine .inl (hq.trans (quiet_construct ?_ connectionCallback))
    rw [hq.speeches]
    exact List.isEmpty_iff.mp hnil
  | destroy c =>
    obtain rfl := Option.some.inj hs
    exact .inl (quiet_destroy c)
  | createSession c appId callback fetched =>
    obtain ⟨s, hc, rfl⟩ := Option.map_eq_some_iff.mp hs
    obtain ⟨hm, hl⟩ := createSession_kept s st.service.active appId callback fetched
    exact .inl (quiet_setClient hc hm (.inr hl))
  | destroySession c =>
    obtain ⟨s, hc, rfl⟩ := Option.map_eq_some_iff.mp hs
    exact .inl (quiet_setClient hc rfl (.inr rfl))
  | speak c id serviceId accepts =>
    simp only [step, Option.bind_eq_some_iff, Option.ite_none_right_eq_some, Option.some.injEq] at hs
    obtain ⟨s, hc, ⟨-, h0, hn⟩, rfl⟩ := hs
    have hq : Quiet st (st.call c s.speakCall accepts) := quiet_call accepts hc rfl rfl
    exact .inr (.inl ⟨_, c, id, serviceId, hq, rfl, h0, hn, rfl⟩)
  | unnumbered c id failed accepts =>
    simp only [step, Option.bind_eq_some_iff, Option.ite_none_right_eq_some, Option.some.injEq] at hs
    obtain ⟨s, hc, -, rfl⟩ := hs
    refine .inl (quiet_call accepts hc ?_ ?_) <;> cases failed <;> rfl
  | reply c i =>
    simp only [step, Option.bind_eq_some_iff, Option.ite_none_left_eq_some, Option.some.injEq] at hs
    obtain ⟨s, hc, sp, hi, hr, rfl⟩ := hs
    exact .inr (.inr (.inl ⟨c, i, s, sp, rfl, hc, hi, by simpa using hr, rfl⟩))
  | event c i e =>
    simp only [step, Option.bind_eq_some_iff, Option.ite_none_right_eq_some, Option.some.injEq] at hs
    obtain ⟨sp, hi, ⟨ha, hn, he⟩, rfl⟩ := hs
    exact .inr (.inr (.inr ⟨c, i, e, sp, rfl, hi, ha, hn, he, rfl⟩))
  | stateChange enabled =>
    simp only [step, Option.ite_none_right_eq_some, Option.some.injEq] at hs
    obtain ⟨-, rfl⟩ := hs
    split
    · exact .inl (quiet_allClients (·.onTTSStateChange enabled) (fun _ => ⟨rfl, rfl⟩) id)
    · exact .inl ⟨id, rfl, rfl, .inl ⟨rfl, rfl⟩, fun c s' hs' => .inl ⟨s', hs', rfl, .inr ⟨rfl, rfl⟩⟩⟩
  | deactivate =>
    obtain rfl := Option.some.inj hs
    exact .inl (quiet_allClients (·.onDeactivation) (fun _ => ⟨rfl, rfl⟩) fun _ => st.service.deactivated_linked)
  | activate accepts =>
    simp only [step, Option.ite_none_left_eq_some, Option.some.injEq] at hs
    obtain ⟨-, rfl⟩ := hs
    exact .inl (quiet_setUp true accepts)

/-! ## Speeches -/

theorem Sound.accept (h : Sound st) (c id : Nat) {serviceId : Nat} (h0 : serviceId ≠ 0) (hn : serviceId ∉ st.numbers) :
    Sound (st.accept c id serviceId) := by
  -- the new speech has a number that no speech of this activation has, and no reply
  have hnew : ∀ d i sp, st.At d i sp → sp.activation = st.activation → sp.serviceId ≠ serviceId := by
    rintro d i sp hi ha rfl
    exact hn ((h.numbered d i sp hi).2.2 ha)
  have hat : ∀ {d j x}, (st.accept c id serviceId).At d j x →
      st.At d j x ∨ d = c ∧ j = (st.speeches c).length ∧ x = ⟨id, serviceId, st.activation, false, none⟩ :=
    fun hx => at_accept.mp hx
  refine ⟨h.link, fun d s hs => ?_, fun d i x hx => ?_, fun d i x d' j y hx hy ha he => ?_,
    fun d i x d' s hx ha hr hs => ?_, fun d s hs hlast => ?_⟩
  · by_cases hd : d = c
    · subst hd
      rw [show (st.accept d id serviceId).speeches d = _ from setSpeeches_self d _]
      exact (h.entries d s hs).accept rfl rfl
    · rw [show (st.accept c id serviceId).speeches d = _ from setSpeeches_of_ne hd _]
      exact h.entries d s hs
  · rcases hat hx with hx | ⟨-, -, rfl⟩
    · obtain ⟨hx0, hle, hin⟩ := h.numbered d i x hx
      exact ⟨hx0, hle, fun ha => List.mem_cons_of_mem _ (hin ha)⟩
    · exact ⟨h0, Nat.le_refl _, fun _ => List.mem_cons_self⟩
  · rcases hat hx with hx' | ⟨hd, hi, rfl⟩ <;> rcases hat hy with hy' | ⟨hd', hj, rfl⟩
    · exact h.unique d i x d' j y hx' hy' ha he
    · exact absurd he (hnew d i x hx' ha)
    · exact absurd he.symm (hnew d' j y hy' ha.symm)
    · exact ⟨hd'.trans hd.symm, hj.trans hi.symm⟩
  · rcases hat hx with hx | ⟨-, -, rfl⟩
    · exact h.apart d i x d' s hx ha hr hs
    · cases hr
  · obtain ⟨i, x, hi, hr⟩ := h.last d s hs hlast
    exact ⟨i, x, at_accept.mpr (.inl hi), hr⟩

section
variable (h : Sound st) {c i : Nat} {sp : JsonSpeech} (hi : st.At c i sp)

include h hi in
/-- No map has the number of a speech whose reply is still to be processed. -/
theorem Sound.unentered (hr : sp.returned = false) (ho : st.Orderly (.reply c i)) {d : Nat} {s : TTSClientPrivateJsonRPC}
    (hs : st.clients d = some s) (k : Nat) : s.requestedSpeeches[k]? ≠ some sp.serviceId := by
  intro hk
  obtain ⟨-, ha, -, hstale⟩ := ho sp hi
  obtain ⟨j, y, hj, hp, -, hn⟩ := ((h.entries d s hs).entry k sp.serviceId).mp hk
  have hya := hstale d j y (by rw [hs]; rfl) hj hp hn
  obtain ⟨rfl, rfl⟩ := h.unique c i sp d j y hi hj (ha.trans hya.symm) hn.symm
  obtain rfl := Option.some.inj (hj.symm.trans hi)
  rw [hp.1] at hr
  cases hr

include hi in
/-- A speech marked anew is the one before, under the same number. -/
theorem at_old (sp' : JsonSpeech) (hn : sp'.serviceId = sp.serviceId) (ha : sp'.activation = sp.activation) {d j : Nat}
    {x : JsonSpeech} (hx : (st.setSpeech c i sp').At d j x) :
    ∃ y, st.At d j y ∧ y.serviceId = x.serviceId ∧ y.activation = x.activation ∧
      (d = c ∧ j = i ∨ y = x) := by
  rcases (at_setSpeech hi).mp hx with ⟨rfl, rfl, rfl⟩ | ⟨-, hx⟩
  · exact ⟨sp, hi, hn.symm, ha.symm, .inl ⟨rfl, rfl⟩⟩
  · exact ⟨x, hx, rfl, rfl, .inr rfl⟩

include h hi in
theorem Sound.reply {s : TTSClientPrivateJsonRPC} (hs : st.clients c = some s) (hr : sp.returned = false)
    (ho : st.Orderly (.reply c i)) : Sound (st.takeReply c i s sp) := by
  obtain ⟨h0, ha, hnew, -⟩ := ho sp hi
  have hun := fun {d} {x} (hx : st.clients d = some x) => h.unentered hi hr ho hx
  have hold : ∀ {d j x}, (st.takeReply c i s sp).At d j x → ∃ y, st.At d j y ∧ y.serviceId = x.serviceId ∧
      y.activation = x.activation ∧ (d = c ∧ j = i ∨ y = x) :=
    fun hx => at_old hi { sp with returned := true } rfl rfl hx
  have hself : (st.takeReply c i s sp).clients c = some (s.speakReturn sp.clientId (some (some sp.serviceId))).2 :=
    setClient_self c _
  have hmap : (s.speakReturn sp.clientId (some (some sp.serviceId))).2.requestedSpeeches =
      s.requestedSpeeches.insert sp.clientId sp.serviceId := by
    simp [TTSClientPrivateJsonRPC.speakReturn, SpeechRequestMap.add, hnew s hs]
  refine ⟨h.link, fun d x hx => ?_, fun d j x hx => ?_, fun d j x d' j' y hx hy hxy hn => ?_,
    fun d j x d' y hx hxa hxr hy => ?_, fun d x hx hlast => ?_⟩
  · by_cases hd : d = c
    · subst hd
      rw [hself] at hx
      obtain rfl := Option.some.inj hx
      rw [show (st.takeReply d i s sp).speeches d = _ from setSpeeches_self d _]
      exact (h.entries d s hs).reply hi hr h0 (hnew s hs) (hun hs)
    · rw [show (st.takeReply c i s sp).speeches d = _ from setSpeeches_of_ne hd _]
      exact h.entries d x ((setClient_of_ne hd _).symm.trans hx)
  · obtain ⟨y, hy, hyn, hya, -⟩ := hold hx
    rw [← hyn, ← hya]
    exact h.numbered d j y hy
  · obtain ⟨x', hx', hxn, hxa, -⟩ := hold hx
    obtain ⟨y', hy', hyn, hya, -⟩ := hold hy
    exact h.unique d j x' d' j' y' hx' hy' (hxa.trans (hxy.trans hya.symm)) (hxn.trans (hn.trans hyn.symm))
  · rintro ⟨k, hk⟩
    obtain ⟨x', hx', hxn, hxa', hwas⟩ := hold hx
    rw [← hxn] at hk
    by_cases hd : d' = c
    · subst hd
      rw [hself] at hy
      obtain rfl := Option.some.inj hy
      rw [hmap, getElem?_insert] at hk
      split at hk
      · exact (h.unique d j x' d' i sp hx' hi (hxa'.trans (hxa.trans ha.symm)) (Option.some.inj hk).symm).1
      · rcases hwas with ⟨rfl, -⟩ | rfl
        · rfl
        · exact h.apart d j x' d' s hx' hxa hxr hs ⟨k, hk⟩
    · have hy' : st.clients d' = some y := (setClient_of_ne hd _).symm.trans hy
      rcases hwas with ⟨rfl, rfl⟩ | rfl
      · obtain rfl := Option.some.inj (hx'.symm.trans hi)
        exact absurd hk (hun hy' k)
      · exact h.apart d j x' d' y hx' hxa hxr hy' ⟨k, hk⟩
  · by_cases hd : d = c
    · subst hd
      rw [hself] at hx
      obtain rfl := Option.some.inj hx
      exact ⟨i, { sp with returned := true }, (at_setSpeech hi).mpr (.inl ⟨rfl, rfl, rfl⟩), rfl, ha, rfl⟩
    · obtain ⟨j, y, hj, hy⟩ := h.last d x ((setClient_of_ne hd _).symm.trans hx) hlast
      exact ⟨j, y, (at_setSpeech hi).mpr (.inr ⟨fun e => hd e.1, hj⟩), hy⟩

/-! ## Events -/

/-- A client whose map does not have the number hears nothing. -/
theorem dispatchEvent_other {service : TextToSpeechService} {s : TTSClientPrivateJsonRPC} {n : Nat}
    (hm : ∀ k : Nat, s.requestedSpeeches[k]? ≠ some n) (e : SpeechEvent) : service.dispatchEvent e n s = ([], s) := by
  have hnone := ValueMap.firstWith_none_iff.mpr hm
  have hprogress : ∀ e, s.onProgress e n = ([], s) := by
    intro e
    simp [TTSClientPrivateJsonRPC.onProgress, SpeechRequestMap.getClientId, hnone, TTSClientPrivateJsonRPC.reportAs]
  have hend : ∀ e, s.onEnd e n = ([], s) := by
    intro e
    simp [TTSClientPrivateJsonRPC.onEnd, SpeechRequestMap.removeServiceId, hnone, TTSClientPrivateJsonRPC.reportAs]
  unfold TextToSpeechService.dispatchEvent
  split
  · cases e with
    | start | pause | resume => exact hprogress _
    | cancel | interrupt | networkError | playbackError | complete => exact hend _
  · rfl

/-- What the owner of a speech reports of it. -/
def reportsOf (s : TTSClientPrivateJsonRPC) (e : SpeechEvent) (sp : JsonSpeech) : List SpeechReport :=
  if s.sessionCallback then [⟨e, s.appId, TTSClientPrivateJsonRPC.defaultSessionId, sp.clientId⟩] else []

theorem dispatchEvent_own {service : TextToSpeechService} {s : TTSClientPrivateJsonRPC} {l : List JsonSpeech}
    (hservice : service.initialized = true) (hentries : Entries s.requestedSpeeches l) {i : Nat} {sp : JsonSpeech}
    (hi : l[i]? = some sp) (hp : sp.Pending) (e : SpeechEvent) :
    service.dispatchEvent e sp.serviceId s =
      (reportsOf s e sp,
        if e.terminal then { s with requestedSpeeches := s.requestedSpeeches.erase sp.clientId } else s) := by
  have h0 := hentries.named sp (List.mem_of_getElem? hi) hp.1
  have hfirst := hentries.firstWith hi hp
  have hreport : s.reportAs e sp.clientId = reportsOf s e sp := by
    simp [TTSClientPrivateJsonRPC.reportAs, reportsOf, h0]
  cases ht : e.terminal with
  | false =>
    rw [TextToSpeechService.dispatchEvent_progress ht hservice, TTSClientPrivateJsonRPC.onProgress,
      SpeechRequestMap.getClientId, hfirst]
    exact congrArg (·, s) hreport
  | true =>
    rw [TextToSpeechService.dispatchEvent_end ht hservice, TTSClientPrivateJsonRPC.onEnd,
      SpeechRequestMap.removeServiceId, hfirst]
    exact congrArg (·, _) hreport

variable (ha : sp.activation = st.activation) (hr : sp.returned = true) (he : sp.ended = none)

section
variable {e : SpeechEvent} (hn : e.name ∈ st.service.eventsRegistered)

include h hi ha hr he hn in
/-- One event at one client: of its own speech, or of another's. -/
theorem Sound.dispatched {d : Nat} {s : TTSClientPrivateJsonRPC} (hs : st.clients d = some s) :
    st.service.dispatchEvent e sp.serviceId s =
      (if c = d then reportsOf s e sp else [],
        if c = d ∧ e.terminal then { s with requestedSpeeches := s.requestedSpeeches.erase sp.clientId } else s) := by
  by_cases hd : c = d
  · subst hd
    rw [dispatchEvent_own (TextToSpeechService.initialized_of_mem h.link hn) (h.entries c s hs) hi ⟨hr, he⟩ e]
    simp
  · rw [dispatchEvent_other (fun k hk => hd (h.apart c i sp d s hi ha hr hs ⟨k, hk⟩).symm)]
    simp [hd]

include h hi ha hr he hn in
theorem Sound.event : Sound (st.dispatchEvent c i e sp) := by
  have hclients : ∀ d s', ((st.clients d).map fun s => (st.service.dispatchEvent e sp.serviceId s).2) = some s' →
      ∃ s, st.clients d = some s ∧
        s' = if c = d ∧ e.terminal then { s with requestedSpeeches := s.requestedSpeeches.erase sp.clientId } else s := by
    intro d s' hs'
    obtain ⟨s, hs, rfl⟩ := Option.map_eq_some_iff.mp hs'
    exact ⟨s, hs, congrArg Prod.snd (h.dispatched hi ha hr he hn hs)⟩
  unfold dispatchEvent
  cases ht : e.terminal with
  | false =>
    simp only [ht, Bool.false_eq_true, and_false, if_false] at hclients ⊢
    refine ⟨h.link, fun d s' hs' => ?_, h.numbered, h.unique, fun d j x d' s' hx hxa hxr hs' => ?_, fun d s' hs' => ?_⟩
    · obtain ⟨s, hs, rfl⟩ := hclients d s' hs'
      exact h.entries d s' hs
    · obtain ⟨s, hs, rfl⟩ := hclients d' s' hs'
      exact h.apart d j x d' s' hx hxa hxr hs
    · obtain ⟨s, hs, rfl⟩ := hclients d s' hs'
      exact h.last d s' hs
  | true =>
    simp only [ht, and_true, if_true] at hclients ⊢
    have hold : ∀ {d j x}, (st.setSpeech c i { sp with ended := some e }).At d j x → ∃ y, st.At d j y ∧
        y.serviceId = x.serviceId ∧ y.activation = x.activation ∧ (d = c ∧ j = i ∨ y = x) :=
      fun hx => at_old hi { sp with ended := some e } rfl rfl hx
    refine ⟨h.link, fun d s' hs' => ?_, fun d j x hx => ?_, fun d j x d' j' y hx hy hxy hxn => ?_,
      fun d j x d' s' hx hxa hxr hs' => ?_, fun d s' hs' hlast => ?_⟩
    · obtain ⟨s, hs, rfl⟩ := hclients d s' hs'
      by_cases hd : c = d
      · subst hd
        rw [if_pos rfl]
        rw [setSpeech, setSpeeches_self]
        exact (h.entries c s hs).ended hi ⟨hr, he⟩ e
      · rw [if_neg hd]
        rw [setSpeech, setSpeeches_of_ne (Ne.symm hd)]
        exact h.entries d s hs
    · obtain ⟨y, hy, hyn, hya, -⟩ := hold hx
      rw [← hyn, ← hya]
      exact h.numbered d j y hy
    · obtain ⟨x', hx', hxn', hxa, -⟩ := hold hx
      obtain ⟨y', hy', hyn, hya, -⟩ := hold hy
      exact h.unique d j x' d' j' y' hx' hy' (hxa.trans (hxy.trans hya.symm)) (hxn'.trans (hxn.trans hyn.symm))
    · rintro ⟨k, hk⟩
      obtain ⟨y, hy, hyn, hya, hwas⟩ := hold hx
      have hyr : y.returned = true := by
        rcases hwas with ⟨rfl, rfl⟩ | rfl
        · obtain rfl := Option.some.inj (hy.symm.trans hi)
          exact hr
        · exact hxr
      obtain ⟨s, hs, rfl⟩ := hclients d' s' hs'
      refine h.apart d j y d' s hy (hya.trans hxa) hyr hs ⟨k, ?_⟩
      rw [hyn]
      split at hk
      · rw [getElem?_erase] at hk
        split at hk
        · cases hk
        · exact hk
      · exact hk
    · obtain ⟨s, hs, rfl⟩ := hclients d s' hs'
      have hsame : (if c = d then { s with requestedSpeeches := s.requestedSpeeches.erase sp.clientId } else s).lastSpeechId =
          s.lastSpeechId := by split <;> rfl
      rw [hsame] at hlast ⊢
      obtain ⟨j, y, hj, hyr, hya, hyn⟩ := h.last d s hs hlast
      by_cases hd : d = c ∧ j = i
      · obtain ⟨rfl, rfl⟩ := hd
        obtain rfl := Option.some.inj (hj.symm.trans hi)
        exact ⟨j, _, (at_setSpeech hi).mpr (.inl ⟨rfl, rfl, rfl⟩), hyr, hya, hyn⟩
      · exact ⟨j, y, (at_setSpeech hi).mpr (.inr ⟨hd, hj⟩), hyr, hya, hyn⟩

end

end

theorem step_sound {st' : ThunderClients} {a : Label} (h : Sound st) (ho : st.Orderly a) (hs : st.step a = some st') :
    Sound st' := by
  rcases step_cases hs with hq | ⟨st₁, c, id, n, hq, hnum, h0, hn, rfl⟩ | ⟨c, i, s, sp, rfl, hc, hi, hr, rfl⟩ |
      ⟨c, i, e, sp, rfl, hi, ha, hn, he, rfl⟩
  · exact h.quiet hq
  · exact (h.quiet hq).accept c id h0 (hnum ▸ hn)
  · exact h.reply hi hc hr ho
  · exact h.event hi ha (ho sp hi) he hn

theorem start_sound : Sound start := by
  refine ⟨⟨fun h => (by cases h), fun _ => rfl⟩, fun c s hs => ?_, fun c i sp hi => ?_, fun c i sp d j sp' hi => ?_,
    fun c i sp d s hi => ?_, fun c s hs => ?_⟩
  · cases hs
  · simp [At, start] at hi
  · simp [At, start] at hi
  · simp [At, start] at hi
  · cases hs

theorem reachable_sound (h : machine.ReachableIf Orderly st) : Sound st := by
  refine h.invariant (I := Sound) ?_ fun _ _ _ hI ho hs => step_sound hI ho hs
  rintro _ rfl
  exact start_sound

/-! ## What each client hears -/

/-- Speeches stay, under the ids their clients gave them. -/
def Kept (st st' : ThunderClients) : Prop := ∀ c i sp, st.At c i sp → ∃ sp', st'.At c i sp' ∧ sp'.clientId = sp.clientId

theorem kept_of_speeches {st' : ThunderClients} (h : st'.speeches = st.speeches) : Kept st st' := by
  intro c i sp hi
  refine ⟨sp, ?_, rfl⟩
  unfold At
  rwa [h]

theorem kept_setSpeech {c i : Nat} {sp : JsonSpeech} (hi : st.At c i sp) (sp' : JsonSpeech) (hc : sp'.clientId = sp.clientId) :
    Kept st (st.setSpeech c i sp') := by
  intro d j x hx
  by_cases h : d = c ∧ j = i
  · obtain ⟨rfl, rfl⟩ := h
    obtain rfl := Option.some.inj (hi.symm.trans hx)
    exact ⟨sp', (at_setSpeech hi).mpr (.inl ⟨rfl, rfl, rfl⟩), hc⟩
  · exact ⟨x, (at_setSpeech hi).mpr (.inr ⟨h, hx⟩), rfl⟩

/-- Of an event of a speech its client reports the event under the id it gave the speech, every other client nothing. -/
def HeardOwn (st : ThunderClients) : Prop := ∀ d, ∀ x ∈ st.heard d, ∃ sp, st.At x.owner x.speech sp ∧
  x.reports.map (fun r => (r.event, r.speechId)) = if x.owner = d ∧ x.listens = true then [(x.event, sp.clientId)] else []

theorem HeardOwn.kept {st' : ThunderClients} (h : HeardOwn st) (hheard : st'.heard = st.heard) (hk : Kept st st') :
    HeardOwn st' := by
  intro d x hx
  rw [hheard] at hx
  obtain ⟨sp, hi, hr⟩ := h d x hx
  obtain ⟨sp', hi', hc⟩ := hk _ _ sp hi
  exact ⟨sp', hi', hc ▸ hr⟩

theorem step_heardOwn {st' : ThunderClients} {a : Label} (hS : Sound st) (h : HeardOwn st) (ho : st.Orderly a)
    (hs : st.step a = some st') : HeardOwn st' := by
  rcases step_cases hs with hq | ⟨st₁, c, id, n, hq, -, -, -, rfl⟩ | ⟨c, i, s, sp, rfl, -, hi, -, rfl⟩ |
      ⟨c, i, e, sp, rfl, hi, ha, hn, he, rfl⟩
  · exact h.kept hq.heard (kept_of_speeches hq.speeches)
  · refine (h.kept hq.heard (kept_of_speeches hq.speeches)).kept rfl ?_
    exact fun d j x hx => ⟨x, at_accept.mpr (.inl hx), rfl⟩
  · exact h.kept rfl (kept_setSpeech hi { sp with returned := true } rfl)
  · have hheard : (st.dispatchEvent c i e sp).heard = fun d => st.heard d ++ (st.clients d).toList.map fun s =>
        ⟨c, i, e, s.sessionCallback, (st.service.dispatchEvent e sp.serviceId s).1⟩ := by
      unfold dispatchEvent
      cases e.terminal <;> rfl
    have hk : Kept st (st.dispatchEvent c i e sp) := by
      unfold dispatchEvent
      cases e.terminal with
      | false => exact fun d j x hx => ⟨x, hx, rfl⟩
      | true => exact kept_setSpeech hi { sp with ended := some e } rfl
    intro d x hx
    rw [hheard] at hx
    rcases List.mem_append.mp hx with hx | hx
    · obtain ⟨y, hy, hr⟩ := h d x hx
      obtain ⟨y', hy', hc⟩ := hk _ _ y hy
      exact ⟨y', hy', hc ▸ hr⟩
    · obtain ⟨s, hs', rfl⟩ := List.mem_map.mp hx
      have hd := hS.dispatched hi ha (ho sp hi) he hn (Option.mem_toList.mp hs')
      obtain ⟨sp', hi', hc⟩ := hk _ _ sp hi
      refine ⟨sp', hi', ?_⟩
      rw [hd, hc]
      by_cases hcd : c = d
      · cases hl : s.sessionCallback <;> simp [hcd, reportsOf, hl]
      · simp [hcd]

/-- **Each client hears of its own speeches.** As long as replies come in time and under new ids, events after them,
and a restarted service does not give a number that an unfinished speech still has, a client that listens reports each
event of a speech of its own once, under its own id, and nothing of any other speech: for any clients, whenever they
are constructed and destroyed, and any restarts of the service. -/
theorem heard_own (h : machine.ReachableIf Orderly st) : HeardOwn st := by
  have hboth : Sound st ∧ HeardOwn st := by
    refine h.invariant (I := fun st => Sound st ∧ HeardOwn st) ?_ fun _ _ _ hI ho hs =>
      ⟨step_sound hI.1 ho hs, step_heardOwn hI.1 hI.2 ho hs⟩
    rintro _ rfl
    exact ⟨start_sound, fun d x hx => by cases hx⟩
  exact hboth.2

/-- Two clients, each with a speech that it calls 7. -/
def bothCallIt7 : Option ThunderClients :=
  machine.exec start [.construct 0 true true fun _ => true, .createSession 0 5 true (some true),
    .construct 1 false true fun _ => true, .createSession 1 6 true none, .stateChange true, .speak 0 7 1 fun _ => true,
    .speak 1 7 2 fun _ => true, .reply 1 0, .reply 0 0]

theorem bothCallIt7_orderly : ∃ st, bothCallIt7 = some st ∧ machine.ReachableIf Orderly st := by
  have h0 : machine.ReachableIf Orderly start := .init rfl
  have h1 := h0.step (a := Label.construct 0 true true fun _ => true) trivial rfl
  have h2 := h1.step (a := Label.createSession 0 5 true (some true)) trivial rfl
  have h3 := h2.step (a := Label.construct 1 false true fun _ => true) trivial rfl
  have h4 := h3.step (a := Label.createSession 1 6 true none) trivial rfl
  have h5 := h4.step (a := Label.stateChange true) trivial rfl
  have h6 := h5.step (a := Label.speak 0 7 1 fun _ => true) trivial rfl
  have h7 := h6.step (a := Label.speak 1 7 2 fun _ => true) trivial rfl
  have h8 := h7.step (a := Label.reply 1 0) (fun sp hsp => by
    obtain rfl := Option.some.inj hsp
    refine ⟨by decide, rfl, fun s hs => ?_, fun d j x hd hx hp hn => ?_⟩
    · obtain rfl := Option.some.inj hs
      decide
    · match d, j with
      | 0, 0 | 1, 0 => exact (Option.some.inj hx) ▸ rfl
      | 0, _ + 1 | 1, _ + 1 | _ + 2, _ => cases hx) rfl
  have h9 := h8.step (a := Label.reply 0 0) (fun sp hsp => by
    obtain rfl := Option.some.inj hsp
    refine ⟨by decide, rfl, fun s hs => ?_, fun d j x hd hx hp hn => ?_⟩
    · obtain rfl := Option.some.inj hs
      decide
    · match d, j with
      | 0, 0 | 1, 0 => exact (Option.some.inj hx) ▸ rfl
      | 0, _ + 1 | 1, _ + 1 | _ + 2, _ => cases hx) rfl
  exact ⟨_, rfl, h9⟩

/-- The speech of one client is started, then that of the other is spoken to its end. -/
theorem heard_own_two : ∃ st, machine.ReachableIf Orderly st ∧
    st.heard 0 = [⟨1, 0, .start, true, []⟩, ⟨0, 0, .complete, true, [⟨.complete, 5, 1, 7⟩]⟩] ∧
    st.heard 1 = [⟨1, 0, .start, true, [⟨.start, 6, 1, 7⟩]⟩, ⟨0, 0, .complete, true, []⟩] ∧ HeardOwn st := by
  obtain ⟨st, hst, h⟩ := bothCallIt7_orderly
  obtain rfl := Option.some.inj hst
  have h1 := h.step (a := Label.event 1 0 .start) (fun sp hsp => by obtain rfl := Option.some.inj hsp; rfl) rfl
  have h2 := h1.step (a := Label.event 0 0 .complete) (fun sp hsp => by obtain rfl := Option.some.inj hsp; rfl) rfl
  exact ⟨_, h2, rfl, rfl, heard_own h2⟩

/-- After a restart a client with an unfinished speech reports another's as its own. -/
theorem restarted_misheard : ∃ st, machine.Reachable st ∧
    st.heard 0 = [⟨1, 0, .complete, true, [⟨.complete, 5, 1, 7⟩]⟩] := by
  refine ⟨_, Machine.reachable_of_exec (s := start) rfl [.construct 0 true true fun _ => true,
    .createSession 0 5 true (some true), .construct 1 false true fun _ => true, .speak 0 7 1 fun _ => true, .reply 0 0,
    .deactivate, .activate fun _ => true, .stateChange true, .speak 1 8 1 fun _ => true, .reply 1 0,
    .event 1 0 .complete] rfl, rfl⟩

/-! ## What each request is about -/

/-- The service has a speech of the client under that number, and no other speech. -/
def Known (st : ThunderClients) (c i n : Nat) : Prop :=
  ∀ d j sp, st.At d j sp → sp.activation = st.activation → sp.serviceId = n → d = c ∧ j = i

theorem Sound.known (h : Sound st) {c i : Nat} {sp : JsonSpeech} (hi : st.At c i sp) (ha : sp.activation = st.activation) :
    st.Known c i sp.serviceId := by
  intro d j x hx hxa hn
  exact h.unique c i sp d j x hi hx (ha.trans hxa.symm) hn.symm

theorem Sound.control_target (h : Sound st) {c : Nat} {s : TTSClientPrivateJsonRPC} (hs : st.clients c = some s)
    (method : String) (id n : Nat) :
    (s.control method st.service.active id).target = some n ↔
      st.service.active = true ∧ s.ttsEnabled = true ∧
        ∃ i sp, st.At c i sp ∧ sp.Pending ∧ sp.clientId = id ∧ sp.serviceId = n := by
  have hentry : (∃ i sp, st.At c i sp ∧ sp.Pending ∧ sp.clientId = id ∧ sp.serviceId = n) ↔
      s.requestedSpeeches[id]? = some n := ((h.entries c s hs).entry id n).symm
  rw [hentry]
  unfold TTSClientPrivateJsonRPC.control SpeechRequestMap.getServiceId
  cases st.service.active with
  | false => simp [SpeechRequest.target]
  | true =>
    cases s.ttsEnabled with
    | false => simp [SpeechRequest.target]
    | true =>
      cases hm : s.requestedSpeeches[id]? with
      | none => simp [SpeechRequest.target]
      | some m =>
        obtain ⟨i, sp, hi, -, -, hn⟩ := ((h.entries c s hs).entry id m).mp hm
        have h0 : m ≠ 0 := hn ▸ (h.numbered c i sp hi).1
        simp [SpeechRequest.target, h0]

/-- Both are about the last number, unless that is 0. -/
theorem last_of_target {s : TTSClientPrivateJsonRPC} {active : Bool} {n : Nat}
    (hn : (s.abort active).target = some n ∨ (s.isSpeaking active).target = some n) :
    s.lastSpeechId = n ∧ s.lastSpeechId ≠ 0 := by
  have hlast : ∀ {α β : Type} {method : String} {r : SpeechRequest α β} {answer : Option β → α},
      r.target = none →
      (if s.requestedSpeeches.isEmpty || s.lastSpeechId = 0 then r
        else .invokes method s.lastSpeechId answer).target = some n →
      s.lastSpeechId = n ∧ s.lastSpeechId ≠ 0 := by
    intro α β method r answer hr hn
    split at hn
    · rw [hr] at hn
      cases hn
    · rename_i h
      exact ⟨Option.some.inj hn, fun h0 => h (by simp [h0])⟩
  rcases hn with hn | hn
  · unfold TTSClientPrivateJsonRPC.abort at hn
    split at hn
    · cases hn
    split at hn
    · cases hn
    exact hlast rfl hn
  · unfold TTSClientPrivateJsonRPC.isSpeaking at hn
    split at hn
    · cases hn
    exact hlast rfl hn

/-- `pause` and `resume` of an id go out exactly if the client has an unfinished speech of that id, and name its
number; `abort` and `isSpeaking` name the number of a speech of the client in the running service. -/
structure RequestsOwn (st : ThunderClients) (c : Nat) (s : TTSClientPrivateJsonRPC) : Prop where
  named : ∀ id n, (s.pause st.service.active id).target = some n ∨ (s.resume st.service.active id).target = some n ↔
    st.service.active = true ∧ s.ttsEnabled = true ∧ ∃ i sp, st.At c i sp ∧ sp.Pending ∧ sp.clientId = id ∧
      sp.serviceId = n ∧ (sp.activation = st.activation → st.Known c i n)
  last : ∀ n, (s.abort st.service.active).target = some n ∨ (s.isSpeaking st.service.active).target = some n →
    ∃ i sp, st.At c i sp ∧ sp.returned = true ∧ sp.serviceId = n ∧ sp.activation = st.activation ∧ st.Known c i n

/-- **Each request is about a speech of the client's own**, for any clients and restarts, as long as replies and events
come as above. -/
theorem requests_own (h : machine.ReachableIf Orderly st) {c : Nat} {s : TTSClientPrivateJsonRPC}
    (hs : st.clients c = some s) : RequestsOwn st c s := by
  have hsound := reachable_sound h
  refine ⟨fun id n => ?_, fun n hn => ?_⟩
  · rw [TTSClientPrivateJsonRPC.pause, TTSClientPrivateJsonRPC.resume, hsound.control_target hs, hsound.control_target hs,
      or_self]
    refine and_congr_right fun _ => and_congr_right fun _ => exists_congr fun i => exists_congr fun sp => ?_
    refine ⟨fun ⟨hi, hp, hid, hn⟩ => ⟨hi, hp, hid, hn, fun ha => hn ▸ hsound.known hi ha⟩,
      fun ⟨hi, hp, hid, hn, _⟩ => ⟨hi, hp, hid, hn⟩⟩
  · obtain ⟨rfl, h0⟩ := last_of_target hn
    obtain ⟨i, sp, hi, hr, ha, hnum⟩ := hsound.last c s hs h0
    exact ⟨i, sp, hi, hr, hnum, ha, hnum ▸ hsound.known hi ha⟩

theorem requests_own_two : ∃ st s, machine.ReachableIf Orderly st ∧ st.clients 1 = some s ∧
    (s.pause st.service.active 7).target = some 2 ∧ (s.abort st.service.active).target = some 2 ∧ RequestsOwn st 1 s := by
  obtain ⟨st, hst, h⟩ := bothCallIt7_orderly
  obtain rfl := Option.some.inj hst
  exact ⟨_, _, h, rfl, by decide, by decide, requests_own h rfl⟩

end ThunderClients

end TTS
