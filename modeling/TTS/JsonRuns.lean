import TTS.JsonClient
import TTS.Transition

/-!
# Runs of the JSON-RPC client

The service accepts speeches and sends events about them; the client processes
the reply to each `speak`, which alone tells it the service's id, and the
events, in any order. A speech is an index into the list of accepted ones. A
restarted service may number its speeches as the one before did.
-/

namespace TTS

open Transition

/-- `returned` once `speak` has processed the reply, `ended` once the terminal event was processed. -/
structure JsonSpeech where
  clientId : Nat
  serviceId : Nat
  activation : Nat
  returned : Bool
  ended : Option SpeechEvent
  deriving DecidableEq, Repr

structure Delivery where
  speech : Nat
  event : SpeechEvent
  reports : List SpeechReport
  deriving DecidableEq, Repr

structure JsonSystem where
  service : TextToSpeechService
  client : TTSClientPrivateJsonRPC
  /-- Number of the activation of the service that runs, or ran last. -/
  activation : Nat
  speeches : List JsonSpeech
  log : List Delivery

namespace JsonSystem

inductive Label
  /-- The service accepts a speech under `serviceId`. -/
  | speak (id serviceId : Nat) (accepts : String → Bool)
  /-- A call that is told no `speechid`, because it failed or the label is missing. -/
  | unnumbered (id : Nat) (failed : Bool) (accepts : String → Bool)
  | reply (i : Nat)
  | event (i : Nat) (e : SpeechEvent)
  | stateChange (enabled : Bool)
  | deactivate
  | activate (accepts : String → Bool)

def fresh (st : JsonSystem) (serviceId : Nat) : Prop :=
  serviceId ≠ 0 ∧ ∀ sp ∈ st.speeches, sp.activation = st.activation → sp.serviceId ≠ serviceId

instance (st : JsonSystem) (serviceId : Nat) : Decidable (st.fresh serviceId) := inferInstanceAs (Decidable (_ ∧ _))

def calls (st : JsonSystem) : Bool := st.client.speakTest st.service.active == .ok && st.service.remoteObject

def call (st : JsonSystem) (accepts : String → Bool) : JsonSystem :=
  { st with
    service := st.service.registerSpeechEventHandlers accepts
    client := st.client.speakCall }

def takeReply (st : JsonSystem) (i : Nat) (sp : JsonSpeech) : JsonSystem :=
  { st with
    client := (st.client.speakReturn sp.clientId (some (some sp.serviceId))).2
    speeches := st.speeches.set i { sp with returned := true } }

def takeEvent (st : JsonSystem) (i : Nat) (e : SpeechEvent) (sp : JsonSpeech) : JsonSystem :=
  { st with
    client := (st.service.dispatchEvent e sp.serviceId st.client).2
    speeches := if e.terminal then st.speeches.set i { sp with ended := some e } else st.speeches
    log := st.log ++ [⟨i, e, (st.service.dispatchEvent e sp.serviceId st.client).1⟩] }

def activated (st : JsonSystem) (accepts : String → Bool) : JsonSystem :=
  { st with
    service := (st.service.setUp true accepts).2
    client := if (st.service.setUp true accepts).1 then st.client.onTTSStateChange false else st.client
    activation := st.activation + 1 }

def step (st : JsonSystem) : Label → Option JsonSystem
  | .speak id serviceId accepts =>
    if st.calls ∧ st.fresh serviceId then
      some { st.call accepts with speeches := st.speeches ++ [⟨id, serviceId, st.activation, false, none⟩] }
    else none
  | .unnumbered id failed accepts =>
    if st.calls then
      some { st.call accepts with
        client := ((st.call accepts).client.speakReturn id (if failed then none else some none)).2 }
    else none
  | .reply i => (st.speeches[i]?).bind fun sp => if sp.returned then none else some (st.takeReply i sp)
  -- the running service sends events to its subscribers, none after a terminal one
  | .event i e =>
    (st.speeches[i]?).bind fun sp =>
      if sp.activation = st.activation ∧ e.name ∈ st.service.eventsRegistered ∧ sp.ended = none then
        some (st.takeEvent i e sp)
      else none
  | .stateChange enabled =>
    if "onttsstatechanged" ∈ st.service.eventsRegistered then
      some { st with client := if st.service.initialized then st.client.onTTSStateChange enabled else st.client }
    else none
  | .deactivate => some { st with service := st.service.deactivated, client := st.client.onDeactivation }
  | .activate accepts => if st.service.remoteObject then none else some (st.activated accepts)

def start (connectionCallback : Bool) (appId : Nat) (fetched : Option Bool) (accepts : String → Bool) : JsonSystem where
  service := (TextToSpeechService.new.setUp true accepts).2
  client := ((TTSClientPrivateJsonRPC.new connectionCallback).createSession true appId true fetched).2
  activation := 0
  speeches := []
  log := []

def isStart (st : JsonSystem) : Prop :=
  ∃ connectionCallback appId fetched accepts, st = start connectionCallback appId fetched accepts

/-- One service lifetime: any client ids. -/
def lifetime : Machine JsonSystem Label where
  init := isStart
  step st
    | .deactivate | .activate _ => none
    | a => st.step a

/-- The service may go down and come back: distinct client ids other than 0. -/
def restarting : Machine JsonSystem Label where
  init := isStart
  step st
    | .speak id serviceId accepts =>
      if id ≠ 0 ∧ ∀ sp ∈ st.speeches, sp.clientId ≠ id then st.step (.speak id serviceId accepts) else none
    | a => st.step a

def endReports (st : JsonSystem) (i : Nat) : List SpeechReport :=
  (st.log.filter fun d => d.speech = i ∧ d.event.terminal = true).flatMap Delivery.reports

def reportOf (st : JsonSystem) (e : SpeechEvent) (sp : JsonSpeech) : SpeechReport :=
  ⟨e, st.client.appId, TTSClientPrivateJsonRPC.defaultSessionId, sp.clientId⟩

end JsonSystem

/-! ## The map and the speeches -/

def JsonSpeech.Pending (sp : JsonSpeech) : Prop := sp.returned = true ∧ sp.ended = none

structure Entries (m : SpeechRequestMap) (l : List JsonSpeech) : Prop where
  entry : ∀ c n, m[c]? = some n ↔
    ∃ (i : Nat) (sp : JsonSpeech), l[i]? = some sp ∧ sp.Pending ∧ sp.clientId = c ∧ sp.serviceId = n
  sole : ∀ (i j : Nat) (sp sp' : JsonSpeech), l[i]? = some sp → l[j]? = some sp' → sp.Pending → sp'.Pending →
    sp.clientId = sp'.clientId → i = j
  named : ∀ sp ∈ l, sp.returned = true → sp.clientId ≠ 0
  heard : ∀ sp ∈ l, sp.returned = false → sp.ended = none
  distinct : ValueMap.Distinct m

theorem entries_nil : Entries ∅ [] := by
  refine ⟨fun c n => ?_, fun i j sp sp' h => ?_, fun sp h => ?_, fun sp h => ?_, ValueMap.distinct_empty⟩
  · simp
  · simp at h
  · cases h
  · cases h

theorem getElem?_concat_iff {α : Type} {l : List α} {a x : α} {i : Nat} :
    (l ++ [a])[i]? = some x ↔ l[i]? = some x ∨ i = l.length ∧ x = a := by
  by_cases h : i < l.length
  · rw [List.getElem?_append_left h]
    exact ⟨.inl, fun h' => h'.elim id fun e => by omega⟩
  · rw [List.getElem?_append_right (by omega), List.getElem?_eq_none (by omega : l.length ≤ i)]
    by_cases h' : i = l.length
    · subst h'
      simp [eq_comm]
    · have : i - l.length ≠ 0 := by omega
      simp [this, h']

theorem getElem?_set_iff {α : Type} {l : List α} {a x y : α} {i j : Nat} (hy : l[i]? = some y) :
    (l.set i a)[j]? = some x ↔ j = i ∧ x = a ∨ j ≠ i ∧ l[j]? = some x := by
  have hi := (List.getElem?_eq_some_iff.mp hy).1
  by_cases h : j = i
  · subst h
    simp [hi, eq_comm]
  · rw [List.getElem?_set_ne (fun e => h e.symm)]
    simp [h]

section
variable {m : SpeechRequestMap} {l : List JsonSpeech}

theorem Entries.accept (h : Entries m l) {sp : JsonSpeech} (hr : sp.returned = false) (he : sp.ended = none) :
    Entries m (l ++ [sp]) := by
  have hp : ∀ {i : Nat} {x : JsonSpeech}, (l ++ [sp])[i]? = some x → x.Pending → l[i]? = some x := by
    intro i x hx hpx
    rcases getElem?_concat_iff.mp hx with hx | ⟨-, rfl⟩
    · exact hx
    · rw [hpx.1] at hr
      cases hr
  refine ⟨fun c n => ?_, fun i j x y hx hy hpx hpy hc => ?_, fun x hx => ?_, fun x hx => ?_, h.distinct⟩
  · rw [h.entry]
    constructor
    · rintro ⟨i, x, hx, hpx, hc, hn⟩
      exact ⟨i, x, getElem?_concat_iff.mpr (.inl hx), hpx, hc, hn⟩
    · rintro ⟨i, x, hx, hpx, hc, hn⟩
      exact ⟨i, x, hp hx hpx, hpx, hc, hn⟩
  · exact h.sole i j x y (hp hx hpx) (hp hy hpy) hpx hpy hc
  · rcases List.mem_append.mp hx with hx | hx
    · exact h.named x hx
    · rw [List.mem_singleton.mp hx, hr]
      intro hf
      cases hf
  · rcases List.mem_append.mp hx with hx | hx
    · exact h.heard x hx
    · rw [List.mem_singleton.mp hx]
      exact fun _ => he

theorem Entries.reply (h : Entries m l) {i : Nat} {sp : JsonSpeech} (hi : l[i]? = some sp) (hr : sp.returned = false)
    (h0 : sp.clientId ≠ 0) (hc : sp.clientId ∉ m) (hn : ∀ c : Nat, m[c]? ≠ some sp.serviceId) :
    Entries (m.add sp.clientId sp.serviceId).2 (l.set i { sp with returned := true }) := by
  have hm := List.mem_of_getElem? hi
  have he := h.heard sp hm hr
  -- no pending speech has the client id
  have hno : ∀ (j : Nat) (x : JsonSpeech), l[j]? = some x → x.Pending → x.clientId ≠ sp.clientId := by
    intro j x hx hpx e
    exact hc ((mem_iff_getElem? m _).mpr ⟨x.serviceId, (h.entry _ _).mpr ⟨j, x, hx, hpx, e, rfl⟩⟩)
  have hne : ∀ (j : Nat) (x : JsonSpeech), l[j]? = some x → x.Pending → j ≠ i := by
    rintro j x hx hpx rfl
    obtain rfl := Option.some.inj (hx.symm.trans hi)
    rw [hpx.1] at hr
    cases hr
  have hadd : (m.add sp.clientId sp.serviceId).2 = m.insert sp.clientId sp.serviceId := by
    rw [SpeechRequestMap.add, if_neg hc]
  rw [hadd]
  refine ⟨fun c n => ?_, fun j k x y hx hy hpx hpy e => ?_, fun x hx => ?_, fun x hx hf => ?_, h.distinct.insert hn⟩
  · rw [getElem?_insert]
    constructor
    · intro hcn
      split at hcn
      · rename_i e
        exact ⟨i, { sp with returned := true }, (getElem?_set_iff hi).mpr (.inl ⟨rfl, rfl⟩), ⟨rfl, he⟩, e,
          Option.some.inj hcn⟩
      · obtain ⟨j, x, hx, hpx, hxc, hxn⟩ := (h.entry c n).mp hcn
        exact ⟨j, x, (getElem?_set_iff hi).mpr (.inr ⟨hne j x hx hpx, hx⟩), hpx, hxc, hxn⟩
    · rintro ⟨j, x, hx, hpx, rfl, rfl⟩
      rcases (getElem?_set_iff hi).mp hx with ⟨-, rfl⟩ | ⟨-, hx⟩
      · exact if_pos rfl
      · rw [if_neg (hno j x hx hpx).symm]
        exact (h.entry _ _).mpr ⟨j, x, hx, hpx, rfl, rfl⟩
  · rcases (getElem?_set_iff hi).mp hx with ⟨hj, rfl⟩ | ⟨-, hx'⟩ <;>
      rcases (getElem?_set_iff hi).mp hy with ⟨hk, rfl⟩ | ⟨-, hy'⟩
    · exact hj.trans hk.symm
    · exact absurd e.symm (hno k y hy' hpy)
    · exact absurd e (hno j x hx' hpx)
    · exact h.sole j k x y hx' hy' hpx hpy e
  · rcases List.mem_or_eq_of_mem_set hx with hx | rfl
    · exact h.named x hx
    · exact fun _ => h0
  · rcases List.mem_or_eq_of_mem_set hx with hx | rfl
    · exact h.heard x hx hf
    · cases hf

theorem Entries.ended (h : Entries m l) {i : Nat} {sp : JsonSpeech} (hi : l[i]? = some sp) (hp : sp.Pending)
    (e : SpeechEvent) : Entries (m.erase sp.clientId) (l.set i { sp with ended := some e }) := by
  have hm := List.mem_of_getElem? hi
  have hpend : ∀ {j : Nat} {x : JsonSpeech}, (l.set i { sp with ended := some e })[j]? = some x → x.Pending →
      j ≠ i ∧ l[j]? = some x := by
    intro j x hx hpx
    rcases (getElem?_set_iff hi).mp hx with ⟨-, rfl⟩ | hx
    · cases hpx.2
    · exact hx
  refine ⟨fun c n => ?_, fun j k x y hx hy hpx hpy hc => ?_, fun x hx => ?_, fun x hx hf => ?_, h.distinct.erase _⟩
  · rw [getElem?_erase]
    constructor
    · intro hcn
      split at hcn
      · cases hcn
      · rename_i hne
        obtain ⟨j, x, hx, hpx, hxc, hxn⟩ := (h.entry c n).mp hcn
        refine ⟨j, x, (getElem?_set_iff hi).mpr (.inr ⟨?_, hx⟩), hpx, hxc, hxn⟩
        rintro rfl
        obtain rfl := Option.some.inj (hx.symm.trans hi)
        exact hne hxc
    · rintro ⟨j, x, hx, hpx, rfl, rfl⟩
      obtain ⟨hji, hx⟩ := hpend hx hpx
      have hne : sp.clientId ≠ x.clientId := fun hc => hji (h.sole i j sp x hi hx hp hpx hc).symm
      rw [if_neg hne]
      exact (h.entry _ _).mpr ⟨j, x, hx, hpx, rfl, rfl⟩
  · exact h.sole j k x y (hpend hx hpx).2 (hpend hy hpy).2 hpx hpy hc
  · rcases List.mem_or_eq_of_mem_set hx with hx | rfl
    · exact h.named x hx
    · exact h.named sp hm
  · rcases List.mem_or_eq_of_mem_set hx with hx | rfl
    · exact h.heard x hx hf
    · rw [hp.1] at hf
      cases hf

theorem Entries.firstWith (h : Entries m l) {i : Nat} {sp : JsonSpeech} (hi : l[i]? = some sp) (hp : sp.Pending) :
    ValueMap.firstWith m sp.serviceId = some (sp.clientId, sp.serviceId) :=
  h.distinct.firstWith ((h.entry _ _).mpr ⟨i, sp, hi, hp, rfl, rfl⟩)

end

/-! ## The link -/

structure Linked (s : TextToSpeechService) : Prop where
  up : s.remoteObject = true → s.isInitialized = true
  down : s.remoteObject = false → s.eventsRegistered = []

namespace TextToSpeechService

variable {s : TextToSpeechService}

/-- Subscribing to events in turn adds the accepted ones while there is a remote object. -/
theorem foldl_subscribe (accepts : String → Bool) (events : List String) (s : TextToSpeechService) :
    events.foldl (subscribe accepts) s =
      { s with eventsRegistered := s.eventsRegistered ++ if s.remoteObject then events.filter accepts else [] } := by
  induction events generalizing s with
  | nil => cases hr : s.remoteObject <;> simp [← hr]
  | cons event events ih =>
    rw [List.foldl_cons, ih, subscribe]
    cases hr : s.remoteObject <;> cases ha : accepts event <;> simp [hr, ha]

theorem register_linked (accepts : String → Bool) (h : Linked s) : Linked (s.registerSpeechEventHandlers accepts) := by
  unfold registerSpeechEventHandlers
  split
  · rw [foldl_subscribe]
    refine ⟨h.up, fun hd => ?_⟩
    simp only at hd
    simp [hd, h.down hd]
  · exact h

theorem deactivated_linked (s : TextToSpeechService) : Linked s.deactivated :=
  ⟨fun h => (by cases h), fun _ => rfl⟩

theorem setUp_linked (active : Bool) (accepts : String → Bool) (h : Linked s) : Linked (s.setUp active accepts).2 := by
  unfold setUp
  split
  · exact h
  · refine ⟨fun _ => rfl, fun hd => ?_⟩
    simp only at hd ⊢
    split
    · rename_i hup
      rw [if_pos hup, foldl_subscribe] at hd
      have hr := (Bool.and_eq_true_iff.mp hup).2
      exact absurd (hr.symm.trans hd) (by decide)
    · rename_i hup
      rw [if_neg hup] at hd
      simp only [Bool.or_eq_false_iff] at hd
      exact h.down hd.1

theorem initialized_of_mem (h : Linked s) {event : String} (he : event ∈ s.eventsRegistered) : s.initialized = true := by
  cases hr : s.remoteObject with
  | false =>
    rw [h.down hr] at he
    cases he
  | true => simp [initialized, hr, h.up hr]

end TextToSpeechService

namespace JsonSystem

structure Sound (st : JsonSystem) : Prop where
  link : Linked st.service
  callback : st.client.sessionCallback = true
  entries : Entries st.client.requestedSpeeches st.speeches
  known : ∀ sp ∈ st.speeches, sp.activation ≤ st.activation
  numbered : ∀ (i j : Nat) (sp sp' : JsonSpeech), st.speeches[i]? = some sp → st.speeches[j]? = some sp' →
    sp.activation = sp'.activation → sp.serviceId = sp'.serviceId → i = j

/-- A reply is entered under ids the map does not have; a terminal event comes after the reply. -/
def Recordable (st : JsonSystem) : Label → Prop
  | .reply i => ∀ sp, st.speeches[i]? = some sp →
      sp.clientId ≠ 0 ∧ sp.clientId ∉ st.client.requestedSpeeches ∧
        ∀ c : Nat, st.client.requestedSpeeches[c]? ≠ some sp.serviceId
  | .event i e => e.terminal = true → ∀ sp, st.speeches[i]? = some sp → sp.returned = true
  | _ => True

section
variable {st : JsonSystem} (h : Sound st) {i : Nat} {sp : JsonSpeech} (hi : st.speeches[i]? = some sp)

include h in
theorem Sound.reportAs (e : SpeechEvent) (h0 : sp.clientId ≠ 0) :
    st.client.reportAs e sp.clientId = [st.reportOf e sp] := if_pos ⟨h0, h.callback⟩

include h hi in
theorem Sound.onProgress (hp : sp.Pending) (e : SpeechEvent) :
    st.client.onProgress e sp.serviceId = ([st.reportOf e sp], st.client) := by
  have h0 := h.entries.named sp (List.mem_of_getElem? hi) hp.1
  rw [TTSClientPrivateJsonRPC.onProgress, SpeechRequestMap.getClientId, h.entries.firstWith hi hp]
  exact congrArg (·, st.client) (h.reportAs e h0)

include h hi in
theorem Sound.onEnd (hp : sp.Pending) (e : SpeechEvent) :
    st.client.onEnd e sp.serviceId =
      ([st.reportOf e sp],
        { st.client with requestedSpeeches := st.client.requestedSpeeches.erase sp.clientId }) := by
  have h0 := h.entries.named sp (List.mem_of_getElem? hi) hp.1
  rw [TTSClientPrivateJsonRPC.onEnd, SpeechRequestMap.removeServiceId, h.entries.firstWith hi hp]
  exact congrArg (·, _) (h.reportAs e h0)

include h hi in
theorem Sound.dispatch_reports (hp : sp.Pending) {e : SpeechEvent} (he : e.name ∈ st.service.eventsRegistered) :
    (st.service.dispatchEvent e sp.serviceId st.client).1 = [st.reportOf e sp] := by
  have hs := TextToSpeechService.initialized_of_mem h.link he
  cases ht : e.terminal with
  | false => rw [TextToSpeechService.dispatchEvent_progress ht hs, h.onProgress hi hp]
  | true => rw [TextToSpeechService.dispatchEvent_end ht hs, h.onEnd hi hp]

end

/-! ## Steps -/

theorem Sound.ofClient {st : JsonSystem} (h : Sound st) {service : TextToSpeechService} (hl : Linked service)
    (client : TTSClientPrivateJsonRPC) (hc : client.sessionCallback = st.client.sessionCallback)
    (hm : client.requestedSpeeches = st.client.requestedSpeeches) {activation : Nat}
    (ha : st.activation ≤ activation) :
    Sound { st with service := service, client := client, activation := activation } := by
  refine ⟨hl, hc.trans h.callback, ?_, fun sp hsp => Nat.le_trans (h.known sp hsp) ha, h.numbered⟩
  show Entries client.requestedSpeeches _
  rw [hm]
  exact h.entries

theorem Sound.accept {st : JsonSystem} (h : Sound st) (id : Nat) {serviceId : Nat} (hf : st.fresh serviceId) :
    Sound { st with speeches := st.speeches ++ [⟨id, serviceId, st.activation, false, none⟩] } := by
  refine ⟨h.link, h.callback, h.entries.accept rfl rfl, fun sp hsp => ?_, fun i j x y hx hy ha hn => ?_⟩
  · rcases List.mem_append.mp hsp with hsp | hsp
    · exact h.known sp hsp
    · obtain rfl := List.mem_singleton.mp hsp
      exact Nat.le_refl _
  · rcases getElem?_concat_iff.mp hx with hx | ⟨hi, rfl⟩ <;> rcases getElem?_concat_iff.mp hy with hy | ⟨hj, rfl⟩
    · exact h.numbered i j x y hx hy ha hn
    · exact absurd hn (hf.2 x (List.mem_of_getElem? hx) ha)
    · exact absurd hn.symm (hf.2 y (List.mem_of_getElem? hy) ha.symm)
    · exact hi.trans hj.symm

theorem Sound.mark {st : JsonSystem} (h : Sound st) {i : Nat} {sp : JsonSpeech} (hi : st.speeches[i]? = some sp)
    (sp' : JsonSpeech) (hs : sp'.serviceId = sp.serviceId) (ha : sp'.activation = sp.activation)
    (client : TTSClientPrivateJsonRPC) (hc : client.sessionCallback = st.client.sessionCallback)
    (he : Entries client.requestedSpeeches (st.speeches.set i sp')) :
    Sound { st with client := client, speeches := st.speeches.set i sp' } := by
  have hold : ∀ {j : Nat} {x : JsonSpeech}, (st.speeches.set i sp')[j]? = some x →
      ∃ y, st.speeches[j]? = some y ∧ y.serviceId = x.serviceId ∧ y.activation = x.activation := by
    intro j x hx
    rcases (getElem?_set_iff hi).mp hx with ⟨rfl, rfl⟩ | ⟨-, hx⟩
    · exact ⟨sp, hi, hs.symm, ha.symm⟩
    · exact ⟨x, hx, rfl, rfl⟩
  refine ⟨h.link, hc.trans h.callback, he, fun x hx => ?_, fun j k x y hx hy hxy hn => ?_⟩
  · rcases List.mem_or_eq_of_mem_set hx with hx | rfl
    · exact h.known x hx
    · rw [ha]
      exact h.known sp (List.mem_of_getElem? hi)
  · obtain ⟨x', hx', hxs, hxa⟩ := hold hx
    obtain ⟨y', hy', hys, hya⟩ := hold hy
    exact h.numbered j k x' y' hx' hy' (hxa.trans (hxy.trans hya.symm)) (hxs.trans (hn.trans hys.symm))

theorem Sound.takeReply {st : JsonSystem} (h : Sound st) {i : Nat} {sp : JsonSpeech}
    (hi : st.speeches[i]? = some sp) (hr : sp.returned = false) (ho : st.Recordable (.reply i)) :
    Sound (st.takeReply i sp) := by
  obtain ⟨h0, hc, hn⟩ := ho sp hi
  exact h.mark hi { sp with returned := true } rfl rfl _ rfl (h.entries.reply hi hr h0 hc hn)

theorem Sound.takeEvent {st : JsonSystem} (h : Sound st) {i : Nat} {e : SpeechEvent} {sp : JsonSpeech}
    (hi : st.speeches[i]? = some sp) (hn : e.name ∈ st.service.eventsRegistered) (he : sp.ended = none)
    (ho : st.Recordable (.event i e)) : Sound (st.takeEvent i e sp) := by
  have hs := TextToSpeechService.initialized_of_mem h.link hn
  unfold JsonSystem.takeEvent
  cases ht : e.terminal with
  | false =>
    rw [TextToSpeechService.dispatchEvent_progress ht hs]
    exact ⟨h.link, h.callback, h.entries, h.known, h.numbered⟩
  | true =>
    have hp : sp.Pending := ⟨ho ht sp hi, he⟩
    rw [TextToSpeechService.dispatchEvent_end ht hs, h.onEnd hi hp]
    have hm := h.mark hi { sp with ended := some e } rfl rfl
      { st.client with requestedSpeeches := st.client.requestedSpeeches.erase sp.clientId } rfl (h.entries.ended hi hp e)
    exact ⟨hm.link, hm.callback, hm.entries, hm.known, hm.numbered⟩

theorem step_sound {st st' : JsonSystem} {a : Label} (h : Sound st) (ho : st.Recordable a) (hs : st.step a = some st') :
    Sound st' := by
  cases a with
  | speak id serviceId accepts =>
    simp only [step, Option.ite_none_right_eq_some, Option.some.injEq] at hs
    obtain ⟨⟨-, hf⟩, rfl⟩ := hs
    have hc := h.ofClient (TextToSpeechService.register_linked accepts h.link) st.client.speakCall rfl rfl
      (Nat.le_refl _)
    exact hc.accept id hf
  | unnumbered id failed accepts =>
    simp only [step, Option.ite_none_right_eq_some, Option.some.injEq] at hs
    obtain ⟨-, rfl⟩ := hs
    refine h.ofClient (TextToSpeechService.register_linked accepts h.link) _ ?_ ?_ (Nat.le_refl _) <;>
      cases failed <;> rfl
  | reply i =>
    simp only [step, Option.bind_eq_some_iff, Option.ite_none_left_eq_some, Option.some.injEq] at hs
    obtain ⟨sp, hi, hr, rfl⟩ := hs
    exact h.takeReply hi (by simpa using hr) ho
  | event i e =>
    simp only [step, Option.bind_eq_some_iff, Option.ite_none_right_eq_some, Option.some.injEq] at hs
    obtain ⟨sp, hi, ⟨-, hn, he⟩, rfl⟩ := hs
    exact h.takeEvent hi hn he ho
  | stateChange enabled =>
    simp only [step, Option.ite_none_right_eq_some, Option.some.injEq] at hs
    obtain ⟨-, rfl⟩ := hs
    refine h.ofClient h.link _ ?_ ?_ (Nat.le_refl _) <;> (split <;> rfl)
  | deactivate =>
    obtain rfl := Option.some.inj hs
    exact h.ofClient st.service.deactivated_linked st.client.onDeactivation rfl rfl (Nat.le_refl _)
  | activate accepts =>
    simp only [step, Option.ite_none_left_eq_some, Option.some.injEq] at hs
    obtain ⟨-, rfl⟩ := hs
    refine h.ofClient (TextToSpeechService.setUp_linked true accepts h.link) _ ?_ ?_ (Nat.le_succ _) <;>
      (split <;> rfl)

theorem start_sound {st : JsonSystem} (h : st.isStart) : Sound st := by
  obtain ⟨connectionCallback, appId, fetched, accepts, rfl⟩ := h
  have hl : Linked TextToSpeechService.new := ⟨fun h => (by cases h), fun _ => rfl⟩
  obtain ⟨hc, hm⟩ :
      ((TTSClientPrivateJsonRPC.new connectionCallback).createSession true appId true fetched).2.sessionCallback = true ∧
      ((TTSClientPrivateJsonRPC.new connectionCallback).createSession true appId true fetched).2.requestedSpeeches = ∅ := by
    cases connectionCallback <;> cases fetched <;> exact ⟨rfl, rfl⟩
  refine ⟨TextToSpeechService.setUp_linked true accepts hl, hc, ?_, fun sp hsp => ?_, fun i j x y hx => ?_⟩
  · show Entries _ []
    rw [start, hm]
    exact entries_nil
  · cases hsp
  · simp [start] at hx

end JsonSystem

end TTS
