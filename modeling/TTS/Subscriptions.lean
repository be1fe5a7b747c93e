import Mathlib.Data.List.Nodup
import TTS.Service

/-!
# Subscriptions of the link

Which events are registered, over all runs of the link and whatever becomes of
the single subscriptions. No event is registered twice and none without a remote
object; but the speech events are subscribed once only, whether or not that
succeeds.
-/

namespace TTS

open Transition

/-- No speech event is missing once the handlers count as registered. -/
def SpeechComplete (s : TextToSpeechService) : Prop :=
  s.registeredSpeechEventHandlers = true → ∀ e : SpeechEvent, e.name ∈ s.eventsRegistered

/-- What holds whatever the subscriptions come to. -/
structure Subscriptions (s : TextToSpeechService) : Prop extends Linked s where
  nodup : s.eventsRegistered.Nodup
  flagged : s.registeredSpeechEventHandlers = true → s.remoteObject = true
  unflagged : s.registeredSpeechEventHandlers = false → ∀ e : SpeechEvent, e.name ∉ s.eventsRegistered

namespace SpeechEvent

theorem mem_all (e : SpeechEvent) : e ∈ all := by
  cases e <;> decide

theorem nodup_names : (all.map name).Nodup := by decide

theorem name_mem_names (e : SpeechEvent) : e.name ∈ all.map name := List.mem_map_of_mem e.mem_all

theorem name_not_mem_state (e : SpeechEvent) : e.name ∉ ["onttsstatechanged", "onvoicechanged"] := by
  cases e <;> decide

end SpeechEvent

namespace TextToSpeechService

variable {s : TextToSpeechService}

theorem subscriptions_active (h : Subscriptions s) (active : Bool) : Subscriptions { s with active := active } :=
  ⟨⟨h.up, h.down⟩, h.nodup, h.flagged, h.unflagged⟩

theorem subscriptions_deactivated (s : TextToSpeechService) : Subscriptions s.deactivated :=
  ⟨s.deactivated_linked, List.nodup_nil, (fun h => nomatch h), (fun _ _ h => nomatch h)⟩

/-- Whether `registerSpeechEventHandlers` gets to the subscriptions. -/
def Registers (s : TextToSpeechService) : Prop :=
  s.active = true ∧ s.registeredSpeechEventHandlers = false ∧ s.remoteObject = true

theorem register_of_registers (h : s.Registers) (accepts : String → Bool) :
    s.registerSpeechEventHandlers accepts = { s with
      registeredSpeechEventHandlers := true
      eventsRegistered := s.eventsRegistered ++ (SpeechEvent.all.map SpeechEvent.name).filter accepts } := by
  obtain ⟨hactive, hflag, hremote⟩ := h
  unfold registerSpeechEventHandlers
  rw [hactive, hflag, hremote, foldl_subscribe]
  simp

theorem register_of_not_registers (h : ¬s.Registers) (accepts : String → Bool) : s.registerSpeechEventHandlers accepts = s := by
  unfold registerSpeechEventHandlers
  apply if_neg
  intro hall
  simp only [Bool.and_eq_true, Bool.not_eq_true'] at hall
  exact h ⟨hall.1.1, hall.1.2, hall.2⟩

theorem subscriptions_register (h : Subscriptions s) (accepts : String → Bool) :
    Subscriptions (s.registerSpeechEventHandlers accepts) := by
  by_cases hr : s.Registers
  · obtain ⟨-, hflag, hremote⟩ := id hr
    rw [register_of_registers hr]
    refine ⟨⟨h.up, fun hd => ?_⟩, ?_, fun _ => hremote, (fun hf => nomatch hf)⟩
    · rw [hremote] at hd
      cases hd
    · -- the events there before are none of the speech events
      refine List.nodup_append.mpr ⟨h.nodup, SpeechEvent.nodup_names.filter accepts, fun event hm event' hm' => ?_⟩
      obtain ⟨e, -, rfl⟩ := List.mem_map.mp (List.mem_filter.mp hm').1
      rintro rfl
      exact h.unflagged hflag e hm
  · rw [register_of_not_registers hr]
    exact h

theorem complete_register (h : Subscriptions s) (hc : SpeechComplete s) (accepts : String → Bool) :
    SpeechComplete (s.registerSpeechEventHandlers accepts) ↔ (s.Registers → ∀ e : SpeechEvent, accepts e.name = true) := by
  by_cases hr : s.Registers
  · rw [register_of_registers hr]
    have hnone : ∀ e : SpeechEvent, e.name ∉ s.eventsRegistered := h.unflagged hr.2.1
    have hmem : ∀ e : SpeechEvent, e.name ∈ s.eventsRegistered ++ (SpeechEvent.all.map SpeechEvent.name).filter accepts ↔
        accepts e.name = true := by
      intro e
      rw [List.mem_append, or_iff_right (hnone e), List.mem_filter]
      exact and_iff_right e.name_mem_names
    simp only [SpeechComplete, hmem, hr, true_imp_iff]
  · rw [register_of_not_registers hr]
    exact iff_of_true hc fun h => absurd h hr

end TextToSpeechService

/-! ## Runs -/

/-- Where the call subscribes to the speech events, all eight subscriptions succeed. -/
def AllAccepted (s : Service) : ServiceCall → Prop
  | .registerSpeechEventHandlers reply accepts =>
    (s.isActive false reply).2.Registers → ∀ e : SpeechEvent, accepts e.name = true
  | _ => True

namespace Service

variable {s : Service}

theorem isActive_subscriptions (h : Subscriptions s.toTextToSpeechService) (force : Bool) (reply : Option Bool) :
    Subscriptions (s.isActive force reply).2.toTextToSpeechService := by
  obtain ⟨active, hlink⟩ := s.isActive_link force reply
  rw [hlink]
  exact TextToSpeechService.subscriptions_active h active

theorem setUp_of_initialized (hi : s.initialized = true) (activateIfRequired : Bool) (r : InitializeReplies)
    (accepts : String → Bool) : s.setUp activateIfRequired r accepts = s := if_pos hi

theorem remoteObject_of_not_initialized (h : Subscriptions s.toTextToSpeechService) (hi : s.initialized = false) :
    s.remoteObject = false ∧ s.eventsRegistered = [] ∧ s.registeredSpeechEventHandlers = false := by
  have hremote : s.remoteObject = false := by
    cases hr : s.remoteObject with
    | false => rfl
    | true =>
      rw [TextToSpeechService.initialized, hr, h.up hr] at hi
      cases hi
  refine ⟨hremote, h.down hremote, ?_⟩
  cases hf : s.registeredSpeechEventHandlers with
  | false => rfl
  | true =>
    rw [h.flagged hf] at hremote
    cases hremote

theorem setUp_subscriptions (h : Subscriptions s.toTextToSpeechService) (activateIfRequired : Bool) (r : InitializeReplies)
    (accepts : String → Bool) : Subscriptions (s.setUp activateIfRequired r accepts).toTextToSpeechService := by
  cases hi : s.initialized with
  | true =>
    rw [setUp_of_initialized hi]
    exact h
  | false =>
    obtain ⟨hremote, hnil, hflag⟩ := remoteObject_of_not_initialized h hi
    obtain ⟨active, remote, hlink⟩ := setUp_link hi activateIfRequired r accepts
    rw [hlink]
    simp only [hremote, hnil, hflag, Bool.false_or, List.nil_append]
    refine ⟨⟨fun _ => rfl, fun hd => ?_⟩, ?_, (fun hf => nomatch hf), fun _ e hm => ?_⟩
    · simp only at hd
      simp [hd]
    · simp only
      split
      · exact List.Nodup.filter accepts (by decide)
      · exact List.nodup_nil
    · simp only at hm
      split at hm
      · exact e.name_not_mem_state (List.mem_filter.mp hm).1
      · cases hm

theorem perform_subscriptions (h : Subscriptions s.toTextToSpeechService) (call : ServiceCall) :
    Subscriptions (s.perform call).toTextToSpeechService := by
  cases call with
  | isActive force reply => exact isActive_subscriptions h force reply
  | activate success =>
    obtain ⟨active, hlink⟩ := s.activate_link success
    rw [perform, hlink]
    exact TextToSpeechService.subscriptions_active h active
  | setUp activateIfRequired replies accepts => exact setUp_subscriptions h activateIfRequired replies accepts
  | registerSpeechEventHandlers reply accepts =>
    exact TextToSpeechService.subscriptions_register (isActive_subscriptions h false reply) accepts
  | uninitialize => exact TextToSpeechService.subscriptions_deactivated s.toTextToSpeechService
  | onDeactivation d =>
    rw [perform, (s.onDeactivation_frame d).1]
    exact TextToSpeechService.subscriptions_deactivated s.toTextToSpeechService

theorem isActive_complete (hc : SpeechComplete s.toTextToSpeechService) (force : Bool) (reply : Option Bool) :
    SpeechComplete (s.isActive force reply).2.toTextToSpeechService := by
  obtain ⟨active, hlink⟩ := s.isActive_link force reply
  rw [hlink]
  exact hc

/-- Exactly the calls that do not meet the condition leave a speech event out. -/
theorem perform_complete (h : Subscriptions s.toTextToSpeechService) (hc : SpeechComplete s.toTextToSpeechService)
    (call : ServiceCall) : SpeechComplete (s.perform call).toTextToSpeechService ↔ AllAccepted s call := by
  cases call with
  | registerSpeechEventHandlers reply accepts =>
    exact TextToSpeechService.complete_register (isActive_subscriptions h false reply) (isActive_complete hc false reply)
      accepts
  | isActive force reply => exact iff_of_true (isActive_complete hc force reply) trivial
  | activate success =>
    obtain ⟨active, hlink⟩ := s.activate_link success
    rw [perform, hlink]
    exact iff_of_true hc trivial
  | setUp activateIfRequired replies accepts =>
    refine iff_of_true ?_ trivial
    cases hi : s.initialized with
    | true =>
      rw [perform, setUp_of_initialized hi]
      exact hc
    | false =>
      obtain ⟨-, -, hflag⟩ := remoteObject_of_not_initialized h hi
      obtain ⟨active, remote, hlink⟩ := setUp_link hi activateIfRequired replies accepts
      rw [perform, hlink]
      intro hf
      rw [hflag] at hf
      cases hf
  | uninitialize => exact iff_of_true (fun hf => nomatch hf) trivial
  | onDeactivation d =>
    rw [perform, (s.onDeactivation_frame d).1]
    exact iff_of_true (fun hf => nomatch hf) trivial

theorem register_retries (hc : SpeechComplete s.toTextToSpeechService) {e : SpeechEvent} (he : e.name ∉ s.eventsRegistered)
    {reply : Option Bool} (hactive : (s.isActive false reply).1 = true) (hremote : s.remoteObject = true)
    {accepts : String → Bool} (haccepts : accepts e.name = true) :
    e.name ∈ (s.registerSpeechEventHandlers reply accepts).eventsRegistered := by
  have hflag : s.registeredSpeechEventHandlers = false := by
    cases hf : s.registeredSpeechEventHandlers with
    | false => rfl
    | true => exact absurd (hc hf e) he
  obtain ⟨active, hlink⟩ := s.isActive_link false reply
  rw [isActive_active] at hactive
  have hr : (s.isActive false reply).2.Registers := by
    refine ⟨hactive, ?_, ?_⟩
    · rw [hlink]
      exact hflag
    · rw [hlink]
      exact hremote
  unfold registerSpeechEventHandlers
  simp only
  rw [TextToSpeechService.register_of_registers hr]
  exact List.mem_append_right _ (List.mem_filter.mpr ⟨e.name_mem_names, haccepts⟩)

end Service

theorem service_subscriptions {s : Service} (h : service.Reachable s) : Subscriptions s.toTextToSpeechService := by
  refine Machine.Reachable.invariant (I := fun s : Service => Subscriptions s.toTextToSpeechService) ?_ ?_ h
  · intro s hs
    obtain ⟨policy, rfl⟩ := hs
    exact ⟨⟨(fun h => nomatch h), fun _ => rfl⟩, List.nodup_nil, (fun h => nomatch h), (fun _ _ h => nomatch h)⟩
  · intro s call t hI hstep
    obtain rfl := Option.some.inj hstep
    exact Service.perform_subscriptions hI call

theorem service_complete {s : Service} (h : service.ReachableIf AllAccepted s) : SpeechComplete s.toTextToSpeechService := by
  induction h with
  | init hs =>
    obtain ⟨policy, rfl⟩ := hs
    exact fun hf => nomatch hf
  | step hreach hok hstep ih =>
    obtain rfl := Option.some.inj hstep
    exact (Service.perform_complete (service_subscriptions hreach.reachable) ih _).mpr hok

/-- **Event subscriptions.** No event is registered twice in any run, and none
without a remote object. The speech events are complete or tried again in every
run whose subscriptions to them all succeed, and a call that fails one of them
leaves it out. -/
theorem subscriptions_complete (s : Service) :
    (service.Reachable s → s.eventsRegistered.Nodup ∧ (s.remoteObject = false → s.eventsRegistered = [])) ∧
      (service.ReachableIf AllAccepted s →
        SpeechComplete s.toTextToSpeechService ∧
        (∀ (e : SpeechEvent) (reply : Option Bool) (accepts : String → Bool), e.name ∉ s.eventsRegistered →
          (s.isActive false reply).1 = true → s.remoteObject = true → accepts e.name = true →
            e.name ∈ (s.registerSpeechEventHandlers reply accepts).eventsRegistered) ∧
        ∀ call, SpeechComplete (s.perform call).toTextToSpeechService ↔ AllAccepted s call) := by
  constructor
  · intro h
    have hsub := service_subscriptions h
    exact ⟨hsub.nodup, hsub.down⟩
  · intro h
    have hc := service_complete h
    exact ⟨hc, fun e reply accepts he hactive hremote haccepts => Service.register_retries hc he hactive hremote haccepts,
      Service.perform_complete (service_subscriptions h.reachable) hc⟩

/-- The link is up and no speech event registered yet: the next call registers it. -/
theorem subscriptions_complete_up :
    ∃ s : Service, s.remoteObject = true ∧ s.eventsRegistered = ["onttsstatechanged", "onvoicechanged"] ∧
      s.eventsRegistered.Nodup ∧ SpeechComplete s.toTextToSpeechService ∧
      "onspeechcomplete" ∈ (s.registerSpeechEventHandlers (some true) fun _ => true).eventsRegistered := by
  have h0 : service.ReachableIf AllAccepted (Service.new ⟨false, 3, 60, true⟩) := .init ⟨_, rfl⟩
  have hup : AllAccepted (Service.new ⟨false, 3, 60, true⟩)
      (.setUp true ⟨some true, true, some true, some true⟩ fun _ => true) := trivial
  have h1 := h0.step hup rfl
  obtain ⟨hcomplete, hretried, -⟩ := (subscriptions_complete _).2 h1
  exact ⟨_, rfl, rfl, ((subscriptions_complete _).1 h1.reachable).1, hcomplete,
    hretried .complete (some true) (fun _ => true) (by decide) rfl rfl rfl⟩

/-- The subscription to the end of a speech fails, and no later call makes up for it. -/
theorem speech_event_missing : ¬∀ s, service.Reachable s → SpeechComplete s.toTextToSpeechService := by
  intro h
  have hcomplete := h _ (Machine.reachable_of_exec (s := Service.new ⟨false, 3, 60, true⟩) ⟨_, rfl⟩
    [.setUp true ⟨some true, true, some true, some true⟩ fun _ => true,
      .registerSpeechEventHandlers (some true) fun event => event ≠ "onspeechcomplete",
      .registerSpeechEventHandlers (some true) fun _ => true] rfl)
  exact absurd (hcomplete rfl .complete) (by decide)

end TTS
