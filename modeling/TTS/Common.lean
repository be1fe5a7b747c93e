import Std.Data.TreeMap

/-!
# Codes, values and events shared by the engine and the client

Pointers to sessions are indices into the list of session objects ever
created; ids are natural numbers.
-/

namespace TTS

inductive ResourceAllocationPolicy
  | invalid
  | reservation
  | priority
  | open
  deriving DecidableEq, Repr

inductive TTSError
  | ok
  | fail
  | notEnabled
  | createSessionDuplicate
  | emptyAppidInput
  | resourceBusy
  | noSessionFound
  | nestedClaimRequest
  | invalidConfiguration
  | sessionNotActive
  | appNotFound
  | policyViolation
  | objectDestroyed
  | speechNotFound
  deriving DecidableEq, Repr

def TTSError.code : TTSError → Nat
  | .ok => 0
  | .fail => 1
  | .notEnabled => 2
  | .createSessionDuplicate => 3
  | .emptyAppidInput => 4
  | .resourceBusy => 5
  | .noSessionFound => 6
  | .nestedClaimRequest => 7
  | .invalidConfiguration => 8
  | .sessionNotActive => 9
  | .appNotFound => 10
  | .policyViolation => 11
  | .objectDestroyed => 1010
  | .speechNotFound => 1011

/-- Codes of remote calls; `other` is any code the engine does not look for. -/
inductive RtError
  | ok
  | timeout
  | epipe
  | streamClosed
  | other (code : Nat)
  deriving DecidableEq, Repr

inductive RtValue
  | empty
  | bool (b : Bool)
  | num (n : Nat)
  | str (s : String)
  deriving DecidableEq, Repr

structure Event where
  name : String
  props : List (String × RtValue)
  deriving DecidableEq, Repr

def Event.new (name : String) : Event := ⟨name, []⟩

def Event.set (e : Event) (p : String) (v : RtValue) : Event := { e with props := e.props ++ [(p, v)] }

def Event.flag (e : Event) (p : String) : Bool := e.props.reverse.lookup p == some (.bool true)

/-- `1 << k` of `enum ExtendedEvents`, tested against a session's flags. -/
inductive ExtendedEvent
  | willSpeak
  | paused
  | resumed
  | cancelled
  | interrupted
  | networkError
  | playbackError
  deriving DecidableEq, Repr

def ExtendedEvent.bit : ExtendedEvent → Nat
  | .willSpeak => 0
  | .paused => 1
  | .resumed => 2
  | .cancelled => 3
  | .interrupted => 4
  | .networkError => 5
  | .playbackError => 6

def ExtendedEvent.requested (flags : Nat) (e : ExtendedEvent) : Bool := flags.testBit e.bit

/-! ## Maps keyed by ids -/

theorem getElem?_insert (t : Std.TreeMap Nat Nat) (k v a : Nat) :
    (t.insert k v)[a]? = if k = a then some v else t[a]? := by
  rw [Std.TreeMap.getElem?_insert]
  simp only [Nat.compare_eq_eq]

theorem getElem?_erase (t : Std.TreeMap Nat Nat) (k a : Nat) :
    (t.erase k)[a]? = if k = a then none else t[a]? := by
  rw [Std.TreeMap.getElem?_erase]
  simp only [Nat.compare_eq_eq]

theorem mem_iff_getElem? (t : Std.TreeMap Nat Nat) (k : Nat) : k ∈ t ↔ ∃ p, t[k]? = some p := by
  rw [← Std.TreeMap.isSome_getElem?_iff_mem]
  exact Option.isSome_iff_exists

end TTS
