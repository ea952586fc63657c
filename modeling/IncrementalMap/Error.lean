/-
This file lists the failures that a caller of the map can see.
-/

namespace IncrementalMap

/-- A call is refused for its capacity, for a setting, or for lack of memory. -/
inductive MapError where
  | invalidCapacity (requested : Nat)
  | invalidConfig (reason : String)
  | allocationFailure
  deriving DecidableEq

/-- This text says why a slot array cannot be had. -/
def MapError.shortage : String :=
  "memory allocation failed because the computed capacity exceeded the collection's maximum"

/-- Only a failed allocation has a cause outside the map. -/
def MapError.cause? : MapError → Option String
  | .allocationFailure => some shortage
  | _ => none

/-- The message names the refused value, or the shortage. -/
def MapError.message : MapError → String
  | .invalidCapacity requested => s!"invalid capacity {requested}: must be a non-zero power of two"
  | .invalidConfig reason => s!"invalid configuration: {reason}"
  | .allocationFailure => s!"slot array allocation failed: {shortage}"

/-- A fault means that the caller broke the rules of the arena, so the call has no answer. -/
inductive Fault (Id : Type) where
  | missing (id : Id)
  | slotOutOfRange (slot : Nat)
  | countUnderflow
  | endless
  deriving DecidableEq

/-- The message of a fault names the payload or slot that cannot be reached. -/
def Fault.message {Id : Type} [ToString Id] : Fault Id → String
  | .missing id => s!"node {id} is linked into the map but missing from its arena"
  | .slotOutOfRange slot => s!"slot {slot} is outside the slot array"
  | .countUnderflow => "more payloads are linked than were counted"
  | .endless => "a chain of payloads has no end"

end IncrementalMap
