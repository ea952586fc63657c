/-
This file lists what the map reports while it works, and what a call hands back.
-/

import IncrementalMap.Error

namespace IncrementalMap

/-- A level ranks an event from detail to warning. -/
inductive Level where
  | trace
  | debug
  | warn
  deriving DecidableEq

/-- The name of a level is written in capitals. -/
def Level.name : Level → String
  | .trace => "TRACE"
  | .debug => "DEBUG"
  | .warn => "WARN"

/-- An event records one change of a table, or a growth that memory did not allow. -/
inductive Event where
  | migrationStarted (fromCapacity toCapacity entries : Nat)
  | migrationStep (moved cursor remaining : Nat)
  | migrationFinished (capacity : Nat)
  | growthDeferred (capacity entries : Nat) (error : MapError)
  | reserved (capacity : Nat)
  | resize (fromCapacity toCapacity entries : Nat)
  | immediateResize (fromCapacity toCapacity entries : Nat)
  | clear (entries : Nat)
  deriving DecidableEq

namespace Event

/-- Steps are details, and only a deferred growth is a warning. -/
def level : Event → Level
  | .migrationStep .. => .trace
  | .growthDeferred .. => .warn
  | _ => .debug

/-- The message names the kind of an event. -/
def message : Event → String
  | .migrationStarted .. => "migration started"
  | .migrationStep .. => "migration step"
  | .migrationFinished .. => "migration finished"
  | .growthDeferred .. => "growth deferred: could not allocate larger table"
  | .reserved .. => "reserved"
  | .resize .. => "resize"
  | .immediateResize .. => "immediate resize"
  | .clear .. => "clear"

/-- A field of an event is a number or a text. -/
inductive Field where
  | number (value : Nat)
  | text (value : String)
  deriving DecidableEq

/-- The fields of an event carry their names. -/
def fields : Event → List (String × Field)
  | .migrationStarted fromCapacity toCapacity entries =>
      [("from_capacity", .number fromCapacity), ("to_capacity", .number toCapacity),
        ("entries", .number entries)]
  | .migrationStep moved cursor remaining =>
      [("moved", .number moved), ("cursor", .number cursor), ("remaining", .number remaining)]
  | .migrationFinished capacity => [("capacity", .number capacity)]
  | .growthDeferred capacity entries error =>
      [("capacity", .number capacity), ("entries", .number entries), ("error", .text error.message)]
  | .reserved capacity => [("capacity", .number capacity)]
  | .resize fromCapacity toCapacity entries | .immediateResize fromCapacity toCapacity entries =>
      [("from", .number fromCapacity), ("to", .number toCapacity), ("entries", .number entries)]
  | .clear entries => [("entries", .number entries)]

end Event

/-- An outcome is the result of a call, the state and store that it leaves, and its events. -/
structure Outcome (State Store Result : Type) where
  result : Result
  state : State
  store : Store
  events : List Event

end IncrementalMap
