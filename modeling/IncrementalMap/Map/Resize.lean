/-
This file gives a map another capacity, step by step or at once.
-/

import IncrementalMap.Map.Basic
import IncrementalMap.Table.Transfer

namespace IncrementalMap.Map

/-- The target must be a capacity, and it is raised until every payload has a slot. -/
def resizeGoal {Id : Type} (map : Map Id) (target : Nat) : Except MapError Nat :=
  if ¬ IsCapacity target then
    .error (.invalidCapacity target)
  else if map.size ≤ target then
    .ok target
  else
    match capacityFor? map.size with
    | some capacity => .ok capacity
    | none => .error (.invalidCapacity target)

/-- A running episode is finished first, and then a new one starts unless the newer table already
has the capacity. A refusal leaves the map as it is. -/
def resize {Store Id Content : Type} [Arena Store Id Content] (map : Map Id) (store : Store)
    (allocator : Allocator) (target : Nat) :
    Except (Fault Id) (Outcome (Map Id) Store (Except MapError Unit)) :=
  match map.resizeGoal target with
  | .error error => pure ⟨.error error, map, store, []⟩
  | .ok capacity =>
      if map.capacity = capacity then do
        let ⟨rehash, config⟩ := map
        let ⟨_, rehash, store, drained⟩ ← rehash.drain store
        pure ⟨.ok (), ⟨rehash, config⟩, store, drained⟩
      else
        match Table.allocate allocator capacity with
        | .error error => pure ⟨.error error, map, store, []⟩
        | .ok fresh => do
            let ⟨rehash, config⟩ := map
            let ⟨_, rehash, store, drained⟩ ← rehash.drain store
            let resized := Event.resize rehash.newer.capacity capacity rehash.size
            if rehash.newer.isAllocated then
              let (rehash, started) := rehash.start fresh
              let ⟨_, map, store, advanced⟩ ← advance ⟨rehash, config⟩ store
              pure ⟨.ok (), map, store, drained ++ resized :: (started ++ advanced)⟩
            else
              pure ⟨.ok (), ⟨{ rehash with newer := fresh }, config⟩, store, drained ++ [resized]⟩

/-- Every payload goes into a fresh table at once, those of the older table first. -/
def resizeAtOnce {Store Id Content : Type} [Arena Store Id Content] (map : Map Id)
    (store : Store) (allocator : Allocator) (target : Nat) :
    Except (Fault Id) (Outcome (Map Id) Store (Except MapError Unit)) :=
  match map.resizeGoal target with
  | .error error => pure ⟨.error error, map, store, []⟩
  | .ok capacity =>
      if map.capacity = capacity ∧ ¬ map.isRehashing then
        pure ⟨.ok (), map, store, []⟩
      else
        match Table.allocate allocator capacity with
        | .error error => pure ⟨.error error, map, store, []⟩
        | .ok fresh => do
            let resized := Event.immediateResize map.capacity capacity map.size
            let ⟨rehash, config⟩ := map
            let (older, rehash) := rehash.abandon
            let (_, fresh, store) ← older.transfer fresh store
            let (_, fresh, store) ← rehash.newer.transfer fresh store
            pure ⟨.ok (), ⟨Rehash.idle fresh, config⟩, store, [resized]⟩

end IncrementalMap.Map
