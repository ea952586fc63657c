/-
This file visits every payload of a map once.
-/

import IncrementalMap.Map.Basic

namespace IncrementalMap

/-- A traversal has the payload to visit next, the slots that follow, and the visits still due. -/
structure Traversal (Id : Type) where
  current : Option Id
  slots : List (Option Id)
  remaining : Nat
  deriving DecidableEq

namespace Traversal

/-- The slots of the newer table come before those of the older one. -/
def start {Id : Type} (map : Map Id) : Traversal Id :=
  ⟨none, map.rehash.newer.slots.toList ++ map.rehash.older.slots.toList, map.size⟩

/-- Empty slots are passed over. -/
def settle {Id : Type} : Option Id → List (Option Id) → Option (Id × List (Option Id))
  | some id, slots => some (id, slots)
  | none, [] => none
  | none, slot :: slots => settle slot slots

/-- A visit gives a payload with its node and follows its successor. -/
def next {Store Id Content : Type} [Arena Store Id Content] (traversal : Traversal Id)
    (store : Store) : Except (Fault Id) (Option (Id × Node Id Content) × Traversal Id) := do
  match settle traversal.current traversal.slots with
  | none => pure (none, ⟨none, [], traversal.remaining⟩)
  | some (id, slots) =>
      let node ← Arena.fetch store id
      match traversal.remaining with
      | 0 => throw .countUnderflow
      | remaining + 1 => pure (some (id, node), ⟨node.link.next, slots, remaining⟩)

/-- The visits are collected until the traversal ends. -/
def collect {Store Id Content : Type} [Arena Store Id Content] (store : Store) :
    Nat → Traversal Id → Except (Fault Id) (List (Id × Node Id Content))
  | 0, _ => throw .endless
  | limit + 1, traversal => do
      match ← traversal.next store with
      | (none, _) => pure []
      | (some item, traversal) =>
          let items ← collect store limit traversal
          pure (item :: items)

/-- Each visit lowers the number still due, which bounds the visits of a traversal. -/
def toList {Store Id Content : Type} [Arena Store Id Content] (traversal : Traversal Id)
    (store : Store) : Except (Fault Id) (List (Id × Node Id Content)) :=
  collect store (traversal.remaining + 1) traversal

end Traversal

end IncrementalMap
