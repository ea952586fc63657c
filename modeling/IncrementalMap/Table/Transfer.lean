/-
This file moves all payloads of one table into another.
-/

import IncrementalMap.Table.Basic

namespace IncrementalMap.Table

/-- Each payload of one slot goes to the front of its slot in the destination. -/
def transferSlot {Store Id Content : Type} [Arena Store Id Content] (slot : Nat) :
    Nat → Table Id → Table Id → Store → Except (Fault Id) (Table Id × Table Id × Store)
  | 0, _, _, _ => throw .endless
  | limit + 1, source, destination, store => do
      match ← source.detach store (.head slot) with
      | (none, source, store) => pure (source, destination, store)
      | (some id, source, store) =>
          let (destination, store) ← destination.insert store id
          transferSlot slot limit source destination store

/-- The slots are emptied in order, and each payload that leaves lowers the count of the source. -/
def transfer {Store Id Content : Type} [Arena Store Id Content] (source destination : Table Id)
    (store : Store) : Except (Fault Id) (Table Id × Table Id × Store) :=
  (List.range source.capacity).foldlM
    (fun (source, destination, store) slot =>
      transferSlot slot (source.count + 1) source destination store)
    (source, destination, store)

end IncrementalMap.Table
