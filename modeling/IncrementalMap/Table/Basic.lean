/-
This file holds the table: an array of chains that run through the links of the payloads.
-/

import IncrementalMap.Arena.Basic
import IncrementalMap.Capacity

namespace IncrementalMap

/-- A position is the place that points at a payload: a slot, or the link of the payload before. -/
inductive Position (Id : Type) where
  | head (slot : Nat)
  | after (id : Id)
  deriving DecidableEq

/-- A table keeps the first payload of each chain, the mask that selects a slot, and a count. -/
structure Table (Id : Type) where
  slots : Array (Option Id)
  mask : UInt64
  count : Nat
  deriving DecidableEq

namespace Table

/-- An unallocated table has no slot. -/
def unallocated {Id : Type} : Table Id := ⟨#[], 0, 0⟩

/-- A blank table has only empty slots. -/
def blank {Id : Type} (capacity : Nat) : Table Id :=
  ⟨Array.replicate capacity none, UInt64.ofNat (capacity - 1), 0⟩

/-- The request is rounded up to a capacity, and the allocator must provide the slots. -/
def allocate {Id : Type} (allocator : Allocator) (requested : Nat) : Except MapError (Table Id) :=
  match capacityFor? requested with
  | none => .error (.invalidCapacity requested)
  | some capacity =>
      if allocator capacity then .ok (blank capacity) else .error .allocationFailure

/-- The capacity is the number of slots. -/
def capacity {Id : Type} (table : Table Id) : Nat := table.slots.size

/-- A table is allocated as soon as it has a slot. -/
def isAllocated {Id : Type} (table : Table Id) : Bool := !table.slots.isEmpty

/-- A table is empty when it counts no payload, allocated or not. -/
def isEmpty {Id : Type} (table : Table Id) : Bool := table.count == 0

/-- The mask keeps the low bits of a hash code. -/
def slotFor {Id : Type} (table : Table Id) (hash : UInt64) : Nat := (hash &&& table.mask).toNat

/-- This is the first payload of a slot, and there is none outside the table. -/
def head? {Id : Type} (table : Table Id) (slot : Nat) : Option Id := table.slots[slot]?.join

@[simp] theorem capacity_unallocated {Id : Type} : (unallocated : Table Id).capacity = 0 := rfl

@[simp] theorem capacity_blank {Id : Type} (capacity : Nat) :
    (blank capacity : Table Id).capacity = capacity := by
  simp [Table.capacity, blank]

@[simp] theorem head?_unallocated {Id : Type} (slot : Nat) :
    (unallocated : Table Id).head? slot = none := by
  simp [head?, unallocated]

@[simp] theorem head?_blank {Id : Type} (capacity slot : Nat) :
    (blank capacity : Table Id).head? slot = none := by
  simp only [head?, blank, Array.getElem?_replicate]
  split <;> rfl

/-- The payload becomes the first of its slot. -/
def insert {Store Id Content : Type} [Arena Store Id Content] (table : Table Id) (store : Store)
    (id : Id) : Except (Fault Id) (Table Id × Store) := do
  let node ← Arena.fetch store id
  let slot := table.slotFor node.link.hash
  if inRange : slot < table.slots.size then
    let store := Arena.relink store id table.slots[slot]
    pure ({ table with
      slots := table.slots.set slot (some id)
      count := table.count + 1 }, store)
  else
    throw (.slotOutOfRange slot)

/-- A position points at the first payload of its slot, or at the successor of its payload. -/
def target {Store Id Content : Type} [Arena Store Id Content] (table : Table Id) (store : Store) :
    Position Id → Except (Fault Id) (Option Id)
  | .head slot => pure (table.head? slot)
  | .after id => do
      let node ← Arena.fetch store id
      pure node.link.next

/-- The position points at another payload. -/
def redirect {Store Id Content : Type} [Arena Store Id Content] (table : Table Id) (store : Store)
    (position : Position Id) (next : Option Id) : Table Id × Store :=
  match position with
  | .head slot => ({ table with slots := table.slots.setIfInBounds slot next }, store)
  | .after id => (table, Arena.relink store id next)

/-- The payload that the position points at leaves its chain and loses its successor. -/
def detach {Store Id Content : Type} [Arena Store Id Content] (table : Table Id) (store : Store)
    (position : Position Id) : Except (Fault Id) (Option Id × Table Id × Store) := do
  match ← table.target store position with
  | none => pure (none, table, store)
  | some id =>
      let node ← Arena.fetch store id
      let (⟨slots, mask, count⟩, store) := table.redirect store position node.link.next
      match count with
      | 0 => throw .countUnderflow
      | count + 1 => pure (some id, ⟨slots, mask, count⟩, Arena.relink store id none)

end Table

end IncrementalMap
