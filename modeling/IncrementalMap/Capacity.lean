/-
This file fixes the slot counts that a table may have.
-/

namespace IncrementalMap

/-- The largest number that a 64-bit word holds. -/
def wordLimit : Nat := UInt64.size - 1

/-- Saturation stops at the largest word. -/
def saturate (value : Nat) : Nat := min value wordLimit

theorem saturate_eq_self {value : Nat} (fits : value ≤ wordLimit) : saturate value = value :=
  Nat.min_eq_left fits

/-- A capacity is a word with a single bit, that is, a power of two. -/
def IsCapacity (slots : Nat) : Prop := ∃ place, place < 64 ∧ slots = 1 <<< place

instance (slots : Nat) : Decidable (IsCapacity slots) :=
  inferInstanceAs (Decidable (∃ place, place < 64 ∧ slots = 1 <<< place))

/-- This list holds every capacity in ascending order. -/
def capacities : List Nat := (List.range 64).map (1 <<< ·)

theorem mem_capacities {slots : Nat} : slots ∈ capacities ↔ IsCapacity slots := by
  simp [capacities, IsCapacity, eq_comm]

/-- A positive request is rounded up to the least capacity that covers it. -/
def capacityFor? (requested : Nat) : Option Nat :=
  if requested = 0 then none else capacities.find? (requested ≤ ·)

theorem isCapacity_of_capacityFor? {requested slots : Nat}
    (rounded : capacityFor? requested = some slots) : IsCapacity slots := by
  unfold capacityFor? at rounded
  split at rounded
  · contradiction
  · exact mem_capacities.1 (List.mem_of_find?_eq_some rounded)

theorem le_of_capacityFor? {requested slots : Nat}
    (rounded : capacityFor? requested = some slots) : requested ≤ slots := by
  unfold capacityFor? at rounded
  split at rounded
  · contradiction
  · simpa using List.find?_some rounded

/-- An allocator says which slot counts the memory can still provide. -/
abbrev Allocator := Nat → Bool

/-- A 64-bit address space has no room for 2^60 slots of eight bytes or more. -/
def Allocator.addressSpace : Allocator := fun slots => slots < 1 <<< 60

end IncrementalMap
