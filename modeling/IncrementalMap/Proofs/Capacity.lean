/-
This file proves what rounding and masking do for a capacity.
-/

import IncrementalMap.Table.Basic
import Mathlib.Tactic

namespace IncrementalMap

theorem IsCapacity.pos {slots : Nat} (capacity : IsCapacity slots) : 0 < slots := by
  obtain ⟨place, _, rfl⟩ := capacity
  simp [Nat.shiftLeft_eq]

/-- The largest capacity is half of what a word can count. -/
theorem IsCapacity.le_half {slots : Nat} (capacity : IsCapacity slots) : slots ≤ 2 ^ 63 := by
  obtain ⟨place, inWord, rfl⟩ := capacity
  rw [Nat.shiftLeft_eq, Nat.one_mul]
  exact Nat.pow_le_pow_right (by decide) (by omega)

/-- Every capacity but the largest one can be doubled. -/
theorem IsCapacity.double {slots : Nat} (capacity : IsCapacity slots) (below : slots < 2 ^ 63) :
    IsCapacity (slots * 2) := by
  obtain ⟨place, inWord, rfl⟩ := capacity
  rw [Nat.shiftLeft_eq, Nat.one_mul] at below
  have smaller : place < 63 := (Nat.pow_lt_pow_iff_right (by decide)).1 below
  exact ⟨place + 1, by omega, by simp [Nat.shiftLeft_eq, Nat.pow_succ]⟩

theorem capacities_ascending : capacities.Pairwise (· < ·) := by decide

/-- No capacity below the rounded one covers the request. -/
theorem capacityFor?_le {requested slots other : Nat}
    (rounded : capacityFor? requested = some slots) (capacity : IsCapacity other)
    (covers : requested ≤ other) : slots ≤ other := by
  unfold capacityFor? at rounded
  split at rounded
  · contradiction
  obtain ⟨_, before, after, splits, small⟩ := List.find?_eq_some_iff_append.1 rounded
  have ascending := capacities_ascending
  have member := mem_capacities.2 capacity
  rw [splits, List.pairwise_append] at ascending
  rw [splits, List.mem_append, List.mem_cons] at member
  rcases member with early | rfl | late
  · have short := small other early
    simp only [Bool.not_eq_true', decide_eq_false_iff_not] at short
    exact absurd covers short
  · exact Nat.le_refl _
  · exact Nat.le_of_lt ((List.pairwise_cons.1 ascending.2.1).1 other late)

/-- A positive request that some capacity covers can be rounded. -/
theorem exists_capacityFor? {requested other : Nat} (positive : requested ≠ 0)
    (capacity : IsCapacity other) (covers : requested ≤ other) :
    ∃ slots, capacityFor? requested = some slots := by
  have found : (capacities.find? (requested ≤ ·)).isSome := by
    rw [List.find?_isSome]
    exact ⟨other, mem_capacities.2 capacity, by simpa using covers⟩
  simpa [capacityFor?, positive] using Option.isSome_iff_exists.1 found

/-- A capacity is its own rounding. -/
theorem IsCapacity.capacityFor? {slots : Nat} (capacity : IsCapacity slots) :
    capacityFor? slots = some slots := by
  obtain ⟨found, rounded⟩ :=
    exists_capacityFor? (Nat.ne_of_gt capacity.pos) capacity (Nat.le_refl slots)
  have upper := capacityFor?_le rounded capacity (Nat.le_refl slots)
  have lower := le_of_capacityFor? rounded
  rw [rounded, Nat.le_antisymm upper lower]

/-- The powers of two that cover a number of payloads. -/
def covers (size : Nat) : Set Nat := {slots | slots.isPowerOfTwo ∧ size ≤ slots}

/-- The logarithm of a number of payloads, rounded up, gives the least power of two that covers
it. -/
theorem isLeast_covers (size : Nat) : IsLeast (covers size) (2 ^ Nat.clog 2 size) := by
  refine ⟨⟨⟨_, rfl⟩, Nat.le_pow_clog (by decide) size⟩, ?_⟩
  rintro _ ⟨⟨place, rfl⟩, roomy⟩
  exact Nat.pow_le_pow_right (by decide) (Nat.clog_le_of_le_pow roomy)

/-- A capacity is a power of two. -/
theorem IsCapacity.isPowerOfTwo {slots : Nat} (valid : IsCapacity slots) :
    slots.isPowerOfTwo := by
  obtain ⟨place, _, rfl⟩ := valid
  exact ⟨place, Nat.one_shiftLeft place⟩

/-- The least power of two that covers less than 2^63 payloads is a capacity. -/
theorem isCapacity_of_isLeast {size floor : Nat} (least : IsLeast (covers size) floor)
    (few : size < 2 ^ 63) : IsCapacity floor := by
  obtain ⟨⟨⟨place, rfl⟩, _⟩, lower⟩ := least
  have small : 2 ^ place ≤ 2 ^ 63 := lower ⟨⟨63, rfl⟩, Nat.le_of_lt few⟩
  have within := (Nat.pow_le_pow_iff_right (by decide)).1 small
  exact ⟨place, by omega, (Nat.one_shiftLeft place).symm⟩

/-- The least power of two that covers a positive number is less than twice as large. -/
theorem lt_twice_of_isLeast {size floor : Nat} (least : IsLeast (covers size) floor)
    (positive : size ≠ 0) : floor < 2 * size := by
  obtain ⟨⟨⟨place, rfl⟩, _⟩, lower⟩ := least
  cases place with
  | zero => omega
  | succ place =>
      have short : 2 ^ place < size := by
        apply Nat.lt_of_not_le
        intro roomy
        have above := lower ⟨⟨place, rfl⟩, roomy⟩
        exact absurd above (Nat.not_le_of_lt (Nat.pow_lt_pow_succ (by decide)))
      rw [Nat.pow_succ]
      omega

/-- A request is rounded to the least power of two that covers it. -/
theorem isLeast_of_capacityFor? {requested slots : Nat}
    (rounded : capacityFor? requested = some slots) : IsLeast (covers requested) slots := by
  have valid := isCapacity_of_capacityFor? rounded
  refine ⟨⟨valid.isPowerOfTwo, le_of_capacityFor? rounded⟩, ?_⟩
  rintro _ ⟨⟨place, rfl⟩, roomy⟩
  rcases Nat.lt_or_ge place 64 with inWord | beyond
  · exact capacityFor?_le rounded ⟨place, inWord, (Nat.one_shiftLeft place).symm⟩ roomy
  · exact valid.le_half.trans (Nat.pow_le_pow_right (by decide) (by omega))

/-- Only zero and the numbers above the largest capacity cannot be rounded. -/
theorem capacityFor?_eq_none_iff {requested : Nat} :
    capacityFor? requested = none ↔ requested = 0 ∨ 2 ^ 63 < requested := by
  constructor
  · intro refused
    by_contra covered
    rw [not_or, Nat.not_lt] at covered
    have largest : IsCapacity (2 ^ 63) := ⟨63, by decide, rfl⟩
    obtain ⟨slots, rounded⟩ := exists_capacityFor? covered.1 largest covered.2
    rw [refused] at rounded
    contradiction
  · rintro (rfl | above)
    · rfl
    · rcases rounded : capacityFor? requested with _ | slots
      · rfl
      · have covers := le_of_capacityFor? rounded
        have half := (isCapacity_of_capacityFor? rounded).le_half
        omega

/-- The smaller one of two powers of two divides the larger one. -/
theorem dvd_of_isPowerOfTwo {smaller larger : Nat} (first : smaller.isPowerOfTwo)
    (second : larger.isPowerOfTwo) (below : smaller ≤ larger) : smaller ∣ larger := by
  obtain ⟨place, rfl⟩ := first
  obtain ⟨other, rfl⟩ := second
  exact (Nat.pow_dvd_pow_iff_pow_le_pow (by decide)).2 below

namespace Table

/-- A table is shaped when it is unallocated or its mask selects one of a capacity of slots. -/
def Shaped {Id : Type} (table : Table Id) : Prop :=
  table = unallocated ∨
    (IsCapacity table.capacity ∧ table.mask = UInt64.ofNat (table.capacity - 1))

theorem isAllocated_iff {Id : Type} (table : Table Id) :
    table.isAllocated = true ↔ 0 < table.capacity := by
  simp [isAllocated, capacity, Array.isEmpty, Nat.pos_iff_ne_zero]

theorem Shaped.unallocated {Id : Type} : (unallocated : Table Id).Shaped := Or.inl rfl

theorem Shaped.blank {Id : Type} {capacity : Nat} (valid : IsCapacity capacity) :
    (blank capacity : Table Id).Shaped :=
  Or.inr ⟨by simpa using valid, by simp [Table.blank, Table.capacity]⟩

/-- The slots of an allocated table number a capacity. -/
theorem Shaped.isCapacity {Id : Type} {table : Table Id} (shaped : table.Shaped)
    (allocated : 0 < table.capacity) : IsCapacity table.capacity := by
  rcases shaped with rfl | ⟨valid, _⟩
  · simp at allocated
  · exact valid

theorem Shaped.mask_eq {Id : Type} {table : Table Id} (shaped : table.Shaped)
    (allocated : 0 < table.capacity) : table.mask = UInt64.ofNat (table.capacity - 1) := by
  rcases shaped with rfl | ⟨_, mask⟩
  · simp at allocated
  · exact mask

/-- The mask of an allocated table is one less than its capacity. -/
theorem Shaped.toNat_mask {Id : Type} {table : Table Id} (shaped : table.Shaped)
    (allocated : 0 < table.capacity) : table.mask.toNat = table.capacity - 1 := by
  have bound := (shaped.isCapacity allocated).le_half
  rw [shaped.mask_eq allocated, UInt64.toNat_ofNat_of_lt']
  norm_num [UInt64.size]
  omega

/-- The mask sends every hash code to its remainder by the capacity of an allocated table. -/
theorem Shaped.slotFor_eq_mod {Id : Type} {table : Table Id} (shaped : table.Shaped)
    (allocated : 0 < table.capacity) (hash : UInt64) :
    table.slotFor hash = hash.toNat % table.capacity := by
  obtain ⟨place, power⟩ := (shaped.isCapacity allocated).isPowerOfTwo
  rw [slotFor, UInt64.toNat_and, shaped.toNat_mask allocated, power,
    Nat.and_two_pow_sub_one_eq_mod]

/-- The mask sends every hash code to a slot of an allocated table. -/
theorem Shaped.slotFor_lt {Id : Type} {table : Table Id} (shaped : table.Shaped)
    (allocated : 0 < table.capacity) (hash : UInt64) : table.slotFor hash < table.capacity := by
  rw [shaped.slotFor_eq_mod allocated]
  exact Nat.mod_lt _ allocated

/-- An allocation that succeeds gives a blank table of the rounded capacity. -/
theorem allocate_eq_ok {Id : Type} {allocator : Allocator} {requested : Nat} {table : Table Id}
    (allocated : allocate allocator requested = .ok table) :
    ∃ capacity, capacityFor? requested = some capacity ∧ allocator capacity = true ∧
      table = blank capacity := by
  unfold allocate at allocated
  split at allocated
  · contradiction
  · rename_i capacity rounded
    split at allocated
    · rename_i granted
      exact ⟨capacity, rounded, granted, (Except.ok.inj allocated).symm⟩
    · contradiction

end Table

end IncrementalMap
