/-
This file proves which tables an allocation gives, and how tables of two capacities share out the
hash codes.
-/

import IncrementalMap.Proofs.Capacity

namespace IncrementalMap.Table

variable {Id : Type}

/-- A table suits a request when its slots are empty and number the least power of two that covers
the request. Its mask is one less, and each hash code selects the slot of its remainder. -/
structure Suits (table : Table Id) (requested : Nat) : Prop where
  least : IsLeast (covers requested) table.capacity
  lt_twice : table.capacity < 2 * requested
  vacant : ∀ head ∈ table.slots, head = none
  count : table.count = 0
  mask : table.mask.toNat = table.capacity - 1
  remainder : ∀ hash, table.slotFor hash = hash.toNat % table.capacity
  inRange : ∀ hash, table.slotFor hash < table.capacity

/-- A table merges the slots of a larger one when each of its slots takes the hash codes of the
slots with one remainder. Hash codes that meet in the larger table then meet in this one too. -/
structure Merges (table larger : Table Id) : Prop where
  remainder : ∀ hash, table.slotFor hash = larger.slotFor hash % table.capacity
  together : ∀ hash other, larger.slotFor hash = larger.slotFor other →
    table.slotFor hash = table.slotFor other

/-- A table that has just been allocated suits the request. -/
theorem suits_of_allocate {allocator : Allocator} {requested : Nat} {table : Table Id}
    (allocated : allocate allocator requested = .ok table) : table.Suits requested := by
  obtain ⟨capacity, rounded, _, rfl⟩ := allocate_eq_ok allocated
  have valid := isCapacity_of_capacityFor? rounded
  have least := isLeast_of_capacityFor? rounded
  have shaped : (blank capacity : Table Id).Shaped := .blank valid
  have positive : requested ≠ 0 := by
    rintro rfl
    contradiction
  have slots : 0 < (blank capacity : Table Id).capacity := by
    rw [capacity_blank]
    exact valid.pos
  constructor
  · rwa [capacity_blank]
  · rw [capacity_blank]
    exact lt_twice_of_isLeast least positive
  · intro head member
    exact Array.eq_of_mem_replicate member
  · rfl
  · exact shaped.toNat_mask slots
  · exact shaped.slotFor_eq_mod slots
  · exact shaped.slotFor_lt slots

/-- The smaller one of two capacities divides the larger one, so its table merges the slots of the
other. -/
theorem Suits.merges {table larger : Table Id} {requested other : Nat}
    (suits : table.Suits requested) (suitsLarger : larger.Suits other)
    (below : table.capacity ≤ larger.capacity) : table.Merges larger := by
  have divides : table.capacity ∣ larger.capacity :=
    dvd_of_isPowerOfTwo suits.least.1.1 suitsLarger.least.1.1 below
  have remainder (hash : UInt64) :
      table.slotFor hash = larger.slotFor hash % table.capacity := by
    rw [suits.remainder, suitsLarger.remainder, Nat.mod_mod_of_dvd _ divides]
  constructor
  · exact remainder
  · intro hash other same
    rw [remainder, remainder, same]

/-- An allocation refuses zero and the numbers above 2^63, and names the refused one. Any other
request is granted exactly when memory is, and then the table suits it and merges the slots of every
larger one. -/
theorem allocates_exactly (allocator : Allocator) (requested : Nat) :
    (∀ refused, (allocate allocator requested : Except MapError (Table Id)) =
        .error (.invalidCapacity refused) ↔
      refused = requested ∧ (requested = 0 ∨ 2 ^ 63 < requested)) ∧
    (0 < requested ∧ requested ≤ 2 ^ 63 → ∃ capacity, IsLeast (covers requested) capacity ∧
      (allocator capacity = true → ∃ table : Table Id, allocate allocator requested = .ok table) ∧
      (allocator capacity = false →
        (allocate allocator requested : Except MapError (Table Id)) = .error .allocationFailure)) ∧
    ∀ table : Table Id, allocate allocator requested = .ok table →
      table.Suits requested ∧
      ∀ (others : Allocator) (other : Nat) (larger : Table Id),
        allocate others other = .ok larger → table.capacity ≤ larger.capacity →
          table.Merges larger := by
  refine ⟨?_, ?_, ?_⟩
  · intro refused
    rw [← capacityFor?_eq_none_iff, allocate]
    rcases rounded : capacityFor? requested with _ | capacity
    · simp [eq_comm]
    · cases granted : allocator capacity <;> simp [granted]
  · rintro ⟨positive, fits⟩
    rcases rounded : capacityFor? requested with _ | capacity
    · have refused := capacityFor?_eq_none_iff.1 rounded
      omega
    · refine ⟨capacity, isLeast_of_capacityFor? rounded, ?_, ?_⟩
      · intro granted
        exact ⟨blank capacity, by simp [allocate, rounded, granted]⟩
      · intro refused
        simp [allocate, rounded, refused]
  · intro table allocated
    have suits := suits_of_allocate allocated
    refine ⟨suits, ?_⟩
    intro others other larger allocatedLarger below
    exact suits.merges (suits_of_allocate allocatedLarger) below

/-- Requests for five and for nine slots give tables of eight and of sixteen, and a hash code near
the end of the word finds its slot in both. -/
theorem allocates_exactly_five :
    ∃ table larger : Table Nat, allocate .addressSpace 5 = .ok table ∧
      allocate .addressSpace 9 = .ok larger ∧ table.Suits 5 ∧ table.Merges larger ∧
      table.capacity = 8 ∧ larger.capacity = 16 ∧ larger.slotFor 0xfffffffffffffffd = 13 ∧
      table.slotFor 0xfffffffffffffffd = 13 % 8 := by
  obtain ⟨_, _, succeeds⟩ := @allocates_exactly Nat .addressSpace 5
  obtain ⟨suits, merges⟩ := succeeds (blank 8) rfl
  have merged := merges .addressSpace 9 (blank 16) rfl (by decide)
  exact ⟨blank 8, blank 16, rfl, rfl, suits, merged, rfl, rfl, by decide, merged.remainder _⟩

end IncrementalMap.Table
