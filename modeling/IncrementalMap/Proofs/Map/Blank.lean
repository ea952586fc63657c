/-
This file proves what constructors, reservations and clears leave.
-/

import IncrementalMap.Proofs.Map.Sound

namespace IncrementalMap

namespace Map

/-- A new map holds nothing. -/
theorem empty_holds {Store Id Content : Type} [Arena Store Id Content] {config : Config}
    (valid : config.validate = .ok ()) (store : Store) : (empty config).Holds store [] :=
  ⟨Layout.blank, Layout.blank, ⟨.idle (.unallocated store), .inl rfl, valid⟩, .refl _⟩

/-- Only valid settings make a map. -/
theorem ofConfig_eq_ok {Id : Type} {config : Config} {map : Map Id}
    (built : ofConfig config = .ok map) :
    config.validate = .ok () ∧ map = empty config := by
  unfold ofConfig at built
  cases checked : config.validate with
  | error error => simp [checked, bind, Except.bind] at built
  | ok _ =>
      simp only [checked, bind, Except.bind, pure, Except.pure, Except.ok.injEq] at built
      exact ⟨rfl, built.symm⟩

/-- A capacity reserves the first table of a new map. -/
theorem ofCapacity_eq_ok {Id : Type} {allocator : Allocator} {requested : Nat} {config : Config}
    {map : Map Id} (built : ofCapacity allocator requested config = .ok map) :
    ∃ bare events, ofConfig config = .ok bare ∧
      bare.reserve allocator requested = .ok (map, events) := by
  unfold ofCapacity at built
  cases made : (ofConfig config : Except MapError (Map Id)) with
  | error error => simp [made, bind, Except.bind] at built
  | ok bare =>
      cases reserved : bare.reserve allocator requested with
      | error error => simp [made, reserved, bind, Except.bind] at built
      | ok after =>
          simp only [made, reserved, bind, Except.bind, pure, Except.pure, Except.ok.injEq] at built
          exact ⟨bare, after.2, rfl, built ▸ reserved⟩

namespace Holds

/-- A clear leaves a map that holds nothing. -/
theorem clear {Store Id Content : Type} [Arena Store Id Content] {map : Map Id} {store : Store}
    {listed : List Id} (holds : map.Holds store listed) : map.clear.1.Holds store [] := by
  obtain ⟨newer, older, sound, _⟩ := holds
  exact empty_holds sound.valid store

/-- A reservation changes nothing but the capacity of a map without a table. -/
theorem reserve {Store Id Content : Type} [Arena Store Id Content] {map after : Map Id}
    {store : Store} {listed : List Id} (holds : map.Holds store listed) {allocator : Allocator}
    {requested : Nat} {events : List Event}
    (reserved : map.reserve allocator requested = .ok (after, events)) :
    after.Holds store listed ∧ after.config = map.config ∧
      (0 < map.rehash.newer.capacity ∧ after = map ∧ events = [] ∨
        map.rehash.newer.capacity = 0 ∧ ∃ capacity, capacityFor? requested = some capacity ∧
          events = [.reserved capacity] ∧ after.rehash.gauge = ⟨capacity, 0, 0, 0⟩) := by
  obtain ⟨newer, older, sound, same⟩ := holds
  unfold Map.reserve at reserved
  split at reserved <;> rename_i allocated
  · obtain ⟨rfl, rfl⟩ : map = after ∧ [] = events := by simpa using reserved
    exact ⟨⟨newer, older, sound, same⟩, rfl,
      .inl ⟨map.rehash.newer.isAllocated_iff.1 allocated, rfl, rfl⟩⟩
  · rw [map.rehash.newer.isAllocated_iff, Nat.pos_iff_ne_zero, not_not] at allocated
    cases made : (Table.allocate allocator requested : Except MapError (Table Id)) with
    | error error => simp [made, bind, Except.bind] at reserved
    | ok fresh =>
        obtain ⟨blank, rounded, positive, empty⟩ := Table.sound_of_allocate made store
        obtain ⟨tables, kept⟩ := sound.tables.allocate allocated blank
        obtain ⟨_, _, alone, _⟩ := sound.tables.unallocated allocated
        have resting := sound.settled.resting (map.rehash.isActive_eq_false_iff.2 alone)
        simp only [made, bind, Except.bind, pure, Except.pure, Except.ok.injEq, Prod.mk.injEq]
          at reserved
        obtain ⟨rfl, rfl⟩ := reserved
        have settled : Rehash.Settled { map.rehash with newer := fresh } := by
          left
          rw [resting]
          rfl
        have gauge : Rehash.gauge { map.rehash with newer := fresh } =
            ⟨fresh.capacity, 0, 0, 0⟩ := by
          rw [resting]
          simp only [Rehash.gauge, Rehash.idle, empty, Table.capacity_unallocated]
          rfl
        exact ⟨⟨newer, older, ⟨tables, settled, sound.valid⟩, kept ▸ same⟩, rfl,
          .inr ⟨allocated, _, rounded, rfl, gauge⟩⟩

end Holds

end Map

end IncrementalMap
