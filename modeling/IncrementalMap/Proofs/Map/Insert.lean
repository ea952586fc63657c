/-
This file proves that an insertion adds exactly one payload and lets a full table grow.
-/

import IncrementalMap.Proofs.Map.Sound

namespace IncrementalMap

namespace Gauge

/-- Growth is due when a table is full and no episode runs. -/
def Due (gauge : Gauge) (config : Config) : Prop :=
  gauge.olderCapacity = 0 ∧ config.fullAt gauge.capacity ≤ gauge.newer

/-- An arriving payload joins the newer table, which the first one brings along. -/
def arrive (gauge : Gauge) (capacity : Nat) : Gauge :=
  { gauge with capacity, newer := gauge.newer + 1 }

/-- Growth is not due, or starts an episode on twice the capacity, or is deferred by memory. -/
inductive Grows (config : Config) (gauge : Gauge) : List Event → Gauge → Prop where
  | early (early : ¬gauge.Due config) : Grows config gauge [] gauge
  | started (due : gauge.Due config) (capacity : Nat)
      (doubled : capacityFor? (saturate (gauge.capacity * 2)) = some capacity) :
      Grows config gauge [.migrationStarted gauge.capacity capacity gauge.newer]
        (gauge.start capacity)
  | deferred (due : gauge.Due config) (error : MapError) :
      Grows config gauge [.growthDeferred gauge.capacity gauge.newer error] gauge

end Gauge

namespace Map

/-- A growth keeps a rehash sound, whether it is early, started or deferred. -/
theorem growIfFull_sound {Store Id Content : Type} [Arena Store Id Content] {rehash : Rehash Id}
    {store : Store} {newer older : Layout Id} (sound : rehash.Sound store newer older)
    (allocated : 0 < rehash.newer.capacity)
    (resting : rehash.isActive = false → rehash = Rehash.idle rehash.newer)
    (config : Config) (allocator : Allocator) :
    ∃ grown events fresh former, growIfFull rehash config allocator = (grown, events) ∧
      grown.Sound store fresh former ∧ grown.ids fresh former = rehash.ids newer older ∧
      (grown.isActive = false → grown = Rehash.idle grown.newer) ∧
      rehash.gauge.Grows config events grown.gauge := by
  have dueIff : rehash.gauge.Due config ↔ rehash.isActive = false ∧
      config.fullAt rehash.newer.capacity ≤ rehash.newer.count := by
    rw [rehash.isActive_eq_false_iff]
    exact Iff.rfl
  by_cases due : rehash.gauge.Due config
  · obtain ⟨inactive, full⟩ := dueIff.1 due
    rcases made : (Table.allocate allocator (saturate (rehash.newer.capacity * 2)) :
        Except MapError (Table Id)) with
      error | fresh
    · have deferred : growIfFull rehash config allocator =
          (rehash, [.growthDeferred rehash.newer.capacity rehash.newer.count error]) := by
        simp [growIfFull, Rehash.grow, inactive, full, made]
      exact ⟨_, _, newer, older, deferred, sound, rfl, resting, .deferred due error⟩
    · obtain ⟨blank, doubled, positive, empty⟩ := Table.sound_of_allocate made store
      obtain ⟨started, same⟩ := sound.start inactive blank positive
      have gauge : (rehash.start fresh).1.gauge = rehash.gauge.start fresh.capacity := by
        simp only [Rehash.start, Rehash.gauge, Gauge.start, empty]
      have grows : growIfFull rehash config allocator = rehash.start fresh := by
        simp [growIfFull, Rehash.grow, inactive, full, made]
      have active : (rehash.start fresh).1.isActive = true := rehash.newer.isAllocated_iff.2 allocated
      have moves : rehash.gauge.Grows config (rehash.start fresh).2 (rehash.start fresh).1.gauge := by
        rw [gauge]
        exact .started due fresh.capacity doubled
      exact ⟨_, _, _, _, grows, started, same,
        fun idle => absurd (active.symm.trans idle) (by decide), moves⟩
  · have early : growIfFull rehash config allocator = (rehash, []) := by
      have notDue := due
      rw [dueIff, not_and] at notDue
      cases active : rehash.isActive with
      | true => simp [growIfFull, active]
      | false => simp [growIfFull, active, notDue active]
    exact ⟨rehash, [], newer, older, early, sound, rfl, resting, .early due⟩

/-- This is the capacity of the table that an insertion starts with, and zero if it has none. -/
def firstCapacity {Id : Type} (map : Map Id) (allocator : Allocator) : Nat :=
  match map.firstTable allocator with
  | .ok first => first.capacity
  | .error _ => 0

/-- The first table is the newer one, or a blank one of a valid capacity. -/
theorem firstTable_sound {Store Id Content : Type} [Arena Store Id Content] {map : Map Id}
    {store : Store} {newer older : Layout Id} (sound : map.Sound store newer older)
    {allocator : Allocator} {first : Table Id} (made : map.firstTable allocator = .ok first) :
    Rehash.Sound ⟨first, map.rehash.older, map.rehash.cursor⟩ store newer older ∧
      Rehash.ids ⟨first, map.rehash.older, map.rehash.cursor⟩ newer older =
        map.rehash.ids newer older ∧
      IsCapacity first.capacity ∧ first.count = map.rehash.newer.count ∧
      (0 < map.rehash.newer.capacity → first = map.rehash.newer) := by
  unfold firstTable at made
  split at made <;> rename_i allocated
  · obtain rfl : map.rehash.newer = first := by simpa using made
    have positive := map.rehash.newer.isAllocated_iff.1 allocated
    exact ⟨sound.tables, rfl, sound.tables.pair.soundDestination.shaped.isCapacity positive, rfl,
      fun _ => rfl⟩
  · rw [map.rehash.newer.isAllocated_iff] at allocated
    have none := Nat.eq_zero_of_not_pos allocated
    obtain ⟨blank, rounded, positive, empty⟩ := Table.sound_of_allocate made store
    obtain ⟨tables, same⟩ := sound.tables.allocate none blank
    obtain ⟨_, count, _, _⟩ := sound.tables.unallocated none
    exact ⟨tables, same, isCapacity_of_capacityFor? rounded, empty.trans count.symm,
      fun some => absurd some allocated⟩

/-- A refused first table ends an insertion before it has linked anything. -/
theorem insert_of_refused {Store Id Content : Type} [Arena Store Id Content] {map : Map Id}
    {allocator : Allocator} {error : MapError} (made : map.firstTable allocator = .error error)
    (store : Store) (id : Id) :
    map.insert store allocator id = .ok ⟨.error error, map, store, []⟩ := by
  rw [insert, made]
  rfl

/-- An insertion links the payload, grows a full table and advances. -/
theorem insert_of_linked {Store Id Content : Type} [Arena Store Id Content] {map after : Map Id}
    {store linked final : Store} {allocator : Allocator} {id : Id} {first joined : Table Id}
    {grown : Rehash Id} {moved : Nat} {events advanced : List Event}
    (made : map.firstTable allocator = .ok first)
    (inserted : first.insert store id = .ok (joined, linked))
    (grows : growIfFull ⟨joined, map.rehash.older, map.rehash.cursor⟩ map.config allocator =
      (grown, events))
    (answered : advance ⟨grown, map.config⟩ linked = .ok ⟨moved, after, final, advanced⟩) :
    map.insert store allocator id = .ok ⟨.ok (), after, final, events ++ advanced⟩ := by
  rw [insert, made]
  dsimp only
  rw [inserted, ok_bind]
  dsimp only
  rw [grows]
  dsimp only
  rw [answered]
  rfl

/-- The reply of an insertion follows from the first table. -/
theorem insert_result {Store Id Content : Type} [Arena Store Id Content] {map : Map Id}
    {store : Store} {allocator : Allocator} {id : Id}
    {outcome : Outcome (Map Id) Store (Except MapError Unit)}
    (answered : map.insert store allocator id = .ok outcome) :
    outcome.result = (map.firstTable allocator).map fun _ => () := by
  unfold insert at answered
  rcases made : map.firstTable allocator with error | first <;> rw [made] at answered
  · obtain rfl := Except.ok.inj answered
    rfl
  · obtain ⟨_, _, inserted⟩ := exists_of_bind_eq_ok answered
    obtain ⟨_, _, advanced⟩ := exists_of_bind_eq_ok inserted
    obtain rfl := Except.ok.inj advanced
    rfl

/-- A map admits a payload when it links it into the newer table, which the first payload makes it
allocate, and lets a full table grow. -/
def Admits {Store Id Content : Type} [Arena Store Id Content] (map : Map Id) (store : Store)
    (allocator : Allocator) (id : Id) (start : Map Id) (linked : Store) (grown : List Event) :
    Prop :=
  ∃ first joined, map.firstTable allocator = .ok first ∧
    first.insert store id = .ok (joined, linked) ∧
    growIfFull ⟨joined, map.rehash.older, map.rehash.cursor⟩ map.config allocator =
      (start.rehash, grown) ∧
    start.config = map.config

namespace Holds

/-- An insertion adds a fresh payload, and a refused first table leaves everything as it is. -/
theorem insert {Store Id Content : Type} [Arena Store Id Content] [LawfulArena Store]
    {map : Map Id} {store : Store} {listed : List Id} (holds : map.Holds store listed)
    (allocator : Allocator) {id : Id} (present : (Arena.node? store id).isSome)
    (fresh : id ∉ listed) :
    ∃ outcome, map.insert store allocator id = .ok outcome ∧
      ((∃ error, outcome = ⟨.error error, map, store, []⟩ ∧ map.rehash.newer.capacity = 0 ∧
          map.firstCapacity allocator = 0) ∨
        outcome.result = .ok () ∧ map.Leaves store (id :: listed) outcome ∧
          IsCapacity (map.firstCapacity allocator) ∧
          (0 < map.rehash.newer.capacity →
            map.firstCapacity allocator = map.rehash.newer.capacity) ∧
          ∃ start linked grown stepped, map.Admits store allocator id start linked grown ∧
            start.Carries linked stepped none [] outcome.state outcome.store ∧
            outcome.events = grown ++ stepped.events ∧
            (map.rehash.gauge.arrive (map.firstCapacity allocator)).Grows map.config grown
              start.rehash.gauge) := by
  obtain ⟨newer, older, sound, same⟩ := holds
  rcases made : map.firstTable allocator with error | first
  · have bare : map.rehash.newer.capacity = 0 := by
      by_contra allocated
      have positive := map.rehash.newer.isAllocated_iff.2 (Nat.pos_of_ne_zero allocated)
      simp [firstTable, positive] at made
    have none : map.firstCapacity allocator = 0 := by rw [firstCapacity, made]
    exact ⟨_, insert_of_refused made store id, .inl ⟨error, rfl, bare, none⟩⟩
  · obtain ⟨tables, listedFirst, valid, count, kept⟩ := firstTable_sound sound made
    have first_eq : map.firstCapacity allocator = first.capacity := by rw [firstCapacity, made]
    have absent : id ∉ Rehash.ids ⟨first, map.rehash.older, map.rehash.cursor⟩ newer older := by
      rw [listedFirst, same.mem_iff]
      exact fresh
    obtain ⟨joined, linked, pushed, inserted, soundJoined, listedJoined, alike, countJoined,
      rewires⟩ := tables.insert valid.pos present absent
    have resting : Rehash.isActive ⟨joined, map.rehash.older, map.rehash.cursor⟩ = false →
        (⟨joined, map.rehash.older, map.rehash.cursor⟩ : Rehash Id) = Rehash.idle joined := by
      intro inactive
      have alone := sound.settled.resting inactive
      rw [alone]
      rfl
    obtain ⟨grown, events, fresh, former, grows, soundGrown, listedGrown, restingGrown, gauge⟩ :=
      growIfFull_sound soundJoined (alike.capacity ▸ valid.pos) resting map.config allocator
    obtain ⟨moved, after, final, advanced, poured, drained, carries, soundAfter, listedAfter,
      payloads, _⟩ := advance_sound ⟨grown, map.config⟩ soundGrown restingGrown sound.valid
    have admitted : Rehash.gauge ⟨joined, map.rehash.older, map.rehash.cursor⟩ =
        map.rehash.gauge.arrive (map.firstCapacity allocator) := by
      ext
      · exact alike.capacity.trans first_eq.symm
      · exact countJoined.trans (congrArg Nat.succ count)
      · rfl
      · rfl
    rw [listedGrown] at listedAfter
    rw [listedFirst] at listedJoined
    have listedFinal := (listedAfter.trans listedJoined).trans (same.cons id)
    have admits : map.Admits store allocator id ⟨grown, map.config⟩ linked events :=
      ⟨first, joined, made, inserted, grows, rfl⟩
    exact ⟨_, insert_of_linked made inserted grows carries.step, .inr ⟨rfl,
      ⟨⟨poured, drained, soundAfter, listedFinal⟩, rfl, rewires.payloads.trans payloads⟩,
      first_eq ▸ valid, fun allocated => first_eq.trans (congrArg Table.capacity (kept allocated)),
      _, linked, events, _, admits, carries, rfl, admitted ▸ gauge⟩⟩

end Holds

end Map

end IncrementalMap
