/-
This file proves that the two tables of a map stay consistent between all calls.
-/

import IncrementalMap.Arena.Indexed
import IncrementalMap.Proofs.Run.History

namespace IncrementalMap

/-- A consistent table has a mask that fits its slots, and chains without a cycle. Each payload of
a chain has a hash code that selects the slot, and all of them are counted. -/
structure Table.Consistent {Store Id Content : Type} [Arena Store Id Content] (table : Table Id)
    (store : Store) (layout : Layout Id) : Prop where
  shape : table.capacity = 0 ∧ table.count = 0 ∨
    (∃ place, table.capacity = 2 ^ place) ∧ table.mask.toNat = table.capacity - 1
  chains : ∀ slot, Chain store (table.head? slot) (layout slot)
  acyclic : ∀ slot, (layout slot).Nodup
  homes : ∀ slot, ∀ id ∈ layout slot, ∃ node, Arena.node? store id = some node ∧
    (node.link.hash &&& table.mask).toNat = slot
  counted : table.count = (layout.ids table.capacity).length

/-- The invariant of a map holds between two calls. The tables share no payload, an older table has
a newer one beside it and a payload left to move, and the slots that the cursor passed are empty. -/
structure Map.Invariant {Store Id Content : Type} [Arena Store Id Content] (map : Map Id)
    (store : Store) (newer older : Layout Id) : Prop where
  newerConsistent : map.rehash.newer.Consistent store newer
  olderConsistent : map.rehash.older.Consistent store older
  distinct : (newer.ids map.rehash.newer.capacity ++ older.ids map.rehash.older.capacity).Nodup
  together : map.rehash.older.isAllocated = true → map.rehash.newer.isAllocated = true
  lingering : map.rehash.older.isAllocated = true ↔ 0 < map.rehash.older.count
  cursor : map.isRehashing = true → map.rehash.cursor < map.rehash.older.capacity ∧
    ∀ slot, slot < map.rehash.cursor → map.rehash.older.head? slot = none

namespace Table.Sound

/-- A sound table is consistent. -/
theorem consistent {Store Id Content : Type} [Arena Store Id Content] {table : Table Id}
    {store : Store} {layout : Layout Id} (sound : table.Sound store layout) :
    table.Consistent store layout where
  shape := by
    rcases Nat.eq_zero_or_pos table.capacity with none | allocated
    · exact .inl ⟨none, sound.count_eq_zero none⟩
    · obtain ⟨place, _, slots⟩ := sound.shaped.isCapacity allocated
      exact .inr ⟨⟨place, by rw [slots, Nat.shiftLeft_eq, Nat.one_mul]⟩,
        sound.shaped.toNat_mask allocated⟩
  chains := sound.chains
  acyclic slot := (sound.chains slot).nodup
  homes slot id member := by
    obtain ⟨node, found⟩ :=
      Option.isSome_iff_exists.1 ((sound.chains slot).present id member)
    have home : (node.link.hash &&& table.mask).toNat = slot := by
      rw [← sound.homes slot id member, home_of_node? _ found, slotFor]
    exact ⟨node, found, home⟩
  counted := sound.counted

/-- The slot of an empty chain is empty. -/
theorem head?_of_nil {Store Id Content : Type} [Arena Store Id Content] {table : Table Id}
    {store : Store} {layout : Layout Id} (sound : table.Sound store layout) {slot : Nat}
    (empty : layout slot = []) : table.head? slot = none := by
  rw [(sound.chains slot).head_eq, empty, List.head?_nil]

end Table.Sound

namespace Map

/-- A sound map satisfies the invariant. -/
theorem Sound.invariant {Store Id Content : Type} [Arena Store Id Content] {map : Map Id}
    {store : Store} {newer older : Layout Id} (sound : map.Sound store newer older) :
    map.Invariant store newer older where
  newerConsistent := sound.tables.pair.soundDestination.consistent
  olderConsistent := sound.tables.pair.soundSource.consistent
  distinct := sound.tables.nodup
  together allocated := by
    rw [Table.isAllocated_iff] at allocated ⊢
    exact sound.tables.together allocated
  lingering := by
    rw [Table.isAllocated_iff]
    rcases sound.settled with idle | ⟨allocated, counted⟩
    · rw [idle, Rehash.older_idle]
      simp [Table.capacity, Table.unallocated]
    · exact ⟨fun _ => counted, fun _ => allocated⟩
  cursor active := by
    rcases sound.settled with idle | ⟨_, counted⟩
    · rw [isRehashing, idle, Rehash.isActive_idle] at active
      contradiction
    · exact ⟨sound.tables.cursor_lt (Nat.ne_of_gt counted), fun slot below =>
        sound.tables.pair.soundSource.head?_of_nil (sound.tables.cleared slot below)⟩

/-- A map that links a set satisfies the invariant. -/
theorem Links.invariant {Store Id Content : Type} [Arena Store Id Content] [DecidableEq Id]
    {map : Map Id} {store : Store} {linked : Finset Id} (links : map.Links store linked) :
    ∃ newer older, map.Invariant store newer older := by
  obtain ⟨_, ⟨newer, older, sound, _⟩, _⟩ := links
  exact ⟨newer, older, sound.invariant⟩

end Map

/-- The invariant holds after any run, and every further legal call returns and restores it. -/
theorem Run.keeps_invariant {Store Id Content Memory : Type} [Arena Store Id Content]
    [LawfulArena Store] [DecidableEq Id] {origin map : Map Id} {arena store : Store}
    {history : History Store Id Content Memory} (run : Run origin arena history map store) :
    (∃ newer older, map.Invariant store newer older) ∧
      ∀ edited, Arena.Careful history.linked store edited → Arena.FewerThan edited (2 ^ 63) →
        ∀ (call : Call Id Content Memory) (allocator : Allocator),
          call.Legal history.linked edited →
            ∃ outcome, call.perform allocator map edited = .ok outcome ∧
              ∃ newer older, outcome.state.Invariant outcome.store newer older := by
  obtain ⟨links, _⟩ := run.links
  constructor
  · exact links.invariant
  · intro edited careful small call allocator legal
    obtain ⟨outcome, returned, performed⟩ := (links.congr careful).perform small allocator legal
    exact ⟨outcome, returned, performed.links.invariant⟩

/-- The invariant holds in the middle of an episode. -/
theorem Run.keeps_invariant_midway :
    ∃ (history : History (IndexedArena Char) Nat Char Unit) (map : Map Nat)
      (store : IndexedArena Char),
      Run (Map.empty ⟨1, 1, 1⟩) #[⟨.detached 3, 'a'⟩, ⟨.detached 4, 'b'⟩] history map store ∧
        map.isRehashing = true ∧ ∃ newer older, map.Invariant store newer older := by
  have start : Run (Map.empty ⟨1, 1, 1⟩)
      (#[⟨.detached 3, 'a'⟩, ⟨.detached 4, 'b'⟩] : IndexedArena Char)
      ([] : History _ Nat Char Unit) _ _ :=
    .start (.ofConfig ⟨1, 1, 1⟩ rfl) (Arena.fewerThan_of_size (by decide))
  have first := start.next (.insert 0) .addressSpace ⟨rfl, by decide⟩ rfl
  have second := first.next (.insert 1) .addressSpace ⟨rfl, by decide⟩ rfl
  exact ⟨_, _, _, second, rfl, second.keeps_invariant.1⟩

end IncrementalMap
