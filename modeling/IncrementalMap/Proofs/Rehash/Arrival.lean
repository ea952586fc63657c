/-
This file proves that new payloads and new tables keep a rehash sound.
-/

import IncrementalMap.Proofs.Rehash.Step

namespace IncrementalMap.Rehash.Sound

/-- A payload that is in neither table joins the newer one. -/
theorem insert {Store Id Content : Type} [Arena Store Id Content] [LawfulArena Store]
    {rehash : Rehash Id} {store : Store} {newer older : Layout Id}
    (sound : rehash.Sound store newer older) (allocated : 0 < rehash.newer.capacity) {id : Id}
    (present : (Arena.node? store id).isSome) (fresh : id ∉ rehash.ids newer older) :
    ∃ grown linked pushed, rehash.newer.insert store id = .ok (grown, linked) ∧
      Sound ⟨grown, rehash.older, rehash.cursor⟩ linked pushed older ∧
      (ids ⟨grown, rehash.older, rehash.cursor⟩ pushed older).Perm (id :: rehash.ids newer older) ∧
      rehash.newer.Alike grown ∧ grown.count = rehash.newer.count + 1 ∧
      Arena.Rewires {id} store linked := by
  have freshNewer : id ∉ newer.ids rehash.newer.capacity :=
    fun member => fresh (List.mem_append_left _ member)
  have freshOlder : id ∉ older.ids rehash.older.capacity :=
    fun member => fresh (List.mem_append_right _ member)
  obtain ⟨grown, linked, inserted, soundGrown, alike, rewires⟩ :=
    sound.pair.soundDestination.insert allocated present freshNewer
  have pushed := newer.ids_push
    (Table.home_lt sound.pair.soundDestination.shaped allocated store id) id
  have soundOlder := sound.pair.soundSource.rewire rewires fun other member same =>
    freshOlder (Set.mem_singleton_iff.1 same ▸ member)
  have apart : ∀ other ∈ older.ids rehash.older.capacity,
      other ∉ Layout.ids (newer.push (rehash.newer.home store id) id) grown.capacity := by
    intro other member
    rw [alike.capacity, pushed.mem_iff, List.mem_cons, not_or]
    constructor
    · rintro rfl
      exact freshOlder member
    · exact sound.pair.apart other member
  have together : 0 < rehash.older.capacity → 0 < grown.capacity := by
    rw [alike.capacity]
    exact sound.together
  have listed := pushed.append_right (older.ids rehash.older.capacity)
  rw [← alike.capacity] at listed
  have count : grown.count = rehash.newer.count + 1 := by
    rw [soundGrown.counted, alike.capacity, pushed.length_eq, List.length_cons,
      sound.pair.soundDestination.counted]
  exact ⟨grown, linked, _, inserted, ⟨⟨soundOlder, soundGrown, apart⟩, sound.cleared, together⟩,
    by simpa [ids, alike.capacity] using listed, alike, count, rewires⟩

/-- An episode starts on a blank table, and the former newer table becomes the older one. -/
theorem start {Store Id Content : Type} [Arena Store Id Content] {rehash : Rehash Id}
    {store : Store} {newer older : Layout Id} (sound : rehash.Sound store newer older)
    (inactive : rehash.isActive = false) {fresh : Table Id}
    (blank : fresh.Sound store Layout.blank) (allocated : 0 < fresh.capacity) :
    (rehash.start fresh).1.Sound store Layout.blank newer ∧
      (rehash.start fresh).1.ids Layout.blank newer = rehash.ids newer older := by
  have none := rehash.isActive_eq_false_iff.1 inactive
  have cleared : ∀ slot, slot < (rehash.start fresh).1.cursor → newer slot = [] := by
    intro slot below
    exact absurd below (Nat.not_lt_zero slot)
  constructor
  · exact ⟨⟨sound.pair.soundDestination, blank, by simp [Rehash.start]⟩, cleared,
      fun _ => allocated⟩
  · simp [ids, Rehash.start, none]

/-- An unallocated newer table has no payload, and no older table stands beside it. -/
theorem unallocated {Store Id Content : Type} [Arena Store Id Content] {rehash : Rehash Id}
    {store : Store} {newer older : Layout Id} (sound : rehash.Sound store newer older)
    (none : rehash.newer.capacity = 0) :
    newer = Layout.blank ∧ rehash.newer.count = 0 ∧ rehash.older.capacity = 0 ∧
      rehash.ids newer older = [] := by
  have alone : rehash.older.capacity = 0 := by
    have together := sound.together
    omega
  have empty : newer = Layout.blank := by
    funext slot
    exact sound.pair.soundDestination.outside (none ▸ Nat.zero_le slot)
  have count := sound.pair.soundDestination.count_eq_zero none
  exact ⟨empty, count, alone, by simp [ids, none, alone]⟩

/-- A blank table can take the place of an unallocated newer table. -/
theorem allocate {Store Id Content : Type} [Arena Store Id Content] {rehash : Rehash Id}
    {store : Store} {newer older : Layout Id} (sound : rehash.Sound store newer older)
    (none : rehash.newer.capacity = 0) {fresh : Table Id}
    (blank : fresh.Sound store Layout.blank) :
    Sound ⟨fresh, rehash.older, rehash.cursor⟩ store newer older ∧
      ids ⟨fresh, rehash.older, rehash.cursor⟩ newer older = rehash.ids newer older := by
  obtain ⟨rfl, _, alone, nothing⟩ := sound.unallocated none
  constructor
  · exact ⟨⟨sound.pair.soundSource, blank, by simp [alone]⟩, sound.cleared, by simp [alone]⟩
  · rw [nothing]
    simp [ids, alone]

end IncrementalMap.Rehash.Sound

namespace IncrementalMap.Table

/-- A table that has just been allocated is sound and blank. -/
theorem sound_of_allocate {Store Id Content : Type} [Arena Store Id Content]
    {allocator : Allocator} {requested : Nat} {fresh : Table Id}
    (allocated : allocate allocator requested = .ok fresh) (store : Store) :
    fresh.Sound store Layout.blank ∧ capacityFor? requested = some fresh.capacity ∧
      0 < fresh.capacity ∧ fresh.count = 0 := by
  obtain ⟨capacity, rounded, _, rfl⟩ := allocate_eq_ok allocated
  have valid := isCapacity_of_capacityFor? rounded
  exact ⟨.blank store valid, by simpa using rounded, by simpa using valid.pos, rfl⟩

end IncrementalMap.Table
