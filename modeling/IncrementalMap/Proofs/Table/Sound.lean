/-
This file relates a table to its layout and proves what one insertion or detachment does to it.
-/

import IncrementalMap.Proofs.Capacity
import IncrementalMap.Proofs.Rewiring
import IncrementalMap.Proofs.Table.Layout

namespace IncrementalMap

/-- The position behind a part of a chain is the slot itself when that part is empty. -/
def Position.following {Id : Type} (slot : Nat) (front : List Id) : Position Id :=
  match front.getLast? with
  | none => .head slot
  | some before => .after before

@[simp] theorem Position.following_nil {Id : Type} (slot : Nat) :
    (following slot [] : Position Id) = .head slot := rfl

@[simp] theorem Position.following_concat {Id : Type} (slot : Nat) (front : List Id)
    (before : Id) : following slot (front ++ [before]) = .after before := by
  simp [following]

namespace Table

/-- The home of a payload is the slot that its hash code selects. -/
def home {Store Id Content : Type} [Arena Store Id Content] (table : Table Id) (store : Store)
    (id : Id) : Nat :=
  match Arena.node? store id with
  | some node => table.slotFor node.link.hash
  | none => 0

/-- Two tables are alike when they have the same slot count and mask. -/
structure Alike {Id : Type} (first second : Table Id) : Prop where
  capacity : second.capacity = first.capacity
  mask : second.mask = first.mask

/-- A sound table has every payload of its layout in the right slot and counts them all. -/
structure Sound {Store Id Content : Type} [Arena Store Id Content] (table : Table Id)
    (store : Store) (layout : Layout Id) : Prop where
  shaped : table.Shaped
  chains : ∀ slot, Chain store (table.head? slot) (layout slot)
  homes : ∀ slot, ∀ id ∈ layout slot, table.home store id = slot
  counted : table.count = (layout.ids table.capacity).length

theorem Alike.refl {Id : Type} (table : Table Id) : table.Alike table := ⟨rfl, rfl⟩

theorem Alike.trans {Id : Type} {first second third : Table Id} (left : first.Alike second)
    (right : second.Alike third) : first.Alike third :=
  ⟨right.capacity.trans left.capacity, right.mask.trans left.mask⟩

theorem Alike.isAllocated {Id : Type} {first second : Table Id} (alike : first.Alike second) :
    second.isAllocated = first.isAllocated := by
  rw [Bool.eq_iff_iff, isAllocated_iff, isAllocated_iff, alike.capacity]

theorem Alike.slotFor {Id : Type} {first second : Table Id} (alike : first.Alike second)
    (hash : UInt64) : second.slotFor hash = first.slotFor hash := by
  rw [Table.slotFor, Table.slotFor, alike.mask]

theorem home_of_node? {Store Id Content : Type} [Arena Store Id Content] (table : Table Id)
    {store : Store} {id : Id} {node : Node Id Content}
    (found : Arena.node? store id = some node) :
    table.home store id = table.slotFor node.link.hash := by
  simp [home, found]

/-- Alike tables give a payload the same home in every store that holds it. -/
theorem Alike.home {Store Id Content : Type} [Arena Store Id Content] {first second : Table Id}
    (alike : first.Alike second) {before after : Store}
    (same : Arena.SamePayloads before after) (id : Id) :
    second.home after id = first.home before id := by
  cases found : Arena.node? before id with
  | none =>
      have absent := same.isSome id
      rw [found, Option.isSome_none, Option.isSome_eq_false_iff, Option.isNone_iff_eq_none] at absent
      simp [Table.home, found, absent]
  | some node =>
      obtain ⟨moved, present, hash, _⟩ := same.node found
      rw [home_of_node? _ found, home_of_node? _ present, alike.slotFor, hash]

theorem home_lt {Store Id Content : Type} [Arena Store Id Content] {table : Table Id}
    (shaped : table.Shaped) (allocated : 0 < table.capacity) (store : Store) (id : Id) :
    table.home store id < table.capacity := by
  unfold home
  split
  · exact shaped.slotFor_lt allocated _
  · exact allocated

theorem head?_eq_none {Id : Type} {table : Table Id} {slot : Nat}
    (outside : table.capacity ≤ slot) : table.head? slot = none := by
  rw [head?, Array.getElem?_eq_none outside, Option.join_none]

theorem head?_setIfInBounds {Id : Type} {table : Table Id} {slot : Nat}
    (inRange : slot < table.capacity) (next : Option Id) (mask : UInt64) (count other : Nat) :
    head? ⟨table.slots.setIfInBounds slot next, mask, count⟩ other =
      if other = slot then next else table.head? other := by
  have bound : slot < table.slots.size := inRange
  by_cases here : other = slot
  · subst here
    simp [head?, bound]
  · simp [head?, Array.getElem?_setIfInBounds_ne (Ne.symm here), here]

namespace Sound

theorem unallocated {Store Id Content : Type} [Arena Store Id Content] (store : Store) :
    (Table.unallocated : Table Id).Sound store Layout.blank where
  shaped := .unallocated
  chains slot := by
    rw [head?_unallocated]
    exact .nil
  homes slot id member := absurd member List.not_mem_nil
  counted := by simp [Table.unallocated]

theorem blank {Store Id Content : Type} [Arena Store Id Content] (store : Store)
    {capacity : Nat} (valid : IsCapacity capacity) :
    (Table.blank capacity : Table Id).Sound store Layout.blank where
  shaped := .blank valid
  chains slot := by
    rw [head?_blank]
    exact .nil
  homes slot id member := absurd member List.not_mem_nil
  counted := by simp [Table.blank]

/-- No chain starts outside the table. -/
theorem outside {Store Id Content : Type} [Arena Store Id Content] {table : Table Id}
    {store : Store} {layout : Layout Id} (sound : table.Sound store layout) {slot : Nat}
    (far : table.capacity ≤ slot) : layout slot = [] := by
  have chain := sound.chains slot
  rw [head?_eq_none far] at chain
  exact chain.unique .nil

/-- Only a slot of the table has a chain. -/
theorem lt_of_ne_nil {Store Id Content : Type} [Arena Store Id Content] {table : Table Id}
    {store : Store} {layout : Layout Id} (sound : table.Sound store layout) {slot : Nat}
    (holds : layout slot ≠ []) : slot < table.capacity := by
  apply Nat.lt_of_not_le
  intro far
  exact holds (sound.outside far)

/-- Only a slot of the table has payloads. -/
theorem lt_of_mem {Store Id Content : Type} [Arena Store Id Content] {table : Table Id}
    {store : Store} {layout : Layout Id} (sound : table.Sound store layout) {slot : Nat} {id : Id}
    (member : id ∈ layout slot) : slot < table.capacity :=
  sound.lt_of_ne_nil (List.ne_nil_of_mem member)

/-- A sound table without slots counts nothing. -/
theorem count_eq_zero {Store Id Content : Type} [Arena Store Id Content] {table : Table Id}
    {store : Store} {layout : Layout Id} (sound : table.Sound store layout)
    (none : table.capacity = 0) : table.count = 0 := by
  rw [sound.counted, none]
  rfl

theorem mem_ids {Store Id Content : Type} [Arena Store Id Content] {table : Table Id}
    {store : Store} {layout : Layout Id} (sound : table.Sound store layout) {id : Id} :
    id ∈ layout.ids table.capacity ↔ id ∈ layout (table.home store id) := by
  rw [Layout.mem_ids]
  constructor
  · rintro ⟨slot, _, member⟩
    rwa [sound.homes slot id member]
  · intro member
    exact ⟨_, sound.lt_of_mem member, member⟩

theorem mem_ids_of_mem {Store Id Content : Type} [Arena Store Id Content] {table : Table Id}
    {store : Store} {layout : Layout Id} (sound : table.Sound store layout) {slot : Nat} {id : Id}
    (member : id ∈ layout slot) : id ∈ layout.ids table.capacity := by
  rwa [sound.mem_ids, sound.homes slot id member]

theorem present {Store Id Content : Type} [Arena Store Id Content] {table : Table Id}
    {store : Store} {layout : Layout Id} (sound : table.Sound store layout) {id : Id}
    (member : id ∈ layout.ids table.capacity) : (Arena.node? store id).isSome :=
  (sound.chains _).present id (sound.mem_ids.1 member)

/-- No payload is listed twice, because its hash code allows one slot only. -/
theorem nodup {Store Id Content : Type} [Arena Store Id Content] {table : Table Id}
    {store : Store} {layout : Layout Id} (sound : table.Sound store layout) :
    (layout.ids table.capacity).Nodup := by
  apply List.nodup_flatMap.2
  constructor
  · intro slot _
    exact (sound.chains slot).nodup
  · apply List.nodup_range.pairwise_of_forall_ne
    intro slot _ other _ differ id left right
    exact differ ((sound.homes slot id left).symm.trans (sound.homes other id right))

/-- A sound table depends on the links of its own payloads only. -/
theorem congr {Store Id Content : Type} [Arena Store Id Content] {table : Table Id}
    {before after : Store} {layout : Layout Id} (sound : table.Sound before layout)
    (same : ∀ id ∈ layout.ids table.capacity, Arena.link? after id = Arena.link? before id) :
    table.Sound after layout where
  shaped := sound.shaped
  chains slot := (sound.chains slot).congr fun id member => same id (sound.mem_ids_of_mem member)
  homes slot id member := by
    have present := sound.present (sound.mem_ids_of_mem member)
    obtain ⟨node, found⟩ := Option.isSome_iff_exists.1 present
    obtain ⟨kept, foundAfter, link⟩ :=
      Arena.node_of_link? (same id (sound.mem_ids_of_mem member)) found
    rw [home_of_node? _ foundAfter, link, ← home_of_node? _ found, sound.homes slot id member]
  counted := sound.counted

/-- A rewiring of other payloads leaves a sound table as it is. -/
theorem rewire {Store Id Content : Type} [Arena Store Id Content] {table : Table Id}
    {before after : Store} {layout : Layout Id} (sound : table.Sound before layout)
    {touched : Set Id} (rewires : Arena.Rewires touched before after)
    (apart : ∀ id ∈ layout.ids table.capacity, id ∉ touched) : table.Sound after layout :=
  sound.congr fun id member => rewires.link? (apart id member)

end Sound

end Table

end IncrementalMap
