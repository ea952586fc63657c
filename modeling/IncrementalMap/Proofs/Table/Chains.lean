/-
This file proves that a layout determines the chains of a table and the links of its payloads.
-/

import IncrementalMap.Proofs.Table.Search

namespace IncrementalMap

/-- Answers for all keys make one answer for their list. -/
theorem mapM_map_eq_ok {Failure Index First Second : Type} {indices : List Index}
    {key : Index → First} {answer : First → Except Failure Second} {value : Index → Second}
    (each : ∀ index ∈ indices, answer (key index) = .ok (value index)) :
    (indices.map key).mapM answer = .ok (indices.map value) := by
  induction indices with
  | nil => rfl
  | cons first rest inductionHypothesis =>
      have others := inductionHypothesis fun index member =>
        each index (List.mem_cons_of_mem _ member)
      rw [List.map_cons, List.mapM_cons, each first List.mem_cons_self, others]
      rfl

namespace Chain

/-- A chain starts with the first of its ids. -/
theorem head_eq {Store Id Content : Type} [Arena Store Id Content] {store : Store}
    {head : Option Id} {ids : List Id} (chain : Chain store head ids) : head = ids.head? := by
  cases chain with
  | nil => rfl
  | cons found tail => rfl

/-- The payloads of one chain have the same links in two stores that show it. -/
theorem link?_eq {Store Id Content : Type} [Arena Store Id Content] {first second : Store}
    {head other : Option Id} {ids : List Id} (left : Chain first head ids)
    (right : Chain second other ids) (same : Arena.SamePayloads first second) :
    ∀ id ∈ ids, Arena.link? first id = Arena.link? second id := by
  induction left generalizing other with
  | nil => simp
  | @cons id node rest found tail inductionHypothesis =>
      cases right with
      | @cons _ moved _ present tailSecond =>
          have hash : moved.link.hash = node.link.hash := by
            obtain ⟨kept, presentKept, hash, _⟩ := same.node found
            rwa [Option.some.inj (present.symm.trans presentKept)]
          have next : moved.link.next = node.link.next :=
            tailSecond.head_eq.trans tail.head_eq.symm
          rintro member (_ | ⟨_, later⟩)
          · rw [Arena.link?, Arena.link?, found, present, Option.map_some, Option.map_some]
            exact congrArg some (congrArg₂ Link.mk hash next).symm
          · exact inductionHypothesis tailSecond member later

end Chain

namespace Table

/-- A shaped table without slots is unallocated. -/
theorem Shaped.eq_unallocated {Id : Type} {table : Table Id} (shaped : table.Shaped)
    (none : table.capacity = 0) : table = Table.unallocated := by
  rcases shaped with bare | ⟨valid, _⟩
  · exact bare
  · exact absurd none (Nat.ne_of_gt valid.pos)

/-- Two shaped tables with as many slots select them by the same mask. -/
theorem Shaped.alike {Id : Type} {first second : Table Id} (left : first.Shaped)
    (right : second.Shaped) (same : second.capacity = first.capacity) : first.Alike second := by
  refine ⟨same, ?_⟩
  rcases Nat.eq_zero_or_pos first.capacity with none | allocated
  · rw [left.eq_unallocated none, right.eq_unallocated (same.trans none)]
  · rw [left.mask_eq allocated, right.mask_eq (same ▸ allocated), same]

/-- The slots of a table list the first payloads of its chains. -/
theorem slots_eq {Id : Type} (table : Table Id) :
    table.slots.toList = (List.range table.capacity).map table.head? := by
  apply List.ext_getElem
  · simp [capacity]
  · intro slot inRange _
    have bound : slot < table.slots.size := by simpa using inRange
    simp [head?, bound]

/-- A table lists its payloads in slot order, and then in chain order. -/
def Lists {Store Id Content : Type} [Arena Store Id Content] (table : Table Id) (store : Store)
    (ids : List Id) : Prop :=
  ∃ chains, table.chains store = .ok chains ∧ chains.flatten = ids

/-- There is only one list of the payloads of a table. -/
theorem Lists.unique {Store Id Content : Type} [Arena Store Id Content] {table : Table Id}
    {store : Store} {first second : List Id} (left : table.Lists store first)
    (right : table.Lists store second) : first = second := by
  obtain ⟨chains, walked, rfl⟩ := left
  obtain ⟨others, again, rfl⟩ := right
  rw [Except.ok.inj (walked.symm.trans again)]

/-- A table reaches a payload when it lists it. -/
def Reaches {Store Id Content : Type} [Arena Store Id Content] (table : Table Id)
    (store : Store) (id : Id) : Prop :=
  ∃ ids, table.Lists store ids ∧ id ∈ ids

instance {Store Id Content : Type} [Arena Store Id Content] [DecidableEq Id] (table : Table Id)
    (store : Store) (id : Id) : Decidable (table.Reaches store id) :=
  match walked : table.chains store with
  | .error _ => isFalse fun ⟨_, ⟨_, listed, _⟩, _⟩ => nomatch walked.symm.trans listed
  | .ok chains => decidable_of_iff (id ∈ chains.flatten)
      ⟨fun member => ⟨_, ⟨chains, walked, rfl⟩, member⟩, fun ⟨_, lists, member⟩ =>
        lists.unique ⟨chains, walked, rfl⟩ ▸ member⟩

namespace Sound

/-- The chains of a table show its layout, slot by slot. -/
theorem chains_eq {Store Id Content : Type} [Arena Store Id Content] [LawfulArena Store]
    {table : Table Id} {store : Store} {layout : Layout Id} (sound : table.Sound store layout) :
    table.chains store = .ok ((List.range table.capacity).map layout) := by
  rw [Table.chains, table.slots_eq]
  apply mapM_map_eq_ok
  intro slot _
  have chain := sound.chains slot
  exact chain.walk_eq_ok chain.length_le_walkLimit

/-- A sound table lists the ids of its layout. -/
theorem lists {Store Id Content : Type} [Arena Store Id Content] [LawfulArena Store]
    {table : Table Id} {store : Store} {layout : Layout Id} (sound : table.Sound store layout) :
    table.Lists store (layout.ids table.capacity) :=
  ⟨_, sound.chains_eq, List.flatMap_def.symm⟩

/-- A sound table reaches the ids of its layout. -/
theorem reaches_iff {Store Id Content : Type} [Arena Store Id Content] [LawfulArena Store]
    {table : Table Id} {store : Store} {layout : Layout Id} (sound : table.Sound store layout)
    {id : Id} : table.Reaches store id ↔ id ∈ layout.ids table.capacity :=
  ⟨fun ⟨_, lists, member⟩ => lists.unique sound.lists ▸ member,
    fun member => ⟨_, sound.lists, member⟩⟩

/-- A slot holds those payloads of the table that are at home there. -/
theorem mem_slot {Store Id Content : Type} [Arena Store Id Content] {table : Table Id}
    {store : Store} {layout : Layout Id} (sound : table.Sound store layout) {slot : Nat} {id : Id} :
    id ∈ layout slot ↔ id ∈ layout.ids table.capacity ∧ table.home store id = slot := by
  constructor
  · intro member
    exact ⟨sound.mem_ids_of_mem member, sound.homes slot id member⟩
  · rintro ⟨member, rfl⟩
    exact sound.mem_ids.1 member

/-- Tables with the same slots and the same payloads share them out in the same way. -/
theorem slot_perm {Store Id Content : Type} [Arena Store Id Content] {first second : Table Id}
    {before after : Store} {layout other : Layout Id} (left : first.Sound before layout)
    (right : second.Sound after other) (capacity : second.capacity = first.capacity)
    (same : Arena.SamePayloads before after)
    (ids : (layout.ids first.capacity).Perm (other.ids second.capacity)) (slot : Nat) :
    (layout slot).Perm (other slot) := by
  rw [List.perm_ext_iff_of_nodup (left.chains slot).nodup (right.chains slot).nodup]
  intro id
  rw [left.mem_slot, right.mem_slot, ids.mem_iff,
    (left.shaped.alike right.shaped capacity).home same]

end Sound

end Table

end IncrementalMap
