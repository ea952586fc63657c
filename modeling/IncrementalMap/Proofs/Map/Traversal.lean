/-
This file proves that a traversal visits every payload of a map exactly once.
-/

import IncrementalMap.Map.Traversal
import IncrementalMap.Proofs.Map.Sound
import IncrementalMap.Proofs.Table.Chains

namespace IncrementalMap

namespace Chain

/-- The slots spread these payloads out, one chain after the other. -/
inductive Spread {Store Id Content : Type} [Arena Store Id Content] (store : Store) :
    List (Option Id) → List Id → Prop where
  | nil : Spread store [] []
  | cons {head : Option Id} {slots : List (Option Id)} {first rest : List Id}
      (chain : Chain store head first) (others : Spread store slots rest) :
      Spread store (head :: slots) (first ++ rest)

/-- An empty chain in front adds nothing. -/
theorem Spread.none {Store Id Content : Type} [Arena Store Id Content] {store : Store}
    {slots : List (Option Id)} {ids : List Id} (others : Spread store slots ids) :
    Spread store (none :: slots) ids := .cons .nil others

theorem Spread.append {Store Id Content : Type} [Arena Store Id Content] {store : Store}
    {left right : List (Option Id)} {first second : List Id} (before : Spread store left first)
    (after : Spread store right second) : Spread store (left ++ right) (first ++ second) := by
  induction before with
  | nil => exact after
  | cons chain _ inductionHypothesis =>
      rw [List.cons_append, List.append_assoc]
      exact .cons chain inductionHypothesis

/-- The slots of a sound table spread out its layout. -/
theorem spread_slots {Store Id Content : Type} [Arena Store Id Content] {table : Table Id}
    {store : Store} {layout : Layout Id} (sound : table.Sound store layout) :
    Spread store table.slots.toList (layout.ids table.capacity) := by
  rw [table.slots_eq, Layout.ids]
  induction List.range table.capacity with
  | nil => exact .nil
  | cons slot slots inductionHypothesis =>
      rw [List.map_cons, List.flatMap_cons]
      exact .cons (sound.chains slot) inductionHypothesis

end Chain

namespace Traversal

/-- A traversal has these payloads ahead, and counts them. -/
structure Ahead {Store Id Content : Type} [Arena Store Id Content] (traversal : Traversal Id)
    (store : Store) (ids : List Id) : Prop where
  spread : Chain.Spread store (traversal.current :: traversal.slots) ids
  remaining : traversal.remaining = ids.length

/-- Nothing is ahead once every slot has been passed. -/
theorem settle_nil {Store Id Content : Type} [Arena Store Id Content] {store : Store}
    {current : Option Id} {slots : List (Option Id)}
    (spread : Chain.Spread store (current :: slots) []) : settle current slots = none := by
  generalize listed : ([] : List Id) = ids at spread
  induction slots generalizing current with
  | nil =>
      cases spread with
      | cons chain others =>
          cases chain with
          | nil => rfl
          | cons found tail => simp at listed
  | cons slot slots inductionHypothesis =>
      cases spread with
      | cons chain others =>
          cases chain with
          | nil => exact inductionHypothesis others
          | cons found tail => simp at listed

/-- Passing over the empty slots reaches the first payload ahead. -/
theorem settle_cons {Store Id Content : Type} [Arena Store Id Content] {store : Store}
    {current : Option Id} {slots : List (Option Id)} {id : Id} {rest : List Id}
    (spread : Chain.Spread store (current :: slots) (id :: rest)) :
    ∃ node later, settle current slots = some (id, later) ∧
      Arena.node? store id = some node ∧ Chain.Spread store (node.link.next :: later) rest := by
  generalize listed : id :: rest = ids at spread
  induction slots generalizing current with
  | nil =>
      cases spread with
      | cons chain others =>
          cases chain with
          | nil => cases others; simp at listed
          | cons found tail =>
              rw [List.cons_append, List.cons_eq_cons] at listed
              obtain ⟨rfl, rfl⟩ := listed
              exact ⟨_, _, rfl, found, .cons tail others⟩
  | cons slot slots inductionHypothesis =>
      cases spread with
      | cons chain others =>
          cases chain with
          | nil => exact inductionHypothesis others
          | cons found tail =>
              rw [List.cons_append, List.cons_eq_cons] at listed
              obtain ⟨rfl, rfl⟩ := listed
              exact ⟨_, _, rfl, found, .cons tail others⟩

namespace Ahead

/-- A traversal starts with every payload of the map ahead. -/
theorem start {Store Id Content : Type} [Arena Store Id Content] {map : Map Id} {store : Store}
    {newer older : Layout Id} (sound : map.rehash.Sound store newer older) :
    (Traversal.start map).Ahead store (map.rehash.ids newer older) := by
  have slots := (Chain.spread_slots sound.pair.soundDestination).append
    (Chain.spread_slots sound.pair.soundSource)
  exact ⟨slots.none, sound.size_eq⟩

/-- A visit gives the first payload ahead and leaves the others ahead. -/
theorem next {Store Id Content : Type} [Arena Store Id Content] {traversal : Traversal Id}
    {store : Store} {id : Id} {rest : List Id} (ahead : traversal.Ahead store (id :: rest)) :
    ∃ node after, traversal.next store = .ok (some (id, node), after) ∧
      Arena.node? store id = some node ∧ after.Ahead store rest := by
  obtain ⟨node, later, settled, found, spread⟩ := settle_cons ahead.spread
  have visited : traversal.next store =
      .ok (some (id, node), ⟨node.link.next, later, rest.length⟩) := by
    simp [Traversal.next, settled, Arena.fetch_of_node? found, ahead.remaining, bind, Except.bind,
      pure, Except.pure]
  exact ⟨node, _, visited, found, spread, rfl⟩

/-- A traversal with nothing ahead has ended. -/
theorem ended {Store Id Content : Type} [Arena Store Id Content] {traversal : Traversal Id}
    {store : Store} (ahead : traversal.Ahead store []) :
    traversal.next store = .ok (none, ⟨none, [], 0⟩) := by
  simp [Traversal.next, settle_nil ahead.spread, ahead.remaining, pure, Except.pure]

/-- The visits give every payload ahead, in order and with its node. -/
theorem collect {Store Id Content : Type} [Arena Store Id Content] {traversal : Traversal Id}
    {store : Store} {ids : List Id} (ahead : traversal.Ahead store ids) {limit : Nat}
    (enough : ids.length < limit) :
    ∃ items, Traversal.collect store limit traversal = .ok items ∧ items.map Prod.fst = ids ∧
      ∀ item ∈ items, Arena.node? store item.1 = some item.2 := by
  induction ids generalizing traversal limit with
  | nil =>
      obtain ⟨limit, rfl⟩ := Nat.exists_eq_add_one.2 enough
      have finished : Traversal.collect store (limit + 1) traversal = .ok [] := by
        simp [Traversal.collect, ahead.ended, bind, Except.bind, pure, Except.pure]
      exact ⟨[], finished, rfl, by simp⟩
  | cons id rest inductionHypothesis =>
      obtain ⟨limit, rfl⟩ := Nat.exists_eq_add_one.2 (Nat.zero_lt_of_lt enough)
      obtain ⟨node, after, visited, found, onward⟩ := ahead.next
      obtain ⟨items, collected, listed, nodes⟩ :=
        inductionHypothesis onward (Nat.lt_of_succ_lt_succ enough)
      have continued : Traversal.collect store (limit + 1) traversal = .ok ((id, node) :: items) := by
        simp [Traversal.collect, visited, collected, bind, Except.bind, pure, Except.pure]
      exact ⟨(id, node) :: items, continued, by rw [List.map_cons, listed],
        by simpa [found] using nodes⟩

/-- A traversal lists what it has ahead. -/
theorem lists {Store Id Content : Type} [Arena Store Id Content] {traversal : Traversal Id}
    {store : Store} {ids : List Id} (ahead : traversal.Ahead store ids) :
    ∃ items, traversal.toList store = .ok items ∧ items.map Prod.fst = ids ∧
      ∀ item ∈ items, Arena.node? store item.1 = some item.2 :=
  ahead.collect (Nat.lt_succ_of_le (Nat.le_of_eq ahead.remaining.symm))

end Ahead

end Traversal

/-- A traversal of a map visits the payloads that the map holds, each once and with its node. -/
theorem Map.Holds.visit {Store Id Content : Type} [Arena Store Id Content] {map : Map Id}
    {store : Store} {listed : List Id} (holds : map.Holds store listed) :
    ∃ items, (Traversal.start map).toList store = .ok items ∧
      (items.map Prod.fst).Perm listed ∧
      ∀ item ∈ items, Arena.node? store item.1 = some item.2 := by
  obtain ⟨newer, older, sound, same⟩ := holds
  obtain ⟨items, collected, visited, nodes⟩ := (Traversal.Ahead.start sound.tables).lists
  exact ⟨items, collected, visited ▸ same, nodes⟩

end IncrementalMap
