/-
This file proves in which order a traversal visits the payloads of a map, and what it still counts.
-/

import IncrementalMap.Proofs.Run.Reachable

namespace IncrementalMap

/-- The nodes of listed payloads are the same when two stores agree on these payloads. -/
theorem Arena.items_eq {Store Id Content : Type} [Arena Store Id Content] {before after : Store}
    {first second : List (Id × Node Id Content)}
    (listed : first.map Prod.fst = second.map Prod.fst)
    (left : ∀ item ∈ first, node? before item.1 = some item.2)
    (right : ∀ item ∈ second, node? after item.1 = some item.2)
    (agree : ∀ item ∈ first, node? after item.1 = node? before item.1) : first = second := by
  induction first generalizing second with
  | nil => exact (List.map_eq_nil_iff.1 listed.symm).symm
  | cons item first inductionHypothesis =>
      cases second with
      | nil => exact nomatch listed
      | cons other second =>
          obtain ⟨id, listed⟩ := List.cons_eq_cons.1 listed
          simp only [List.forall_mem_cons] at left right agree
          have node : item.2 = other.2 := by
            apply Option.some.inj
            rw [← left.1, ← right.1, ← id, agree.1]
          rw [Prod.ext id node, inductionHypothesis listed left.2 right.2 agree.2]

namespace Traversal

/-- These are the answers of a number of visits in a row. -/
def visits {Store Id Content : Type} [Arena Store Id Content] (store : Store) :
    Nat → Traversal Id → Except (Fault Id) (List (Option (Id × Node Id Content)) × Traversal Id)
  | 0, traversal => pure ([], traversal)
  | number + 1, traversal => do
      let (answer, traversal) ← traversal.next store
      let (answers, traversal) ← visits store number traversal
      pure (answer :: answers, traversal)

/-- The first visit comes before the others. -/
theorem visits_succ {Store Id Content : Type} [Arena Store Id Content]
    {traversal next after : Traversal Id} {store : Store}
    {answer : Option (Id × Node Id Content)} {answers : List (Option (Id × Node Id Content))}
    {number : Nat} (first : traversal.next store = .ok (answer, next))
    (others : visits store number next = .ok (answers, after)) :
    visits store (number + 1) traversal = .ok (answer :: answers, after) := by
  rw [visits, first, ok_bind]
  dsimp only
  rw [others, ok_bind]
  rfl

namespace Ahead

/-- The items ahead are collected, wherever the traversal stands. -/
theorem toList {Store Id Content : Type} [Arena Store Id Content] {traversal : Traversal Id}
    {store : Store} {items : List (Id × Node Id Content)}
    (ahead : traversal.Ahead store (items.map Prod.fst))
    (nodes : ∀ item ∈ items, Arena.node? store item.1 = some item.2) :
    traversal.toList store = .ok items := by
  obtain ⟨others, collected, listed, found⟩ := ahead.lists
  rw [collected, Arena.items_eq listed found nodes fun _ _ => rfl]

/-- Visits in a row give the items ahead one by one, then nothing, and leave the others ahead. -/
theorem visits {Store Id Content : Type} [Arena Store Id Content] {traversal : Traversal Id}
    {store : Store} {items : List (Id × Node Id Content)}
    (ahead : traversal.Ahead store (items.map Prod.fst))
    (nodes : ∀ item ∈ items, Arena.node? store item.1 = some item.2) (number : Nat) :
    ∃ after, Traversal.visits store number traversal =
        .ok ((items.take number).map some ++ List.replicate (number - items.length) none, after) ∧
      after.Ahead store ((items.drop number).map Prod.fst) := by
  induction number generalizing traversal items with
  | zero => exact ⟨traversal, by simp [Traversal.visits, pure, Except.pure], ahead⟩
  | succ number inductionHypothesis =>
      cases items with
      | nil =>
          have still : Ahead ⟨none, [], 0⟩ store ([].map (Prod.fst : Id × Node Id Content → Id)) :=
            ⟨.none .nil, rfl⟩
          obtain ⟨after, others, onward⟩ := inductionHypothesis still nodes
          simp only [List.take_nil, List.drop_nil, List.map_nil, List.nil_append, List.length_nil,
            Nat.sub_zero] at others onward ⊢
          exact ⟨after, visits_succ ahead.ended others, onward⟩
      | cons item items =>
          obtain ⟨node, next, visited, found, onward⟩ := ahead.next
          simp only [List.forall_mem_cons] at nodes
          obtain rfl : node = item.2 := Option.some.inj (found.symm.trans nodes.1)
          obtain ⟨after, others, left⟩ := inductionHypothesis onward nodes.2
          refine ⟨after, ?_, left⟩
          rw [visits_succ visited others, List.length_cons, Nat.add_sub_add_right]
          rfl

end Ahead

/-- A traversal offers a list of items when visits in a row give them one by one and then nothing,
and when it counts, and could collect, exactly those that are still to come. -/
def Offers {Store Id Content : Type} [Arena Store Id Content] (traversal : Traversal Id)
    (store : Store) (items : List (Id × Node Id Content)) : Prop :=
  ∀ number, ∃ after, visits store number traversal =
      .ok ((items.take number).map some ++ List.replicate (number - items.length) none, after) ∧
    after.remaining = (items.drop number).length ∧ after.toList store = .ok (items.drop number)

/-- A traversal offers what it has ahead. -/
theorem Ahead.offers {Store Id Content : Type} [Arena Store Id Content] {traversal : Traversal Id}
    {store : Store} {items : List (Id × Node Id Content)}
    (ahead : traversal.Ahead store (items.map Prod.fst))
    (nodes : ∀ item ∈ items, Arena.node? store item.1 = some item.2) :
    traversal.Offers store items := by
  intro number
  obtain ⟨after, visited, onward⟩ := ahead.visits nodes number
  refine ⟨after, visited, by rw [onward.remaining, List.length_map], onward.toList ?_⟩
  intro item member
  exact nodes item (List.mem_of_mem_drop member)

end Traversal

namespace Map

/-- A traversal lists a map when it gives the payloads of the newer table, slot by slot and in chain
order, then those of the older one in the same way, and no others. It always counts the payloads
that the map holds beyond those it has given. -/
structure Lists {Store Id Content : Type} [Arena Store Id Content] [DecidableEq Id] (map : Map Id)
    (store : Store) (linked : Finset Id) (items : List (Id × Node Id Content)) : Prop where
  order : ∃ newer older, map.rehash.newer.chains store = .ok newer ∧
    map.rehash.older.chains store = .ok older ∧
    items.map Prod.fst = newer.flatten ++ older.flatten
  visits : Call.Visits linked store items
  collected : (Traversal.start map).toList store = .ok items
  offers : (Traversal.start map).Offers store items
  counts : ∀ number answers after,
    Traversal.visits store number (Traversal.start map) = .ok (answers, after) →
      after.remaining = map.size - number

/-- In every reachable state a traversal lists the map. -/
theorem Reachable.traverses {Store Id Content : Type} [Arena Store Id Content] [LawfulArena Store]
    [DecidableEq Id] {map : Map Id} {store : Store} {linked : Finset Id}
    (reachable : map.Reachable store linked) : ∃ items, map.Lists store linked items := by
  obtain ⟨listed, ⟨newer, older, sound, same⟩, rfl⟩ := reachable.links
  have ahead := Traversal.Ahead.start sound.tables
  obtain ⟨items, collected, ids, nodes⟩ := ahead.lists
  have offers : (Traversal.start map).Offers store items := (ids.symm ▸ ahead).offers nodes
  refine ⟨items, ⟨_, _, sound.tables.pair.soundDestination.chains_eq,
    sound.tables.pair.soundSource.chains_eq, ?_⟩, ⟨?_, ?_, nodes⟩, collected, offers, ?_⟩
  · rw [ids, Rehash.ids, Layout.ids, Layout.ids, List.flatMap_def, List.flatMap_def]
  · rw [ids]
    exact sound.tables.nodup
  · rw [ids]
    exact List.toFinset_eq_of_perm _ _ same
  · intro number answers after visited
    obtain ⟨other, same, counted, _⟩ := offers number
    obtain ⟨_, rfl⟩ := Prod.mk.inj (Except.ok.inj (same.symm.trans visited))
    have size : map.size = items.length := by
      rw [Map.size, sound.tables.size_eq, ← ids, List.length_map]
    rw [counted, List.length_drop, size]

/-- Four visits of a map in the middle of an episode give its three payloads and then nothing. -/
theorem Reachable.traverses_midway :
    ∃ (map : Map Nat) (items : List (Nat × Node Nat Char)) (after : Traversal Nat),
      map.Reachable IndexedArena.three {2, 1, 0} ∧ map.isRehashing = true ∧
        map.Lists IndexedArena.three {2, 1, 0} items ∧ items.map Prod.fst = [1, 2, 0] ∧
        Traversal.visits IndexedArena.three 4 (Traversal.start map) =
          .ok (items.map some ++ [none], after) ∧ after.remaining = 0 := by
  obtain ⟨items, lists⟩ := Reachable.three_resized.traverses
  obtain ⟨newer, older, first, second, order⟩ := lists.order
  obtain rfl : [[], [], [], [], [1], [], [], []] = newer := Except.ok.inj first
  obtain rfl : [[], [2], [], [0]] = older := Except.ok.inj second
  have three : items.length = 3 := by simpa using congrArg List.length order
  obtain ⟨after, visited, counted, _⟩ := lists.offers 4
  rw [List.take_of_length_le (by omega), three] at visited
  rw [List.drop_of_length_le (by omega)] at counted
  exact ⟨_, items, after, .three_resized, rfl, lists, order, visited, counted⟩

end Map

end IncrementalMap
