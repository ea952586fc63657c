/-
This file reads the chains of a table as lists.
-/

import IncrementalMap.Table.Basic

namespace IncrementalMap

/-- A chain relates its first payload to the ids that its successors visit. -/
inductive Chain {Store Id Content : Type} [Arena Store Id Content] (store : Store) :
    Option Id → List Id → Prop where
  | nil : Chain store none []
  | cons {id : Id} {node : Node Id Content} {rest : List Id}
      (found : Arena.node? store id = some node) (tail : Chain store node.link.next rest) :
      Chain store (some id) (id :: rest)

namespace Chain

/-- The first payload determines its chain. -/
theorem unique {Store Id Content : Type} [Arena Store Id Content] {store : Store}
    {head : Option Id} {first second : List Id}
    (left : Chain store head first) (right : Chain store head second) : first = second := by
  induction left generalizing second with
  | nil => cases right; rfl
  | cons found _ inductionHypothesis =>
      cases right with
      | cons other tail =>
          cases Option.some.inj (found.symm.trans other)
          rw [inductionHypothesis tail]

/-- Every id of a chain is in the arena. -/
theorem present {Store Id Content : Type} [Arena Store Id Content] {store : Store}
    {head : Option Id} {ids : List Id} (chain : Chain store head ids) :
    ∀ id ∈ ids, (Arena.node? store id).isSome := by
  induction chain with
  | nil => simp
  | cons found _ inductionHypothesis => simpa [found] using inductionHypothesis

/-- The walk lists a chain from its first payload. -/
def walk {Store Id Content : Type} [Arena Store Id Content] (store : Store) :
    Nat → Option Id → Except (Fault Id) (List Id)
  | _, none => pure []
  | 0, some _ => throw .endless
  | limit + 1, some id => do
      let node ← Arena.fetch store id
      let rest ← walk store limit node.link.next
      pure (id :: rest)

theorem walk_eq_ok {Store Id Content : Type} [Arena Store Id Content] {store : Store}
    {head : Option Id} {ids : List Id} (chain : Chain store head ids) {limit : Nat}
    (enough : ids.length ≤ limit) : walk store limit head = .ok ids := by
  induction chain generalizing limit with
  | nil => cases limit <;> rfl
  | cons found _ inductionHypothesis =>
      cases limit with
      | zero => simp at enough
      | succ limit =>
          simp only [List.length_cons, Nat.add_le_add_iff_right] at enough
          simp [walk, Arena.fetch_of_node? found, inductionHypothesis enough, bind, Except.bind,
            pure, Except.pure]

end Chain

/-- The chains are listed in slot order. -/
def Table.chains {Store Id Content : Type} [Arena Store Id Content] (table : Table Id)
    (store : Store) : Except (Fault Id) (List (List Id)) :=
  table.slots.toList.mapM (Chain.walk store (Arena.walkLimit store))

end IncrementalMap
