/-
This file says what the map needs from the store that owns the payloads.
-/

import IncrementalMap.Error
import IncrementalMap.Link

namespace IncrementalMap

/-- An arena finds a node by its id, changes its successor, and bounds its own size. -/
class Arena (Store : Type) (Id Content : outParam Type) where
  node? : Store → Id → Option (Node Id Content)
  relink : Store → Id → Option Id → Store
  size : Store → Nat

namespace Arena

/-- The map stops at a payload that its arena no longer holds. -/
def fetch {Store Id Content : Type} [Arena Store Id Content] (store : Store) (id : Id) :
    Except (Fault Id) (Node Id Content) :=
  match node? store id with
  | some node => .ok node
  | none => .error (.missing id)

theorem fetch_of_node? {Store Id Content : Type} [Arena Store Id Content] {store : Store} {id : Id}
    {node : Node Id Content} (found : node? store id = some node) :
    fetch store id = .ok node := by
  simp [fetch, found]

theorem fetch_of_node?_eq_none {Store Id Content : Type} [Arena Store Id Content] {store : Store}
    {id : Id} (absent : node? store id = none) :
    fetch store id = .error (.missing id) := by
  simp [fetch, absent]

/-- A walk that takes more steps than this visits a payload twice. -/
def walkLimit {Store Id Content : Type} [Arena Store Id Content] (store : Store) : Nat :=
  size store + 1

end Arena

/-- Distinct numbers below a bound are no more than the bound. -/
theorem length_le_of_nodup_of_lt {bound : Nat} {numbers : List Nat} (distinct : numbers.Nodup)
    (below : ∀ number ∈ numbers, number < bound) : numbers.length ≤ bound := by
  induction bound generalizing numbers with
  | zero =>
      cases numbers with
      | nil => simp
      | cons number rest => exact absurd (below number (by simp)) (by omega)
  | succ bound inductionHypothesis =>
      have rest := inductionHypothesis (distinct.erase bound) fun number member => by
        have apart := distinct.mem_erase_iff.1 member
        have small := below number apart.2
        omega
      rw [List.length_erase] at rest
      split at rest <;> omega

/-- A lawful arena changes one successor at a time and never holds more payloads than its size. -/
class LawfulArena (Store : Type) {Id Content : outParam Type} [Arena Store Id Content] : Prop where
  node?_relink_self (store : Store) (id : Id) (next : Option Id) :
    Arena.node? (Arena.relink store id next) id =
      (Arena.node? store id).map (fun node => node.withNext next)
  node?_relink_other (store : Store) (id other : Id) (next : Option Id) (differ : other ≠ id) :
    Arena.node? (Arena.relink store id next) other = Arena.node? store other
  size_relink (store : Store) (id : Id) (next : Option Id) :
    Arena.size (Arena.relink store id next) = Arena.size store
  length_le_size (store : Store) (ids : List Id) (distinct : ids.Nodup)
    (present : ∀ id ∈ ids, (Arena.node? store id).isSome) : ids.length ≤ Arena.size store

end IncrementalMap
