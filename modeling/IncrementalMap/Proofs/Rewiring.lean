/-
This file says how far two stores agree when only successors have changed.
-/

import IncrementalMap.Table.Chain
import Mathlib.Tactic

namespace IncrementalMap

namespace Arena

/-- Two stores hold the same payloads when their nodes differ in successors only. -/
def SamePayloads {Store Id Content : Type} [Arena Store Id Content] (before after : Store) : Prop :=
  ∀ id, (node? after id).map (fun node => node.withNext none) =
    (node? before id).map (fun node => node.withNext none)

/-- A rewiring changes the successors of the touched payloads and nothing else. -/
structure Rewires {Store Id Content : Type} [Arena Store Id Content] (touched : Set Id)
    (before after : Store) : Prop where
  payloads : SamePayloads before after
  others : ∀ id, id ∉ touched → node? after id = node? before id

/-- A store is smaller than a bound when it has no room for that many distinct payloads. -/
def FewerThan {Store Id Content : Type} [Arena Store Id Content] (store : Store)
    (bound : Nat) : Prop :=
  ∀ ids : List Id, ids.Nodup → (∀ id ∈ ids, (node? store id).isSome) → ids.length < bound

/-- The size of a lawful arena bounds its payloads. -/
theorem fewerThan_of_size {Store Id Content : Type} [Arena Store Id Content] [LawfulArena Store]
    {store : Store} {bound : Nat} (small : size store < bound) : FewerThan store bound :=
  fun ids distinct present =>
    Nat.lt_of_le_of_lt (LawfulArena.length_le_size store ids distinct present) small

/-- This is the link of a payload that the store holds. -/
def link? {Store Id Content : Type} [Arena Store Id Content] (store : Store) (id : Id) :
    Option (Link Id) :=
  (node? store id).map Node.link

theorem node_of_link? {Store Id Content : Type} [Arena Store Id Content] {before after : Store}
    {id : Id} (same : link? after id = link? before id) {node : Node Id Content}
    (found : node? before id = some node) :
    ∃ kept, node? after id = some kept ∧ kept.link = node.link := by
  rw [link?, link?, found, Option.map_some, Option.map_eq_some_iff] at same
  exact same

namespace SamePayloads

theorem refl {Store Id Content : Type} [Arena Store Id Content] (store : Store) :
    SamePayloads store store := fun _ => rfl

theorem symm {Store Id Content : Type} [Arena Store Id Content] {before after : Store}
    (same : SamePayloads before after) : SamePayloads after before := fun id => (same id).symm

theorem trans {Store Id Content : Type} [Arena Store Id Content] {first second third : Store}
    (left : SamePayloads first second) (right : SamePayloads second third) :
    SamePayloads first third := fun id => (right id).trans (left id)

/-- A payload is found again with its hash code and content. -/
theorem node {Store Id Content : Type} [Arena Store Id Content] {before after : Store}
    (same : SamePayloads before after) {id : Id} {node : Node Id Content}
    (found : node? before id = some node) :
    ∃ moved, node? after id = some moved ∧ moved.link.hash = node.link.hash ∧
      moved.content = node.content := by
  have equal := same id
  rw [found, Option.map_some, Option.map_eq_some_iff] at equal
  obtain ⟨moved, present, cleared⟩ := equal
  have hash : moved.link.hash = node.link.hash := by
    simpa using congrArg (fun node => node.link.hash) cleared
  have content : moved.content = node.content := by
    simpa using congrArg Node.content cleared
  exact ⟨moved, present, hash, content⟩

theorem isSome {Store Id Content : Type} [Arena Store Id Content] {before after : Store}
    (same : SamePayloads before after) (id : Id) :
    (node? after id).isSome = (node? before id).isSome := by
  simpa using congrArg Option.isSome (same id)

theorem fewerThan {Store Id Content : Type} [Arena Store Id Content] {before after : Store}
    (same : SamePayloads before after) {bound : Nat} (small : FewerThan before bound) :
    FewerThan after bound := fun ids distinct present =>
  small ids distinct fun id member => by simpa [same.isSome id] using present id member

end SamePayloads

namespace Rewires

theorem link? {Store Id Content : Type} [Arena Store Id Content] {touched : Set Id}
    {before after : Store} (rewires : Rewires touched before after) {id : Id} (apart : id ∉ touched) :
    Arena.link? after id = Arena.link? before id :=
  congrArg (Option.map Node.link) (rewires.others id apart)

theorem refl {Store Id Content : Type} [Arena Store Id Content] (touched : Set Id)
    (store : Store) : Rewires touched store store := ⟨.refl store, fun _ _ => rfl⟩

theorem mono {Store Id Content : Type} [Arena Store Id Content] {small large : Set Id}
    {before after : Store} (rewires : Rewires small before after) (within : small ⊆ large) :
    Rewires large before after :=
  ⟨rewires.payloads, fun id outside => rewires.others id fun member => outside (within member)⟩

theorem trans {Store Id Content : Type} [Arena Store Id Content] {touched : Set Id}
    {first second third : Store} (left : Rewires touched first second)
    (right : Rewires touched second third) : Rewires touched first third :=
  ⟨left.payloads.trans right.payloads,
    fun id outside => (right.others id outside).trans (left.others id outside)⟩

/-- One new successor rewires one payload. -/
theorem relink {Store Id Content : Type} [Arena Store Id Content] [LawfulArena Store]
    (store : Store) (id : Id) (next : Option Id) :
    Rewires {id} store (Arena.relink store id next) where
  payloads other := by
    by_cases same : other = id
    · subst same
      rw [LawfulArena.node?_relink_self, Option.map_map]
      rfl
    · rw [LawfulArena.node?_relink_other store id other next same]
  others other outside := LawfulArena.node?_relink_other store id other next outside

end Rewires

end Arena

namespace Chain

/-- A chain depends on the links of its own payloads only. -/
theorem congr {Store Id Content : Type} [Arena Store Id Content] {before after : Store}
    {head : Option Id} {ids : List Id} (chain : Chain before head ids)
    (same : ∀ id ∈ ids, Arena.link? after id = Arena.link? before id) : Chain after head ids := by
  induction chain with
  | nil => exact .nil
  | cons found _ inductionHypothesis =>
      obtain ⟨node, present, link⟩ := Arena.node_of_link? (same _ (by simp)) found
      apply Chain.cons present
      rw [link]
      apply inductionHypothesis
      intro id member
      exact same id (List.mem_cons_of_mem _ member)

/-- A rewiring keeps every chain that it does not touch. -/
theorem rewire {Store Id Content : Type} [Arena Store Id Content] {before after : Store}
    {touched : Set Id} {head : Option Id} {ids : List Id} (chain : Chain before head ids)
    (rewires : Arena.Rewires touched before after) (apart : ∀ id ∈ ids, id ∉ touched) :
    Chain after head ids :=
  chain.congr fun id member => rewires.link? (apart id member)

/-- The rest of a chain is a chain from any of its payloads on. -/
theorem suffix {Store Id Content : Type} [Arena Store Id Content] {store : Store}
    {head : Option Id} {front rest : List Id} {id : Id}
    (chain : Chain store head (front ++ id :: rest)) : Chain store (some id) (id :: rest) := by
  induction front generalizing head with
  | nil =>
      cases chain with
      | cons found tail => exact .cons found tail
  | cons _ _ inductionHypothesis =>
      cases chain with
      | cons _ tail => exact inductionHypothesis tail

/-- A chain that met a payload twice would have no end. -/
theorem nodup {Store Id Content : Type} [Arena Store Id Content] {store : Store}
    {head : Option Id} {ids : List Id} (chain : Chain store head ids) : ids.Nodup := by
  induction chain with
  | nil => exact List.nodup_nil
  | @cons id node rest found tail inductionHypothesis =>
      have fresh : id ∉ rest := by
        intro again
        obtain ⟨front, after, rfl⟩ := List.append_of_mem again
        -- The second visit starts the same chain again, which would then be longer than itself.
        have equal := (Chain.cons found tail).unique tail.suffix
        have lengths := congrArg List.length equal
        simp at lengths
        omega
      exact List.nodup_cons.2 ⟨fresh, inductionHypothesis⟩

/-- The successor of a payload leads to the rest of its chain. -/
theorem node {Store Id Content : Type} [Arena Store Id Content] {store : Store}
    {head : Option Id} {front rest : List Id} {id : Id}
    (chain : Chain store head (front ++ id :: rest)) :
    ∃ node, Arena.node? store id = some node ∧ Chain store node.link.next rest := by
  cases chain.suffix with
  | cons found tail => exact ⟨_, found, tail⟩

/-- A new first payload extends a chain that it was not part of. -/
theorem push {Store Id Content : Type} [Arena Store Id Content] [LawfulArena Store]
    {store : Store} {head : Option Id} {ids : List Id} (chain : Chain store head ids) {id : Id}
    {node : Node Id Content} (found : Arena.node? store id = some node) (fresh : id ∉ ids) :
    Chain (Arena.relink store id head) (some id) (id :: ids) := by
  have relinked : Arena.node? (Arena.relink store id head) id = some (node.withNext head) := by
    rw [LawfulArena.node?_relink_self, found, Option.map_some]
  exact .cons relinked (chain.rewire (Arena.Rewires.relink store id head)
    fun other member same => fresh (same ▸ member))

/-- A payload leaves its chain when the one before it takes over its successor. -/
theorem bypass {Store Id Content : Type} [Arena Store Id Content] [LawfulArena Store]
    {store : Store} {head next : Option Id} {front rest : List Id} {before id : Id}
    (chain : Chain store head (front ++ before :: id :: rest)) (tail : Chain store next rest) :
    Chain (Arena.relink store before next) head (front ++ before :: rest) := by
  have distinct := chain.nodup
  induction front generalizing head with
  | nil =>
      cases chain with
      | @cons _ node _ found _ =>
          have relinked : Arena.node? (Arena.relink store before next) before =
              some (node.withNext next) := by
            rw [LawfulArena.node?_relink_self, found, Option.map_some]
          apply Chain.cons relinked
          apply tail.rewire (Arena.Rewires.relink store before next)
          intro other member same
          rw [Set.mem_singleton_iff] at same
          simp [← same, member] at distinct
  | cons first front inductionHypothesis =>
      cases chain with
      | cons found rest =>
          have apart : first ≠ before := by
            rintro rfl
            simp at distinct
          rw [← LawfulArena.node?_relink_other store before first next apart] at found
          exact .cons found (inductionHypothesis rest (List.nodup_cons.1 distinct).2)

end Chain

end IncrementalMap
