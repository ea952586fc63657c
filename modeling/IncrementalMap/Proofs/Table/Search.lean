/-
This file proves which payload a lookup finds, and what it asks the matcher on the way.
-/

import IncrementalMap.Proofs.Table.Sound
import IncrementalMap.Table.Lookup

namespace IncrementalMap

/-- The candidates are the payloads with the wanted hash code. -/
def Arena.candidates {Store Id Content : Type} [Arena Store Id Content] (store : Store)
    (hash : UInt64) (ids : List Id) : List (Id × Content) :=
  ids.filterMap fun id => (Arena.node? store id).bind fun node =>
    if node.link.hash = hash then some (id, node.content) else none

/-- The matcher runs over the candidates in order and stops at the first that it accepts. -/
def Matcher.choose {Id Content Memory : Type} (matcher : Matcher Content Memory) :
    List (Id × Content) → Memory → Option Id × Memory
  | [], memory => (none, memory)
  | (id, content) :: rest, memory =>
      match matcher content memory with
      | (true, memory) => (some id, memory)
      | (false, memory) => choose matcher rest memory

namespace Arena

theorem mem_candidates {Store Id Content : Type} [Arena Store Id Content] {store : Store}
    {hash : UInt64} {ids : List Id} {id : Id} {content : Content} :
    (id, content) ∈ candidates store hash ids ↔ id ∈ ids ∧
      ∃ node, node? store id = some node ∧ node.link.hash = hash ∧ node.content = content := by
  simp only [candidates, List.mem_filterMap, Option.bind_eq_some_iff, Option.ite_none_right_eq_some,
    Option.some.injEq, Prod.mk.injEq]
  constructor
  · rintro ⟨other, member, node, found, code, rfl, rfl⟩
    exact ⟨member, node, found, code, rfl⟩
  · rintro ⟨member, node, found, code, rfl⟩
    exact ⟨id, member, node, found, code, rfl, rfl⟩

@[simp] theorem candidates_append {Store Id Content : Type} [Arena Store Id Content]
    (store : Store) (hash : UInt64) (first second : List Id) :
    candidates store hash (first ++ second) =
      candidates store hash first ++ candidates store hash second :=
  List.filterMap_append

theorem candidates_cons {Store Id Content : Type} [Arena Store Id Content] {store : Store}
    {id : Id} {node : Node Id Content} (found : node? store id = some node) (hash : UInt64)
    (ids : List Id) :
    candidates store hash (id :: ids) =
      if node.link.hash = hash then (id, node.content) :: candidates store hash ids
      else candidates store hash ids := by
  by_cases code : node.link.hash = hash <;> simp [candidates, found, code]

/-- Each candidate comes from another id of the list, in the same order. -/
theorem fst_candidates_sublist {Store Id Content : Type} [Arena Store Id Content] (store : Store)
    (hash : UInt64) (ids : List Id) :
    ((candidates store hash ids).map Prod.fst).Sublist ids := by
  induction ids with
  | nil => exact .slnil
  | cons id ids inductionHypothesis =>
      rcases found : node? store id with _ | node
      · have absent : candidates store hash (id :: ids) = candidates store hash ids := by
          simp [candidates, found]
        rw [absent]
        exact inductionHypothesis.cons id
      · rw [candidates_cons found]
        split
        · exact inductionHypothesis.cons_cons id
        · exact inductionHypothesis.cons id

end Arena

namespace Matcher

/-- The second list is asked only when the first one has nothing to accept. -/
theorem choose_append {Id Content Memory : Type} (matcher : Matcher Content Memory)
    (first second : List (Id × Content)) (memory : Memory) :
    matcher.choose (first ++ second) memory =
      match matcher.choose first memory with
      | (some id, memory) => (some id, memory)
      | (none, memory) => matcher.choose second memory := by
  induction first generalizing memory with
  | nil => rfl
  | cons candidate first inductionHypothesis =>
      obtain ⟨id, content⟩ := candidate
      simp only [List.cons_append, choose]
      rcases matcher content memory with ⟨_ | _, left⟩
      · exact inductionHypothesis left
      · rfl

/-- A matcher without a memory chooses the first candidate that it accepts. -/
theorem choose_unit {Id Content : Type} (matcher : Matcher Content Unit)
    (list : List (Id × Content)) :
    matcher.choose list () =
      ((list.find? fun candidate => (matcher candidate.2 ()).1).map Prod.fst, ()) := by
  induction list with
  | nil => rfl
  | cons candidate list inductionHypothesis =>
      obtain ⟨id, content⟩ := candidate
      rcases answer : matcher content () with ⟨_ | _, left⟩ <;>
        simp [choose, answer, inductionHypothesis]

end Matcher

/-- A place finds a payload of a chain when it is the position right before that payload. -/
def Position.Finds {Id : Type} (slot : Nat) (ids : List Id) :
    Option Id → Option (Position Id) → Prop
  | none, place => place = none
  | some id, place => ∃ front rest, ids = front ++ id :: rest ∧ place = some (following slot front)

/-- A chain is never longer than the walk that lists it. -/
theorem Chain.length_le_walkLimit {Store Id Content : Type} [Arena Store Id Content]
    [LawfulArena Store] {store : Store} {head : Option Id} {ids : List Id}
    (chain : Chain store head ids) : ids.length ≤ Arena.walkLimit store :=
  Nat.le_succ_of_le (LawfulArena.length_le_size store ids chain.nodup chain.present)

namespace Table

/-- A search along the rest of a chain chooses among the candidates that are left, and stops right
before the chosen one. -/
theorem search_following {Store Id Content Memory : Type} [Arena Store Id Content] {store : Store}
    {head : Option Id} {ids : List Id} (chain : Chain store head ids) {limit : Nat}
    (enough : ids.length ≤ limit) (hash : UInt64) (matcher : Matcher Content Memory) (slot : Nat)
    (front : List Id) (memory : Memory) :
    ∃ place, search store hash matcher limit (.following slot front) head memory =
        .ok (place, (matcher.choose (Arena.candidates store hash ids) memory).2) ∧
      Position.Finds slot (front ++ ids)
        (matcher.choose (Arena.candidates store hash ids) memory).1 place := by
  induction chain generalizing limit front memory with
  | nil => cases limit <;> exact ⟨none, rfl, rfl⟩
  | @cons id node rest found _ inductionHypothesis =>
      obtain ⟨limit, rfl⟩ := Nat.exists_eq_succ_of_ne_zero (Nat.ne_of_gt (Nat.lt_of_lt_of_le
        (Nat.succ_pos _) enough))
      have later (left : Memory) := inductionHypothesis (Nat.le_of_succ_le_succ enough)
        (front ++ [id]) left
      simp only [Position.following_concat, List.append_assoc, List.singleton_append] at later
      rw [Arena.candidates_cons found]
      by_cases code : node.link.hash = hash
      · rcases answer : matcher node.content memory with ⟨_ | _, left⟩
        · simpa [search, Arena.fetch_of_node? found, code, Matcher.choose, answer, bind,
            Except.bind] using later left
        · have chosen : matcher.choose ((id, node.content) :: Arena.candidates store hash rest)
              memory = (some id, left) := by simp [Matcher.choose, answer]
          have stopped : search store hash matcher (limit + 1) (.following slot front) (some id)
              memory = .ok (some (.following slot front), left) := by
            simp [search, Arena.fetch_of_node? found, code, answer, bind, Except.bind, pure,
              Except.pure]
          rw [if_pos code, chosen]
          exact ⟨some (.following slot front), stopped, front, rest, rfl, rfl⟩
      · simpa [search, Arena.fetch_of_node? found, code, bind, Except.bind] using later memory

/-- A chain is never longer than the search that a lookup allows itself. -/
theorem length_le_searchLimit {Store Id Content : Type} [Arena Store Id Content]
    [LawfulArena Store] {store : Store} {head : Option Id} {ids : List Id}
    (chain : Chain store head ids) : ids.length ≤ searchLimit store :=
  chain.length_le_walkLimit.trans (walkLimit_le_searchLimit store)

/-- A lookup chooses among the candidates of the slot that the hash code selects. -/
theorem Sound.lookup {Store Id Content Memory : Type} [Arena Store Id Content]
    [LawfulArena Store] {table : Table Id} {store : Store} {layout : Layout Id}
    (sound : table.Sound store layout) (hash : UInt64) (matcher : Matcher Content Memory)
    (memory : Memory) :
    ∃ place, table.lookup store hash matcher memory = .ok (place,
        (matcher.choose (Arena.candidates store hash (layout (table.slotFor hash))) memory).2) ∧
      Position.Finds (table.slotFor hash) (layout (table.slotFor hash))
        (matcher.choose (Arena.candidates store hash (layout (table.slotFor hash))) memory).1
        place := by
  have chain := sound.chains (table.slotFor hash)
  exact search_following chain (length_le_searchLimit chain) hash matcher _ [] memory

end Table

end IncrementalMap
