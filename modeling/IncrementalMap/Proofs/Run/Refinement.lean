/-
This file proves that a map behaves like the set of the payloads that are linked into it.
-/

import IncrementalMap.Arena.Indexed
import IncrementalMap.Proofs.Run.History

namespace IncrementalMap

/-- A payload fits a query when it has the hash code and the predicate accepts its content. -/
def Query.Fits {Store Id Content : Type} [Arena Store Id Content] (query : Query Id Content Unit)
    (store : Store) (id : Id) : Prop :=
  ∃ node, Arena.node? store id = some node ∧ node.link.hash = query.hash ∧
    (query.matcher node.content ()).1 = true

instance {Store Id Content : Type} [Arena Store Id Content] (query : Query Id Content Unit)
    (store : Store) (id : Id) : Decidable (query.Fits store id) :=
  inferInstanceAs (Decidable (∃ node ∈ Arena.node? store id, _))

/-- A search selects a linked payload that fits, or nothing when no linked payload fits. -/
def Query.Selects {Store Id Content : Type} [Arena Store Id Content]
    (query : Query Id Content Unit) (linked : Finset Id) (store : Store) : Option Id → Prop
  | some id => id ∈ linked ∧ query.Fits store id
  | none => ∀ id ∈ linked, ¬query.Fits store id

/-- A correct reply is one that a set of payloads would give. -/
def Call.Correct {Store Id Content : Type} [Arena Store Id Content] [DecidableEq Id]
    (call : Call Id Content Unit) (linked : Finset Id) (store : Store)
    (reply : Reply Id Content Unit) : Prop :=
  match call with
  | .lookup query () | .delete query () =>
      ∃ found, reply = .found found () ∧ query.Selects linked store found
  | .visit => ∃ items, reply = .visited items ∧ Visits linked store items
  | .clear => reply = .done (.ok ())
  | _ => ∃ result, reply = .done result

/-- A map refines a set when it has the size of the set, visits its payloads, and answers every
further legal call as the set would. -/
structure Map.Refines {Store Id Content : Type} [Arena Store Id Content] [DecidableEq Id]
    (map : Map Id) (store : Store) (linked : Finset Id) : Prop where
  size : map.size = linked.card
  visits : ∃ items, (Traversal.start map).toList store = .ok items ∧
    Call.Visits linked store items
  replies : ∀ edited, Arena.Careful linked store edited → Arena.FewerThan edited (2 ^ 63) →
    ∀ (call : Call Id Content Unit) (allocator : Allocator), call.Legal linked edited →
      ∃ outcome, call.perform allocator map edited = .ok outcome ∧
        call.Correct linked edited outcome.result ∧
        outcome.state.size = (call.relink outcome.result linked).card ∧
        ∃ items, (Traversal.start outcome.state).toList outcome.store = .ok items ∧
          Call.Visits (call.relink outcome.result linked) outcome.store items

/-- The first accepted candidate of a predicate is a right selection. -/
theorem Call.Chooses.selects {Store Id Content : Type} [Arena Store Id Content]
    {query : Query Id Content Unit} {linked : Finset Id} {store : Store}
    {reply : Reply Id Content Unit} (chooses : Call.Chooses query () linked store reply) :
    ∃ found, reply = .found found () ∧ query.Selects linked store found := by
  obtain ⟨candidates, offers, rfl⟩ := chooses
  rw [Matcher.choose_unit]
  rcases first : candidates.find? fun candidate => (query.matcher candidate.2 ()).1 with
    _ | ⟨id, content⟩
  · have misses : ∀ id ∈ linked, ¬query.Fits store id := by
      rintro id member ⟨node, found, code, accepted⟩
      have offered := (offers id node.content).2 ⟨member, node, found, code, rfl⟩
      exact List.find?_eq_none.1 first (id, node.content) offered accepted
    rw [first]
    exact ⟨none, rfl, misses⟩
  · have accepted := List.find?_some first
    obtain ⟨member, node, found, code, same⟩ :=
      (offers id content).1 (List.mem_of_find?_eq_some first)
    have fits : query.Fits store id := ⟨node, found, code, same ▸ accepted⟩
    rw [first]
    exact ⟨some id, rfl, member, fits⟩

/-- An answer for predicates is a correct reply. -/
theorem Call.Answers.correct {Store Id Content : Type} [Arena Store Id Content] [DecidableEq Id]
    {call : Call Id Content Unit} {linked : Finset Id} {store : Store}
    {reply : Reply Id Content Unit} (answers : call.Answers linked store reply) :
    call.Correct linked store reply := by
  cases call with
  | lookup query memory => exact Call.Chooses.selects answers
  | delete query memory => exact Call.Chooses.selects answers
  | insert id => exact answers
  | resize target => exact answers
  | resizeAtOnce target => exact answers
  | reserve requested => exact answers
  | clear => exact answers
  | visit => exact answers

/-- After any run the map refines the set of its linked payloads. -/
theorem Run.refines_linked {Store Id Content : Type} [Arena Store Id Content] [LawfulArena Store]
    [DecidableEq Id] {origin map : Map Id} {arena store : Store}
    {history : History Store Id Content Unit} (run : Run origin arena history map store) :
    map.Refines store history.linked := by
  obtain ⟨links, _⟩ := run.links
  constructor
  · exact links.size_eq
  · exact links.visit
  · intro edited careful small call allocator legal
    obtain ⟨outcome, returned, performed⟩ := (links.congr careful).perform small allocator legal
    exact ⟨outcome, returned, performed.answers.correct, performed.links.size_eq,
      performed.links.visit⟩

/-- Two payloads with the same hash code share the slots of a map that grows twice. -/
theorem Run.refines_linked_twins :
    ∃ (history : History (IndexedArena Char) Nat Char Unit) (map : Map Nat)
      (store : IndexedArena Char),
      Run (Map.empty ⟨1, 1, 1⟩) #[⟨.detached 3, 'a'⟩, ⟨.detached 3, 'b'⟩] history map store ∧
        history.linked = {0, 1} ∧ map.Refines store history.linked := by
  have start : Run (Map.empty ⟨1, 1, 1⟩)
      (#[⟨.detached 3, 'a'⟩, ⟨.detached 3, 'b'⟩] : IndexedArena Char)
      ([] : History _ Nat Char Unit) _ _ :=
    .start (.ofConfig ⟨1, 1, 1⟩ rfl) (Arena.fewerThan_of_size (by decide))
  have first := start.next (.insert 0) .addressSpace ⟨rfl, by decide⟩ rfl
  have second := first.next (.insert 1) .addressSpace ⟨rfl, by decide⟩ rfl
  exact ⟨_, _, _, second, by decide, second.refines_linked⟩

end IncrementalMap
