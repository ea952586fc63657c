/-
This file follows a map from its constructor through legal calls on an arena of any size.
-/

import IncrementalMap.Arena.Indexed
import IncrementalMap.Arena.Keyed
import IncrementalMap.Proofs.Run.History

namespace IncrementalMap

/-- A map is reachable, with the payloads it links, when legal calls and careful edits of the arena
lead to it from a constructor. -/
inductive Map.Reachable {Store Id Content : Type} [Arena Store Id Content] [DecidableEq Id] :
    Map Id → Store → Finset Id → Prop where
  | built {map : Map Id} (built : map.Built) (store : Store) : Reachable map store ∅
  | edited {map : Map Id} {store edited : Store} {linked : Finset Id}
      (earlier : Reachable map store linked) (careful : Arena.Careful linked store edited) :
      Reachable map edited linked
  | called {Memory : Type} {map : Map Id} {store : Store} {linked : Finset Id}
      (earlier : Reachable map store linked) (call : Call Id Content Memory)
      (allocator : Allocator) {outcome : Outcome (Map Id) Store (Reply Id Content Memory)}
      (legal : call.Legal linked store)
      (answered : call.perform allocator map store = .ok outcome) :
      Reachable outcome.state outcome.store (call.relink outcome.result linked)

/-- A reachable map links its payloads. -/
theorem Map.Reachable.links {Store Id Content : Type} [Arena Store Id Content]
    [LawfulArena Store] [DecidableEq Id] {map : Map Id} {store : Store} {linked : Finset Id}
    (reachable : map.Reachable store linked) : map.Links store linked := by
  induction reachable with
  | built built store => exact (built.links store).1
  | edited earlier careful inductionHypothesis => exact inductionHypothesis.congr careful
  | called earlier call allocator legal answered inductionHypothesis =>
      exact (inductionHypothesis.answered legal answered).links

/-- This arena has three payloads with neighbouring hash codes. -/
def IndexedArena.three : IndexedArena Char :=
  #[⟨.detached 3, 'a'⟩, ⟨.detached 4, 'b'⟩, ⟨.detached 5, 'c'⟩]

/-- Two insertions lead to a map of four slots. -/
theorem Map.Reachable.two :
    Map.Reachable ⟨.idle ⟨#[some 1, none, none, some 0], 3, 2⟩, ⟨4, 8, 1⟩⟩ IndexedArena.three
      {1, 0} := by
  have start : Map.Reachable _ IndexedArena.three ∅ := .built (.ofConfig ⟨4, 8, 1⟩ rfl) _
  have first : Map.Reachable ⟨.idle ⟨#[none, none, none, some 0], 3, 1⟩, ⟨4, 8, 1⟩⟩
      IndexedArena.three {0} :=
    start.called (.insert 0 : Call Nat Char Unit) .addressSpace ⟨rfl, by decide⟩ rfl
  exact first.called (.insert 1 : Call Nat Char Unit) .addressSpace ⟨rfl, by decide⟩ rfl

/-- A third insertion leaves one slot empty. -/
theorem Map.Reachable.three :
    Map.Reachable ⟨.idle ⟨#[some 1, some 2, none, some 0], 3, 3⟩, ⟨4, 8, 1⟩⟩ IndexedArena.three
      {2, 1, 0} :=
  two.called (.insert 2 : Call Nat Char Unit) .addressSpace ⟨rfl, by decide⟩ rfl

/-- A resize of this map to eight slots leaves an episode with two payloads. -/
theorem Map.Reachable.three_resized :
    Map.Reachable ⟨⟨⟨#[none, none, none, none, some 1, none, none, none], 7, 1⟩,
      ⟨#[none, some 2, none, some 0], 3, 2⟩, 0⟩, ⟨4, 8, 1⟩⟩ IndexedArena.three {2, 1, 0} :=
  three.called (.resize 8 : Call Nat Char Unit) .addressSpace trivial rfl

/-- This keyed arena has the same three payloads. -/
def KeyedArena.three : KeyedArena Char :=
  ⟨#[some ⟨.detached 3, 'a'⟩, some ⟨.detached 4, 'b'⟩, some ⟨.detached 5, 'c'⟩]⟩

/-- The payloads of the keyed arena are linked like those of the indexed one. -/
theorem Map.Reachable.three_keyed :
    Map.Reachable ⟨.idle ⟨#[some 1, some 2, none, some 0], 3, 3⟩, ⟨4, 8, 1⟩⟩ KeyedArena.three
      {2, 1, 0} := by
  have start : Map.Reachable _ KeyedArena.three ∅ := .built (.ofConfig ⟨4, 8, 1⟩ rfl) _
  have first := start.called (.insert 0 : Call Nat Char Unit) .addressSpace ⟨rfl, by decide⟩ rfl
  have second := first.called (.insert 1 : Call Nat Char Unit) .addressSpace ⟨rfl, by decide⟩ rfl
  exact second.called (.insert 2 : Call Nat Char Unit) .addressSpace ⟨rfl, by decide⟩ rfl

end IncrementalMap
