/-
This file proves that every call of a map does the same in two stores that mirror each other.
-/

import IncrementalMap.Proofs.Map.Mirror
import IncrementalMap.Proofs.Run.Perform

namespace IncrementalMap

namespace Traversal

/-- A traversal is within a set of payloads when it goes on with one of them, and all slots that
follow start with some of them. -/
structure Within {Id : Type} (kept : Set Id) (traversal : Traversal Id) : Prop where
  current : ∀ id, traversal.current = some id → id ∈ kept
  slots : ∀ slot ∈ traversal.slots, ∀ id, slot = some id → id ∈ kept

namespace Within

/-- The next payload of a traversal is one of the set. -/
theorem settle {Id : Type} {kept : Set Id} {current : Option Id} {slots rest : List (Option Id)}
    {id : Id} (first : ∀ id, current = some id → id ∈ kept)
    (others : ∀ slot ∈ slots, ∀ id, slot = some id → id ∈ kept)
    (settled : Traversal.settle current slots = some (id, rest)) :
    id ∈ kept ∧ ∀ slot ∈ rest, ∀ id, slot = some id → id ∈ kept := by
  induction slots generalizing current with
  | nil =>
      cases current with
      | none => exact nomatch settled
      | some other =>
          obtain ⟨rfl, rfl⟩ := Prod.mk.inj (Option.some.inj settled)
          exact ⟨first _ rfl, others⟩
  | cons slot slots inductionHypothesis =>
      cases current with
      | none =>
          exact inductionHypothesis (others slot List.mem_cons_self)
            (fun other member => others other (List.mem_cons_of_mem _ member)) settled
      | some other =>
          obtain ⟨rfl, rfl⟩ := Prod.mk.inj (Option.some.inj settled)
          exact ⟨first _ rfl, others⟩

/-- A traversal of a map starts within the payloads of its tables. -/
theorem start {Id : Type} {kept : Set Id} {map : Map Id} (within : map.Within kept) :
    (Traversal.start map).Within kept where
  current id same := nomatch same
  slots slot member id same := by
    rw [Traversal.start, List.mem_append, Table.slots_eq, Table.slots_eq, List.mem_map,
      List.mem_map] at member
    rcases member with ⟨place, _, head⟩ | ⟨place, _, head⟩
    · exact Rehash.Within.newer within place id (head.trans same)
    · exact Rehash.Within.older within place id (head.trans same)

variable {Store Id Content : Type} [Arena Store Id Content] {kept lost : Set Id}
  {origin first second : Store} {traversal : Traversal Id}

/-- A visit gives the same node in both stores. -/
theorem next (within : traversal.Within kept)
    (mirrors : Arena.Mirrors kept lost origin first second) :
    Corresponds (kept ∩ lost)
      (fun visit other => other = visit ∧ visit.2.Within kept)
      (traversal.next first) (traversal.next second) := by
  rw [Traversal.next, Traversal.next]
  rcases settled : Traversal.settle traversal.current traversal.slots with _ | ⟨id, slots⟩
  · exact .value ⟨rfl, by simp, by simp⟩
  · obtain ⟨member, others⟩ := settle within.current within.slots settled
    dsimp only
    refine (mirrors.fetch member).bind ?_
    rintro node _ - ⟨rfl, found⟩
    rcases traversal.remaining with _ | remaining
    · exact .failure _
    · exact .value ⟨rfl, mirrors.closed id member _ found, others⟩

/-- All visits give the same items in both stores. -/
theorem collect (within : traversal.Within kept)
    (mirrors : Arena.Mirrors kept lost origin first second) (limit : Nat) :
    Corresponds (kept ∩ lost) (fun items other => other = items)
      (Traversal.collect first limit traversal) (Traversal.collect second limit traversal) := by
  induction limit generalizing traversal with
  | zero => exact .failure _
  | succ limit inductionHypothesis =>
      rw [Traversal.collect, Traversal.collect]
      refine (within.next mirrors).bind ?_
      rintro ⟨_ | item, rest⟩ _ - ⟨rfl, onward⟩
      · exact .value rfl
      · refine (inductionHypothesis onward).bind ?_
        rintro items _ - rfl
        exact .value rfl

end Within

end Traversal

/-- Outcomes that mirror each other still do with the reply of their call. -/
theorem Outcome.Mirrors.withReply {Store Id Content State Result Answer : Type}
    [Arena Store Id Content] {kept lost : Set Id} {origin : Store} {confined : State → Prop}
    {first second : Outcome State Store Result}
    (mirrors : Outcome.Mirrors kept lost origin confined first second) (reply : Result → Answer) :
    Outcome.Mirrors kept lost origin (fun _ => True) (first.withReply reply)
      (second.withReply reply) := by
  obtain ⟨_, stores⟩ := mirrors
  exact ⟨trivial, stores⟩

namespace Call

/-- Only an insertion writes to a payload beside those that are kept. -/
def keeps {Id Content Memory : Type} (call : Call Id Content Memory) (kept : Set Id) : Set Id :=
  match call with
  | .insert id => Insert.insert id kept
  | _ => kept

theorem subset_keeps {Id Content Memory : Type} (call : Call Id Content Memory) (kept : Set Id) :
    kept ⊆ call.keeps kept := by
  cases call with
  | insert id => exact Set.subset_insert id kept
  | _ => exact Set.Subset.refl kept

/-- Only an insertion links a payload. -/
theorem relink_subset {Id Content Memory : Type} [DecidableEq Id] (call : Call Id Content Memory)
    (reply : Reply Id Content Memory) (linked : Finset Id) :
    (call.relink reply linked : Set Id) ⊆ call.keeps linked := by
  intro id member
  rw [Finset.mem_coe] at member
  unfold relink at member
  split at member
  · simpa [keeps] using member
  · exact Finset.mem_of_mem_erase member
  · exact absurd member (Finset.notMem_empty id)
  · exact call.subset_keeps linked member

/-- A call that fails links no payload. -/
theorem relink_error {Id Content Memory : Type} [DecidableEq Id] (call : Call Id Content Memory)
    (error : MapError) (linked : Finset Id) :
    call.relink (.done (.error error)) linked ⊆ linked := by
  cases call with
  | clear => exact Finset.empty_subset linked
  | _ => exact Finset.Subset.refl linked

end Call

namespace Map.Sound

variable {Store Id Content Memory : Type} [Arena Store Id Content] [LawfulArena Store]
  {map : Map Id} {kept lost : Set Id} {origin first second : Store} {newer older : Layout Id}

/-- A call that keeps to its payloads does the same in both stores. -/
theorem corresponds (sound : map.Sound first newer older)
    (mirrors : Arena.Mirrors kept lost origin first second)
    (inside : ∀ id ∈ map.rehash.ids newer older, id ∈ kept) (allocator : Allocator)
    (call : Call Id Content Memory) (other : ∀ id, call ≠ .insert id) :
    Corresponds (kept ∩ lost) (Outcome.Mirrors kept lost origin fun _ => True)
      (call.perform allocator map first) (call.perform allocator map second) := by
  have within : map.Within kept := sound.tables.within inside
  cases call with
  | insert id => exact absurd rfl (other id)
  | lookup query memory =>
      rw [Call.perform, Call.perform, query.lookup_eq, query.lookup_eq]
      exact (sound.lookup_mirrored mirrors inside query.hash query.matcher memory).map
        fun _ _ outcome => outcome.withReply _
  | delete query memory =>
      rw [Call.perform, Call.perform, query.delete_eq, query.delete_eq]
      exact (sound.delete_mirrored mirrors inside query.hash query.matcher memory).map
        fun _ _ outcome => outcome.withReply _
  | resize target =>
      exact (within.resize mirrors allocator target).map fun _ _ outcome => outcome.withReply _
  | resizeAtOnce target =>
      exact (within.resizeAtOnce mirrors allocator target).map fun _ _ outcome =>
        outcome.withReply _
  | reserve requested =>
      rw [Call.perform, Call.perform]
      rcases map.reserve allocator requested with error | ⟨after, events⟩
      · exact .value ⟨trivial, mirrors⟩
      · exact .value ⟨trivial, mirrors⟩
  | clear => exact .value ⟨trivial, mirrors⟩
  | visit =>
      refine ((Traversal.Within.start within).collect mirrors _).map ?_
      rintro items _ rfl
      exact ⟨trivial, mirrors⟩

/-- What the first store answers to a call the second one answers as well, unless it has lost a
payload on the way. -/
theorem answer_mirrored (sound : map.Sound first newer older)
    (mirrors : Arena.Mirrors kept lost origin first second)
    (inside : ∀ id ∈ map.rehash.ids newer older, id ∈ kept) {allocator : Allocator}
    {call : Call Id Content Memory} {outcome : Outcome (Map Id) Store (Reply Id Content Memory)}
    (answered : call.perform allocator map first = .ok outcome) :
    ∃ more, more ⊆ call.keeps kept ∧
      (more = call.keeps kept ∨ more = kept ∧ ∃ error, outcome.result = .done (.error error)) ∧
      ((∃ final, call.perform allocator map second =
          .ok ⟨outcome.result, outcome.state, final, outcome.events⟩ ∧
          Arena.Mirrors more lost origin outcome.store final) ∨
        ∃ id ∈ more ∩ lost, call.perform allocator map second = .error (.missing id)) := by
  cases call with
  | insert id =>
      have within : map.Within kept := sound.tables.within inside
      rcases made : map.firstTable allocator with error | table
      · have refused (store : Store) : (Call.insert id : Call Id Content Memory).perform allocator map
            store = .ok ⟨.done (.error error), map, store, []⟩ := by
          rw [Call.perform, insert_of_refused made store id]
          rfl
        obtain rfl := Except.ok.inj ((refused first).symm.trans answered)
        exact ⟨kept, Call.subset_keeps _ kept, .inr ⟨rfl, error, rfl⟩,
          .inl ⟨second, refused second, mirrors⟩⟩
      · have mirrored : Corresponds (Insert.insert id kept ∩ lost)
            (Outcome.Mirrors (Insert.insert id kept) lost origin fun _ => True)
            ((Call.insert id : Call Id Content Memory).perform allocator map first)
            ((Call.insert id : Call Id Content Memory).perform allocator map second) :=
          (within.insert mirrors made id).map fun _ _ outcome => outcome.withReply _
        exact ⟨Insert.insert id kept, Set.Subset.refl _, .inl rfl, mirrored.answer answered⟩
  | _ =>
      exact ⟨kept, Set.Subset.refl _, .inl rfl,
        (sound.corresponds mirrors inside allocator _ (by simp)).answer answered⟩

end Map.Sound

end IncrementalMap
