/-
This file handles answers that may be failures, alone and two at a time.
-/

import IncrementalMap.Error
import Mathlib.Tactic

namespace IncrementalMap

/-- A call goes on with the answer of its first part. -/
theorem ok_bind {Failure First Second : Type} (answer : First)
    (rest : First → Except Failure Second) : (Except.ok answer >>= rest) = rest answer := rfl

/-- A call that has an answer goes on from an answer of its first part. -/
theorem exists_of_bind_eq_ok {Failure First Second : Type} {first : Except Failure First}
    {rest : First → Except Failure Second} {answer : Second}
    (answered : first >>= rest = .ok answer) :
    ∃ between, first = .ok between ∧ rest between = .ok answer := by
  cases first with
  | error failure => exact nomatch answered
  | ok between => exact ⟨between, rfl, answered⟩

/-- An answer that is handed on was an answer before. -/
theorem exists_of_map_eq_ok {Failure First Second : Type} {first : Except Failure First}
    {change : First → Second} {answer : Second} (answered : first.map change = .ok answer) :
    ∃ between, first = .ok between ∧ change between = answer := by
  cases first with
  | error failure => exact nomatch answered
  | ok between => exact ⟨between, rfl, Except.ok.inj answered⟩

/-- A loop keeps a property that each of its rounds keeps. -/
theorem foldlM_induction {Failure State Item : Type} {motive : State → Prop}
    {round : State → Item → Except Failure State}
    (carry : ∀ state item next, motive state → round state item = .ok next → motive next)
    {items : List Item} {first last : State} (start : motive first)
    (answered : items.foldlM round first = .ok last) : motive last := by
  induction items generalizing first with
  | nil => exact Except.ok.inj answered ▸ start
  | cons item items inductionHypothesis =>
      rw [List.foldlM_cons] at answered
      obtain ⟨next, made, others⟩ := exists_of_bind_eq_ok answered
      exact inductionHypothesis (carry first item next start made) others

/-- Two answers correspond when they are the same failure or values that are related, or when the
second one fails at a payload that was lost. -/
inductive Corresponds {Id First Second : Type} (lost : Set Id) (related : First → Second → Prop) :
    Except (Fault Id) First → Except (Fault Id) Second → Prop where
  | failure (fault : Fault Id) : Corresponds lost related (.error fault) (.error fault)
  | value {first : First} {second : Second} (holds : related first second) :
      Corresponds lost related (.ok first) (.ok second)
  | missing {id : Id} (absent : id ∈ lost) (answer : Except (Fault Id) First) :
      Corresponds lost related answer (.error (.missing id))

namespace Corresponds

variable {Id First Second : Type} {lost : Set Id} {related : First → Second → Prop}
  {left : Except (Fault Id) First} {right : Except (Fault Id) Second}

/-- Computations correspond when their first parts do and related values are carried on alike. -/
theorem bind {Third Fourth : Type} {others : Third → Fourth → Prop}
    {rest : First → Except (Fault Id) Third} {other : Second → Except (Fault Id) Fourth}
    (both : Corresponds lost related left right)
    (carry : ∀ first second, left = .ok first → related first second →
      Corresponds lost others (rest first) (other second)) :
    Corresponds lost others (left >>= rest) (right >>= other) := by
  cases both with
  | failure fault => exact .failure fault
  | value holds => exact carry _ _ rfl holds
  | missing absent => exact .missing absent _

/-- Related values stay related when both answers are handed on. -/
theorem map {Third Fourth : Type} {others : Third → Fourth → Prop} {change : First → Third}
    {other : Second → Fourth} (both : Corresponds lost related left right)
    (carry : ∀ first second, related first second → others (change first) (other second)) :
    Corresponds lost others (left.map change) (right.map other) := by
  cases both with
  | failure fault => exact .failure fault
  | value holds => exact .value (carry _ _ holds)
  | missing absent => exact .missing absent _

/-- A loop over one list keeps a relation that each of its rounds keeps. -/
theorem foldlM {State Other Item : Type} {related : State → Other → Prop}
    {round : State → Item → Except (Fault Id) State}
    {other : Other → Item → Except (Fault Id) Other}
    (carry : ∀ first second item, related first second →
      Corresponds lost related (round first item) (other second item)) (items : List Item)
    {first : State} {second : Other} (start : related first second) :
    Corresponds lost related (items.foldlM round first) (items.foldlM other second) := by
  induction items generalizing first second with
  | nil => exact .value start
  | cons item items inductionHypothesis =>
      rw [List.foldlM_cons, List.foldlM_cons]
      exact (carry first second item start).bind fun _ _ _ => inductionHypothesis

end Corresponds

/-- Two pairs show one value alongside others when it is confined in both and the others are
related. -/
inductive Alongside {Value First Second : Type} (confined : Value → Prop)
    (related : First → Second → Prop) : Value × First → Value × Second → Prop where
  | intro {value : Value} {first : First} {second : Second} (inside : confined value)
      (others : related first second) : Alongside confined related (value, first) (value, second)

end IncrementalMap
