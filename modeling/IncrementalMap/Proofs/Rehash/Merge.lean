/-
This file proves that it does not matter into how many steps an episode is cut.
-/

import IncrementalMap.Proofs.Rehash.Passage
import IncrementalMap.Proofs.Rehash.Portion

namespace IncrementalMap

/-- Several steps come to one when their numbers add up and they leave the same state and store. -/
structure Outcome.ComesTo {State Store : Type} (parts : Outcome State Store (List Nat))
    (whole : Outcome State Store Nat) : Prop where
  result : parts.result.sum = whole.result
  state : parts.state = whole.state
  store : parts.store = whole.store

namespace Rehash

variable {Store Id Content : Type} [Arena Store Id Content]

/-- These are steps with the listed amounts of work, one after the other. -/
def steps : Rehash Id → Store → List Nat →
    Except (Fault Id) (Outcome (Rehash Id) Store (List Nat))
  | rehash, store, [] => pure ⟨[], rehash, store, []⟩
  | rehash, store, work :: works => do
      let ⟨moved, rehash, store, events⟩ ← rehash.step store work
      let ⟨numbers, rehash, store, others⟩ ← steps rehash store works
      pure ⟨moved :: numbers, rehash, store, events ++ others⟩

/-- Scans shift payloads until an amount of work is done or nothing is left. A scan that passes an
empty slot does none of the work. -/
inductive Shifts : Nat → Rehash Id → Store → Nat → Rehash Id → Store → Prop where
  | stop {work : Nat} {rehash : Rehash Id} {store : Store}
      (ended : work = 0 ∨ rehash.older.count = 0) : Shifts work rehash store 0 rehash store
  | pass {work moved : Nat} {rehash between after : Rehash Id} {store linked final : Store}
      (left : rehash.older.count ≠ 0) (scanned : rehash.scan store = .ok (none, between, linked))
      (others : Shifts (work + 1) between linked moved after final) :
      Shifts (work + 1) rehash store moved after final
  | move {work moved : Nat} {rehash between after : Rehash Id} {store linked final : Store} {id : Id}
      (left : rehash.older.count ≠ 0) (scanned : rehash.scan store = .ok (some id, between, linked))
      (others : Shifts work between linked moved after final) :
      Shifts (work + 1) rehash store (moved + 1) after final

variable {rehash : Rehash Id} {store : Store}

namespace Shifts

variable {work moved : Nat} {after : Rehash Id} {final : Store}

/-- An empty older table has nothing to shift. -/
theorem of_empty (shifts : Shifts work rehash store moved after final)
    (empty : rehash.older.count = 0) : moved = 0 ∧ after = rehash ∧ final = store := by
  cases shifts with
  | stop ended => exact ⟨rfl, rfl, rfl⟩
  | pass left scanned others => exact absurd empty left
  | move left scanned others => exact absurd empty left

/-- There is only one way to do the work. -/
theorem unique {other : Nat} {last : Rehash Id} {left : Store}
    (first : Shifts work rehash store moved after final)
    (second : Shifts work rehash store other last left) :
    moved = other ∧ after = last ∧ final = left := by
  induction first generalizing other with
  | stop ended =>
      rcases ended with rfl | empty
      · cases second
        exact ⟨rfl, rfl, rfl⟩
      · obtain ⟨rfl, rfl, rfl⟩ := second.of_empty empty
        exact ⟨rfl, rfl, rfl⟩
  | pass remaining scanned others inductionHypothesis =>
      cases second with
      | stop ended => exact absurd (ended.resolve_left (Nat.succ_ne_zero _)) remaining
      | pass _ again onward =>
          obtain ⟨rfl, rfl⟩ := by simpa using scanned.symm.trans again
          exact inductionHypothesis onward
      | move _ again onward => simp [scanned] at again
  | move remaining scanned others inductionHypothesis =>
      cases second with
      | stop ended => exact absurd (ended.resolve_left (Nat.succ_ne_zero _)) remaining
      | pass _ again onward => simp [scanned] at again
      | move _ again onward =>
          obtain ⟨_, rfl, rfl⟩ := by simpa using scanned.symm.trans again
          obtain ⟨rfl, same⟩ := inductionHypothesis onward
          exact ⟨rfl, same⟩

/-- Work that is done in two parts is done in a row. -/
theorem add {second others : Nat} {last : Rehash Id} {left : Store}
    (first : Shifts work rehash store moved after final)
    (later : Shifts second after final others last left) :
    Shifts (work + second) rehash store (moved + others) last left := by
  induction first with
  | stop ended =>
      rcases ended with rfl | empty
      · rwa [Nat.zero_add, Nat.zero_add]
      · obtain ⟨rfl, rfl, rfl⟩ := later.of_empty empty
        exact .stop (.inr empty)
  | pass remaining scanned _ inductionHypothesis =>
      rw [Nat.add_right_comm]
      have onward := inductionHypothesis later
      rw [Nat.add_right_comm] at onward
      exact .pass remaining scanned onward
  | move remaining scanned _ inductionHypothesis =>
      rw [Nat.add_right_comm, Nat.add_right_comm _ 1 others]
      exact .move remaining scanned (inductionHypothesis later)

/-- The loop of a step shifts what is left of its work. -/
theorem of_scanUpTo {limit total : Nat}
    (scanned : rehash.scanUpTo work limit moved store = .ok (total, after, final)) :
    ∃ more, total = moved + more ∧ Shifts (work - moved) rehash store more after final := by
  obtain ⟨trail, rounds, -⟩ := Rounds.of_scanUpTo scanned
  clear scanned
  induction rounds with
  | done ended => exact ⟨0, rfl, .stop (by omega)⟩
  | @round moved total rehash between after store linked final found trail busy scanned others
      inductionHypothesis =>
      obtain ⟨rest, remaining⟩ : ∃ rest, work - moved = rest + 1 :=
        Nat.exists_eq_add_one.2 (Nat.sub_pos_of_lt busy.1)
      obtain ⟨more, rfl, shifts⟩ := inductionHypothesis
      rw [remaining]
      cases found with
      | none =>
          rw [Option.isSome_none, if_neg Bool.false_ne_true, Nat.add_zero, remaining] at shifts
          exact ⟨more, rfl, .pass busy.2 scanned shifts⟩
      | some id =>
          have fewer : work - (moved + 1) = rest := by omega
          rw [Option.isSome_some, if_pos rfl, fewer] at shifts
          refine ⟨more + 1, ?_, .move busy.2 scanned shifts⟩
          rw [Option.isSome_some, if_pos rfl, Nat.add_assoc, Nat.add_comm 1 more]

end Shifts

/-- A step of an episode shifts payloads and then gives up an older table that is empty. -/
theorem shifts_of_step {work : Nat} {outcome : Outcome (Rehash Id) Store Nat}
    (stepped : rehash.step store work = .ok outcome) (active : rehash.isActive = true) :
    ∃ after, Shifts work rehash store outcome.result after outcome.store ∧
      outcome.state = after.release.1 := by
  rw [step, if_pos active] at stepped
  obtain ⟨⟨moved, after, linked⟩, scanned, last⟩ := exists_of_bind_eq_ok stepped
  obtain ⟨more, rfl, shifts⟩ := Shifts.of_scanUpTo scanned
  obtain rfl := Except.ok.inj last
  rw [Nat.zero_add]
  exact ⟨after, shifts, rfl⟩

/-- An episode ends with its last payload. -/
theorem isActive_release_of_empty (empty : rehash.older.count = 0) :
    rehash.release.1.isActive = false := by
  rw [release]
  split <;> rename_i ended
  · rfl
  · simpa [Table.isEmpty, empty] using ended

/-- A table with a payload is not given up. -/
theorem release_of_left (left : rehash.older.count ≠ 0) : rehash.release.1 = rehash := by
  simp [release, Table.isEmpty, left]

theorem steps_cons {work : Nat} {works : List Nat} {first : Outcome (Rehash Id) Store Nat}
    {others : Outcome (Rehash Id) Store (List Nat)}
    (stepped : rehash.step store work = .ok first)
    (onward : first.state.steps first.store works = .ok others) :
    rehash.steps store (work :: works) = .ok ⟨first.result :: others.result, others.state,
      others.store, first.events ++ others.events⟩ := by
  rw [steps, stepped, ok_bind]
  dsimp only
  rw [onward, ok_bind]
  rfl

namespace Sound

variable [LawfulArena Store] {newer older : Layout Id} {work : Nat}
  {outcome : Outcome (Rehash Id) Store Nat}

/-- A step leaves no episode exactly when its work is enough for all payloads. -/
theorem step_ends_iff (sound : rehash.Sound store newer older)
    (answered : rehash.step store work = .ok outcome) :
    outcome.state.isActive = false ↔ rehash.older.count ≤ work := by
  obtain ⟨_, drained, same, stepped⟩ := sound.step work
  obtain rfl := Except.ok.inj (answered.symm.trans same)
  cases active : rehash.isActive with
  | false =>
      have empty := sound.pair.soundSource.count_eq_zero (rehash.isActive_eq_false_iff.1 active)
      rw [stepped.silent active, empty]
      exact iff_of_true active (Nat.zero_le work)
  | true =>
      constructor
      · intro ended
        apply Nat.le_of_not_lt
        intro more
        rw [isActive_eq_false_iff, (stepped.running more).1.capacity, ← isActive_eq_false_iff,
          active] at ended
        exact nomatch ended
      · intro enough
        rw [stepped.finished active enough]
        rfl

/-- Two steps in a row come to one step with the work of both. -/
theorem step_add (sound : rehash.Sound store newer older) {first second : Nat}
    {left right : Outcome (Rehash Id) Store Nat} (one : rehash.step store first = .ok left)
    (two : left.state.step left.store second = .ok right) :
    ∃ whole, rehash.step store (first + second) = .ok whole ∧
      whole.result = left.result + right.result ∧ whole.state = right.state ∧
      whole.store = right.store := by
  obtain ⟨whole, _, answered, _⟩ := sound.step (first + second)
  refine ⟨whole, answered, ?_⟩
  cases active : rehash.isActive with
  | false =>
      obtain rfl := Except.ok.inj ((step_of_inactive active store first).symm.trans one)
      obtain rfl := Except.ok.inj ((step_of_inactive active store second).symm.trans two)
      obtain rfl := Except.ok.inj ((step_of_inactive active store _).symm.trans answered)
      exact ⟨rfl, rfl, rfl⟩
  | true =>
      obtain ⟨between, begun, state⟩ := shifts_of_step one active
      obtain ⟨after, shifted, last⟩ := shifts_of_step answered active
      by_cases empty : between.older.count = 0
      · have ended : left.state.isActive = false := state ▸ isActive_release_of_empty empty
        obtain rfl := Except.ok.inj ((step_of_inactive ended left.store second).symm.trans two)
        obtain ⟨result, rfl, store⟩ := shifted.unique (begun.add (.stop (.inr empty)))
        exact ⟨result, last.trans state.symm, store⟩
      · rw [release_of_left empty] at state
        obtain ⟨_, drained, same, stepped⟩ := sound.step first
        obtain rfl := Except.ok.inj (one.symm.trans same)
        have going : left.state.isActive = true := by
          rw [isActive_iff, Nat.pos_iff_ne_zero]
          intro none
          exact empty (state ▸ stepped.sound.pair.soundSource.count_eq_zero none)
        obtain ⟨final, onward, ends⟩ := shifts_of_step two going
        rw [state] at onward
        obtain ⟨result, rfl, store⟩ := shifted.unique (begun.add onward)
        exact ⟨result, last.trans ends.symm, store⟩

/-- All amounts of work that are enough for the older table do the same. -/
theorem step_of_enough (sound : rehash.Sound store newer older) {other : Nat}
    {left right : Outcome (Rehash Id) Store Nat} (one : rehash.step store work = .ok left)
    (enough : rehash.older.count ≤ work) (two : rehash.step store other = .ok right)
    (plenty : rehash.older.count ≤ other) :
    left.result = right.result ∧ left.state = right.state ∧ left.store = right.store := by
  obtain ⟨exactly, _, answered, _⟩ := sound.step rehash.older.count
  have ended := (sound.step_ends_iff answered).2 (Nat.le_refl _)
  -- Whatever work is left after the last payload finds no episode.
  have surplus (amount : Nat) (outcome : Outcome (Rehash Id) Store Nat)
      (covers : rehash.older.count ≤ amount) (stepped : rehash.step store amount = .ok outcome) :
      outcome.result = exactly.result ∧ outcome.state = exactly.state ∧
        outcome.store = exactly.store := by
    obtain ⟨whole, same, agrees⟩ := sound.step_add answered
      (step_of_inactive ended exactly.store (amount - rehash.older.count))
    rw [Nat.add_sub_of_le covers] at same
    rwa [Except.ok.inj (stepped.symm.trans same)]
  obtain ⟨result, state, final⟩ := surplus work left enough one
  obtain ⟨again, alike, last⟩ := surplus other right plenty two
  exact ⟨result.trans again.symm, state.trans alike.symm, final.trans last.symm⟩

/-- Steps in a row come to one step with all their work. -/
theorem steps (sound : rehash.Sound store newer older) (work : Nat) (works : List Nat) :
    ∃ parts whole, rehash.steps store (work :: works) = .ok parts ∧
      rehash.step store (work :: works).sum = .ok whole ∧ parts.ComesTo whole := by
  obtain ⟨first, drained, answered, stepped⟩ := sound.step work
  induction works generalizing rehash store newer older work first drained with
  | nil =>
      have nothing : first.state.steps first.store [] = .ok ⟨[], first.state, first.store, []⟩ := rfl
      refine ⟨_, first, steps_cons answered nothing, ?_, ?_, rfl, rfl⟩
      · rwa [List.sum_singleton]
      · rw [List.sum_singleton]
  | cons next works inductionHypothesis =>
      obtain ⟨second, left, later, onward⟩ := stepped.sound.step next
      obtain ⟨parts, rest, made, together, comes⟩ :=
        inductionHypothesis stepped.sound next second left later onward
      obtain ⟨whole, joined, result, state, final⟩ := sound.step_add answered together
      refine ⟨_, whole, steps_cons answered made, ?_, ?_, ?_, ?_⟩
      · rwa [List.sum_cons]
      · rw [List.sum_cons, comes.result, result]
      · exact comes.state.trans state.symm
      · exact comes.store.trans final.symm

/-- It does not matter into how many steps an episode of a table that a word can count is cut: any
steps in a row come to one step with all their work, as far as a word can name it, and to a drain as
soon as they end the episode. As many steps as there are payloads end it when each of them has work
to do. -/
theorem steps_merge (sound : rehash.Sound store newer older)
    (few : rehash.older.count ≤ wordLimit) (work : Nat) (works : List Nat) :
    ∃ parts whole drained, rehash.steps store (work :: works) = .ok parts ∧
      rehash.step store (saturate (work :: works).sum) = .ok whole ∧
      rehash.drain store = .ok drained ∧ parts.ComesTo whole ∧
      (parts.state.isActive = false → parts.ComesTo drained) ∧
      ((∀ amount ∈ work :: works, 0 < amount) → rehash.older.count ≤ (work :: works).length →
        parts.state.isActive = false) := by
  obtain ⟨parts, exactly, made, together, comes⟩ := sound.steps work works
  obtain ⟨whole, _, answered, _⟩ := sound.step (saturate (work :: works).sum)
  obtain ⟨drained, _, emptied, _⟩ := sound.step wordLimit
  have ends : parts.state.isActive = false ↔ rehash.older.count ≤ (work :: works).sum := by
    rw [comes.state]
    exact sound.step_ends_iff together
  refine ⟨parts, whole, drained, made, answered, emptied, ?_, ?_, ?_⟩
  · rcases Nat.le_total (work :: works).sum wordLimit with fits | exceeds
    · rw [saturate_eq_self fits] at answered
      rwa [← Except.ok.inj (together.symm.trans answered)]
    · have capped : saturate (work :: works).sum = wordLimit := Nat.min_eq_right exceeds
      obtain ⟨result, state, final⟩ :=
        sound.step_of_enough together (few.trans exceeds) answered (capped ▸ few)
      exact ⟨comes.result.trans result, comes.state.trans state, comes.store.trans final⟩
  · intro ended
    obtain ⟨result, state, final⟩ :=
      sound.step_of_enough together (ends.1 ended) emptied few
    exact ⟨comes.result.trans result, comes.state.trans state, comes.store.trans final⟩
  · intro positive long
    exact ends.2 (long.trans (List.length_le_sum_of_one_le _ positive))

/-- Steps of one, of none and of five payloads come to a drain of all four. -/
theorem steps_merge_halving :
    halving.Sound IndexedArena.five Layout.two Layout.four ∧ halving.older.count ≤ wordLimit ∧
      ∃ parts drained, halving.steps IndexedArena.five [1, 0, 5] = .ok parts ∧
        halving.drain IndexedArena.five = .ok drained ∧ parts.result = [1, 0, 3] ∧
        drained.result = 4 ∧ parts.ComesTo drained := by
  have few : halving.older.count ≤ wordLimit := by decide
  obtain ⟨parts, whole, drained, made, _, emptied, _, drains, _⟩ :=
    sound_halving.steps_merge few 1 [0, 5]
  have ended : false = parts.state.isActive :=
    Except.ok.inj (congrArg (Except.map (isActive ∘ Outcome.state)) made)
  have numbers : [1, 0, 3] = parts.result := Except.ok.inj (congrArg (Except.map Outcome.result) made)
  have comes := drains ended.symm
  exact ⟨sound_halving, few, parts, drained, made, emptied, numbers.symm,
    comes.result.symm.trans (congrArg List.sum numbers.symm), comes⟩

end Sound

end Rehash

end IncrementalMap
