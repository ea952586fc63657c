/-
This file proves when a map refuses a call, and that a refusal changes nothing.
-/

import IncrementalMap.Proofs.Run.Reachable

namespace IncrementalMap

/-- An allocator refuses a capacity only for lack of memory. -/
theorem Table.allocate_eq_error_iff {Id : Type} {slots : Nat} (valid : IsCapacity slots)
    {allocator : Allocator} {error : MapError} :
    (allocate allocator slots : Except MapError (Table Id)) = .error error ↔
      allocator slots = false ∧ error = .allocationFailure := by
  rw [allocate, valid.capacityFor?]
  cases granted : allocator slots <;> simp [granted, eq_comm]

namespace Map

/-- A resize realizes the least capacity that covers its target and every payload. -/
def Realizes {Id : Type} (map : Map Id) (target realized : Nat) : Prop :=
  IsLeast {capacity | IsCapacity capacity ∧ target ≤ capacity ∧ map.size ≤ capacity} realized

/-- A resize is refused for a target that is no capacity, or for lack of memory when the realized
capacity needs a fresh table. A map of more than 2^63 payloads has no capacity to be resized to. -/
def RefusesResize {Id : Type} (map : Map Id) (allocator : Allocator) (target : Nat)
    (needs : Nat → Prop) (error : MapError) : Prop :=
  (¬IsCapacity target ∨ 2 ^ 63 < map.size) ∧ error = .invalidCapacity target ∨
    IsCapacity target ∧ ∃ realized, map.Realizes target realized ∧ needs realized ∧
      allocator realized = false ∧ error = .allocationFailure

end Map

/-- These are the errors with which a map refuses a call. An insertion and a reservation can fail
only before the first table, and a search, a clear or a visit never. -/
def Call.Refuses {Id Content Memory : Type} (call : Call Id Content Memory)
    (allocator : Allocator) (map : Map Id) (error : MapError) : Prop :=
  match call with
  | .insert _ => map.rehash.newer.isAllocated = false ∧
      allocator map.config.initialCapacity = false ∧ error = .allocationFailure
  | .reserve requested => map.rehash.newer.isAllocated = false ∧
      (Table.allocate allocator requested : Except MapError (Table Id)) = .error error
  | .resize target =>
      map.RefusesResize allocator target (fun realized => map.capacity ≠ realized) error
  | .resizeAtOnce target => map.RefusesResize allocator target
      (fun realized => map.capacity ≠ realized ∨ map.isRehashing = true) error
  | _ => False

namespace Map

/-- The goal of a resize is refused for its target, or it is the realized capacity. -/
theorem resizeGoal_cases {Id : Type} (map : Map Id) (target : Nat) :
    (¬IsCapacity target ∨ 2 ^ 63 < map.size) ∧
        map.resizeGoal target = .error (.invalidCapacity target) ∨
      IsCapacity target ∧ ∃ realized, map.Realizes target realized ∧
        map.resizeGoal target = .ok realized := by
  unfold resizeGoal
  split <;> rename_i valid
  · exact .inl ⟨.inl valid, rfl⟩
  have capacity := not_not.1 valid
  split <;> rename_i covers
  · exact .inr ⟨capacity, target, ⟨⟨capacity, Nat.le_refl _, covers⟩, fun _ other => other.2.1⟩, rfl⟩
  split <;> rename_i rounded
  · have roomy := le_of_capacityFor? rounded
    refine .inr ⟨capacity, _, ⟨⟨isCapacity_of_capacityFor? rounded, by omega, roomy⟩, ?_⟩, rfl⟩
    intro other bounds
    exact capacityFor?_le rounded bounds.1 bounds.2.2
  · refine .inl ⟨.inr ?_, rfl⟩
    by_contra few
    have half : IsCapacity (2 ^ 63) := ⟨63, by decide, by decide⟩
    obtain ⟨slots, found⟩ :=
      exists_capacityFor? (by omega : map.size ≠ 0) half (Nat.le_of_not_lt few)
    exact nomatch rounded.symm.trans found

/-- This is the reply of a resize that needs a fresh table for some goals. -/
def resizeReply {Id : Type} (map : Map Id) (allocator : Allocator) (target : Nat)
    (needs : Nat → Prop) [DecidablePred needs] : Except MapError Unit :=
  match map.resizeGoal target with
  | .error error => .error error
  | .ok capacity =>
      if needs capacity then
        (Table.allocate allocator capacity : Except MapError (Table Id)).map fun _ => ()
      else
        .ok ()

/-- Only a map of at most 2^63 payloads has a capacity to be resized to. -/
theorem Realizes.size_le {Id : Type} {map : Map Id} {target realized : Nat}
    (realizes : map.Realizes target realized) : map.size ≤ 2 ^ 63 :=
  realizes.1.2.2.trans realizes.1.1.le_half

/-- A realized capacity leaves no reason to refuse but memory. -/
theorem Realizes.refusesResize_iff {Id : Type} {map : Map Id} {target realized : Nat}
    (realizes : map.Realizes target realized) (valid : IsCapacity target) {allocator : Allocator}
    {needs : Nat → Prop} {error : MapError} :
    map.RefusesResize allocator target needs error ↔
      needs realized ∧ allocator realized = false ∧ error = .allocationFailure := by
  constructor
  · rintro (⟨invalid | many, _⟩ | ⟨_, other, same, needed, short⟩)
    · exact absurd valid invalid
    · exact absurd realizes.size_le (Nat.not_le_of_lt many)
    · obtain rfl := realizes.unique same
      exact ⟨needed, short⟩
  · intro short
    exact .inr ⟨valid, realized, realizes, short⟩

/-- The reply is an error exactly when the resize is refused. -/
theorem resizeReply_eq_error_iff {Id : Type} {map : Map Id} {allocator : Allocator} {target : Nat}
    {needs : Nat → Prop} [DecidablePred needs] {error : MapError} :
    map.resizeReply allocator target needs = .error error ↔
      map.RefusesResize allocator target needs error := by
  rcases map.resizeGoal_cases target with ⟨invalid, goal⟩ | ⟨valid, realized, realizes, goal⟩
  · unfold resizeReply
    rw [goal]
    constructor
    · intro refused
      exact .inl ⟨invalid, (Except.error.inj refused).symm⟩
    · rintro (⟨_, rfl⟩ | ⟨valid, realized, realizes, _⟩)
      · rfl
      · have few := realizes.size_le
        rcases invalid with invalid | many
        · exact absurd valid invalid
        · exact absurd few (Nat.not_le_of_lt many)
  · rw [realizes.refusesResize_iff valid]
    unfold resizeReply
    rw [goal]
    dsimp only
    split <;> rename_i needed
    · rw [← @Table.allocate_eq_error_iff Id _ realizes.1.1]
      rcases (Table.allocate allocator realized : Except MapError (Table Id)) with refused | fresh
      · simp [needed, Except.map]
      · simp [Except.map]
    · simp [needed]

/-- The reply of a resize follows from its goal and from memory. -/
theorem resize_result {Store Id Content : Type} [Arena Store Id Content] {map : Map Id}
    {store : Store} {allocator : Allocator} {target : Nat}
    {outcome : Outcome (Map Id) Store (Except MapError Unit)}
    (answered : map.resize store allocator target = .ok outcome) :
    outcome.result = map.resizeReply allocator target fun goal => map.capacity ≠ goal := by
  unfold resize at answered
  unfold resizeReply
  rcases goal : map.resizeGoal target with error | capacity <;> rw [goal] at answered
  · obtain rfl := Except.ok.inj answered
    rfl
  dsimp only at answered ⊢
  split at answered <;> rename_i already
  · obtain ⟨_, _, ended⟩ := exists_of_bind_eq_ok answered
    obtain rfl := Except.ok.inj ended
    rw [if_neg (not_not.2 already)]
  rw [if_pos already]
  split at answered <;> rename_i made
  · obtain rfl := Except.ok.inj answered
    rw [made]
    rfl
  · rw [made]
    obtain ⟨_, _, drained⟩ := exists_of_bind_eq_ok answered
    split at drained
    · obtain ⟨_, _, ended⟩ := exists_of_bind_eq_ok drained
      obtain rfl := Except.ok.inj ended
      rfl
    · obtain rfl := Except.ok.inj drained
      rfl

/-- The reply of a resize at once also follows from whether an episode runs. -/
theorem resizeAtOnce_result {Store Id Content : Type} [Arena Store Id Content] {map : Map Id}
    {store : Store} {allocator : Allocator} {target : Nat}
    {outcome : Outcome (Map Id) Store (Except MapError Unit)}
    (answered : map.resizeAtOnce store allocator target = .ok outcome) :
    outcome.result = map.resizeReply allocator target
      fun goal => map.capacity ≠ goal ∨ map.isRehashing = true := by
  unfold resizeAtOnce at answered
  unfold resizeReply
  rcases goal : map.resizeGoal target with error | capacity <;> rw [goal] at answered
  · obtain rfl := Except.ok.inj answered
    rfl
  dsimp only at answered ⊢
  have needed : map.capacity ≠ capacity ∨ map.isRehashing = true ↔
      ¬(map.capacity = capacity ∧ ¬map.isRehashing = true) := by
    rw [not_and_or, not_not]
  rw [if_congr needed rfl rfl]
  split at answered <;> rename_i already
  · obtain rfl := Except.ok.inj answered
    rw [if_neg (not_not.2 already)]
  rw [if_pos already]
  split at answered <;> rename_i made
  · obtain rfl := Except.ok.inj answered
    rw [made]
    rfl
  · rw [made]
    obtain ⟨_, _, first⟩ := exists_of_bind_eq_ok answered
    obtain ⟨_, _, second⟩ := exists_of_bind_eq_ok first
    obtain rfl := Except.ok.inj second
    rfl

/-- The first table is refused before anything is allocated, and for lack of memory only. -/
theorem firstTable_eq_error_iff {Id : Type} {map : Map Id} (valid : map.config.validate = .ok ())
    {allocator : Allocator} {error : MapError} :
    map.firstTable allocator = .error error ↔ map.rehash.newer.isAllocated = false ∧
      allocator map.config.initialCapacity = false ∧ error = .allocationFailure := by
  have initial := ((Config.validate_eq_ok_iff _).1 valid).1
  rw [firstTable, ← @Table.allocate_eq_error_iff Id _ initial]
  cases map.rehash.newer.isAllocated <;> simp

end Map

/-- A call is judged exactly when its reply is an error for the reasons to refuse it and for no
others, and when an error leaves the map and the arena as they were and reports nothing. -/
structure Call.Judged {Store Id Content Memory : Type} [Arena Store Id Content]
    (call : Call Id Content Memory) (allocator : Allocator) (map : Map Id) (store : Store)
    (outcome : Outcome (Map Id) Store (Reply Id Content Memory)) : Prop where
  refuses : ∀ error, outcome.result = .done (.error error) ↔ call.Refuses allocator map error
  unchanged : ∀ error, outcome.result = .done (.error error) →
    outcome = ⟨.done (.error error), map, store, []⟩

/-- A call that is refused and changes nothing, or succeeds, is judged by its result. -/
theorem Call.Judged.of_done {Store Id Content Memory : Type} [Arena Store Id Content]
    {call : Call Id Content Memory} {allocator : Allocator} {map : Map Id} {store : Store}
    {outcome : Outcome (Map Id) Store (Except MapError Unit)}
    (refuses : ∀ error, outcome.result = .error error ↔ call.Refuses allocator map error)
    (ends : (∃ error, outcome = ⟨.error error, map, store, []⟩) ∨ outcome.result = .ok ()) :
    call.Judged allocator map store (outcome.withReply .done) where
  refuses error := by
    rw [← refuses error]
    exact Reply.done.injEq _ _ ▸ Iff.rfl
  unchanged error failed := by
    have result : outcome.result = .error error := Reply.done.inj failed
    obtain ⟨other, rfl⟩ | succeeded := ends
    · rw [← Except.error.inj result]
      rfl
    · exact nomatch result.symm.trans succeeded

/-- A call that never fails is judged by its reply. -/
theorem Call.Judged.of_succeeds {Store Id Content Memory : Type} [Arena Store Id Content]
    {call : Call Id Content Memory} {allocator : Allocator} {map : Map Id} {store : Store}
    {outcome : Outcome (Map Id) Store (Reply Id Content Memory)} (succeeds : outcome.result.Succeeds)
    (never : ∀ error, ¬call.Refuses allocator map error) :
    call.Judged allocator map store outcome where
  refuses error := iff_of_false (succeeds error) (never error)
  unchanged error failed := absurd failed (succeeds error)

namespace Map

/-- A reservation is refused before anything is allocated, and then for the same reason as its
table. -/
theorem reserve_eq_error_iff {Id : Type} {map : Map Id} {allocator : Allocator} {requested : Nat}
    {error : MapError} :
    map.reserve allocator requested = .error error ↔ map.rehash.newer.isAllocated = false ∧
      (Table.allocate allocator requested : Except MapError (Table Id)) = .error error := by
  rw [reserve]
  cases map.rehash.newer.isAllocated with
  | true => simp
  | false =>
      rcases (Table.allocate allocator requested : Except MapError (Table Id)) with refused | fresh
      · simp [bind, Except.bind]
      · simp [bind, Except.bind, pure, Except.pure]

/-- A growth that starts no episode leaves the tables and the cursor as they are. -/
theorem grow_of_deferred {Id : Type} {rehash : Rehash Id} {allocator : Allocator} {target : Nat}
    (deferred : (rehash.grow allocator target).1 = false) :
    (rehash.grow allocator target).2.1 = rehash := by
  cases active : rehash.isActive with
  | true => simp [Rehash.grow, active]
  | false =>
      rcases made : (Table.allocate allocator target : Except MapError (Table Id)) with error | fresh
      · simp [Rehash.grow, active, made]
      · simp [Rehash.grow, active, made] at deferred

namespace Links

variable {Store Id Content Memory : Type} [Arena Store Id Content] [LawfulArena Store]
  [DecidableEq Id] {map : Map Id} {store : Store} {linked : Finset Id}

/-- An insertion is judged by its first table. -/
theorem judged_insert (links : map.Links store linked) (allocator : Allocator) {id : Id}
    (present : (Arena.node? store id).isSome) (fresh : id ∉ linked) :
    ∃ outcome, (Call.insert id : Call Id Content Memory).perform allocator map store = .ok outcome ∧
      (Call.insert id).Judged allocator map store outcome := by
  have valid := links.valid
  obtain ⟨listed, holds, rfl⟩ := links
  obtain ⟨outcome, answered, ends⟩ := holds.insert allocator present (by simpa using fresh)
  have returned : (Call.insert id : Call Id Content Memory).perform allocator map store =
      .ok (outcome.withReply .done) := by
    rw [Call.perform, answered]
    rfl
  refine ⟨_, returned, .of_done ?_ ?_⟩
  · intro error
    rw [Call.Refuses, ← firstTable_eq_error_iff valid, insert_result answered]
    cases map.firstTable allocator <;> simp [Except.map]
  · obtain ⟨error, refused, _⟩ | ⟨succeeded, _⟩ := ends
    · exact .inl ⟨error, refused⟩
    · exact .inr succeeded

/-- A resize is judged by its goal. -/
theorem judged_resize (links : map.Links store linked) (allocator : Allocator) (target : Nat) :
    ∃ outcome, (Call.resize target : Call Id Content Memory).perform allocator map store =
        .ok outcome ∧
      (Call.resize target).Judged allocator map store outcome := by
  obtain ⟨listed, ⟨newer, older, sound, _⟩, _⟩ := links
  obtain ⟨outcome, answered, resizes⟩ := sound.resize allocator target
  have returned : (Call.resize target : Call Id Content Memory).perform allocator map store =
      .ok (outcome.withReply .done) := by
    rw [Call.perform, answered]
    rfl
  refine ⟨_, returned, .of_done ?_ ?_⟩
  · intro error
    rw [resize_result answered]
    exact resizeReply_eq_error_iff
  · obtain refused | ⟨_, _, _, resized⟩ := resizes
    · exact .inl refused
    · exact .inr resized.result

/-- A resize at once is judged by its goal and by the episode that runs. -/
theorem judged_resizeAtOnce (links : map.Links store linked) (allocator : Allocator)
    (target : Nat) :
    ∃ outcome, (Call.resizeAtOnce target : Call Id Content Memory).perform allocator map store =
        .ok outcome ∧
      (Call.resizeAtOnce target).Judged allocator map store outcome := by
  obtain ⟨listed, ⟨newer, older, sound, _⟩, _⟩ := links
  obtain ⟨outcome, answered, resizes⟩ := sound.resizeAtOnce allocator target
  have returned : (Call.resizeAtOnce target : Call Id Content Memory).perform allocator map store =
      .ok (outcome.withReply .done) := by
    rw [Call.perform, answered]
    rfl
  refine ⟨_, returned, .of_done ?_ ?_⟩
  · intro error
    rw [resizeAtOnce_result answered]
    exact resizeReply_eq_error_iff
  · obtain refused | ⟨_, _, _, _, resized⟩ := resizes
    · exact .inl refused
    · exact .inr resized.result

/-- A legal call always returns, and it is judged. -/
theorem judged (links : map.Links store linked) (allocator : Allocator)
    {call : Call Id Content Memory} (legal : call.Legal linked store) :
    ∃ outcome, call.perform allocator map store = .ok outcome ∧
      call.Judged allocator map store outcome := by
  obtain ⟨outcome, returned, performed⟩ := links.answer allocator legal
  have answers := performed.answers
  cases call with
  | insert id => exact links.judged_insert allocator legal.1 legal.2
  | resize target => exact links.judged_resize allocator target
  | resizeAtOnce target => exact links.judged_resizeAtOnce allocator target
  | reserve requested =>
      rcases reserved : map.reserve allocator requested with refusal | ⟨after, events⟩
      · have failed : (Call.reserve requested : Call Id Content Memory).perform allocator map
            store = .ok (Outcome.withReply .done ⟨.error refusal, map, store, []⟩) := by
          rw [Call.perform, reserved]
          rfl
        refine ⟨_, failed, .of_done ?_ (.inl ⟨refusal, rfl⟩)⟩
        intro error
        rw [Call.Refuses, ← reserve_eq_error_iff, reserved, Except.error.injEq, Except.error.injEq]
      · have done : (Call.reserve requested : Call Id Content Memory).perform allocator map
            store = .ok (Outcome.withReply .done ⟨.ok (), after, store, events⟩) := by
          rw [Call.perform, reserved]
          rfl
        refine ⟨_, done, .of_done ?_ (.inr rfl)⟩
        intro error
        rw [Call.Refuses, ← reserve_eq_error_iff, reserved]
        simp
  | lookup query memory =>
      obtain ⟨_, _, found⟩ := answers
      exact ⟨outcome, returned, .of_succeeds (found ▸ .found) fun _ => id⟩
  | delete query memory =>
      obtain ⟨_, _, found⟩ := answers
      exact ⟨outcome, returned, .of_succeeds (found ▸ .found) fun _ => id⟩
  | clear =>
      have cleared : outcome.result = .done (.ok ()) := answers
      exact ⟨outcome, returned, .of_succeeds (cleared ▸ .done) fun _ => id⟩
  | visit =>
      obtain ⟨_, visited, _⟩ := answers
      exact ⟨outcome, returned, .of_succeeds (visited ▸ .visited) fun _ => id⟩

end Links

/-- Every legal call of a reachable map returns, is refused for exactly the reasons there are to
refuse it, and then changes nothing. A growth that starts no episode changes nothing either. -/
theorem Reachable.refuses_exactly {Store Id Content : Type} [Arena Store Id Content]
    [LawfulArena Store] [DecidableEq Id] {map : Map Id} {store : Store} {linked : Finset Id}
    (reachable : map.Reachable store linked) (allocator : Allocator) :
    (∀ {Memory : Type} (call : Call Id Content Memory), call.Legal linked store →
      ∃ outcome, call.perform allocator map store = .ok outcome ∧
        call.Judged allocator map store outcome) ∧
      ∀ target, (map.rehash.grow allocator target).1 = false →
        (map.rehash.grow allocator target).2.1 = map.rehash := by
  constructor
  · intro Memory call legal
    exact reachable.links.judged allocator legal
  · intro target
    exact grow_of_deferred

/-- In the middle of an episode and without memory, a resize is refused for its target first, and a
resize at once for the table that it needs. Both leave the episode as it stands, and so does a
growth. -/
theorem Reachable.refuses_exactly_midway :
    ∃ map : Map Nat, map.Reachable IndexedArena.three {2, 1, 0} ∧ map.isRehashing = true ∧
      (Call.resize 3 : Call Nat Char Unit).perform (fun _ => false) map IndexedArena.three =
        .ok ⟨.done (.error (.invalidCapacity 3)), map, IndexedArena.three, []⟩ ∧
      (Call.resizeAtOnce 8 : Call Nat Char Unit).perform (fun _ => false) map
          IndexedArena.three = .ok ⟨.done (.error .allocationFailure), map, IndexedArena.three, []⟩ ∧
      (map.rehash.grow (fun _ => false) 16).2.1 = map.rehash := by
  obtain ⟨answers, deferred⟩ := Reachable.three_resized.refuses_exactly fun _ => false
  obtain ⟨resized, returned, judged⟩ := answers (Call.resize 3 : Call Nat Char Unit) trivial
  obtain ⟨gathered, returnedAtOnce, judgedAtOnce⟩ :=
    answers (Call.resizeAtOnce 8 : Call Nat Char Unit) trivial
  have invalid := judged.unchanged _ ((judged.refuses (.invalidCapacity 3)).2
    (.inl ⟨.inl (by decide), rfl⟩))
  have short := judgedAtOnce.unchanged _ ((judgedAtOnce.refuses .allocationFailure).2
    (.inr ⟨by decide, 8, ⟨⟨by decide, by decide, by decide⟩, fun _ other => other.2.1⟩, .inr rfl,
      rfl, rfl⟩))
  rw [invalid] at returned
  rw [short] at returnedAtOnce
  exact ⟨_, .three_resized, rfl, returned, returnedAtOnce, deferred 16 rfl⟩

end Map

end IncrementalMap
