/-
This file proves that a resize ends at the promised capacity, with every payload and the right
episode.
-/

import IncrementalMap.Proofs.Run.Refusal
import IncrementalMap.Proofs.Run.Schedule

namespace IncrementalMap

/-- A resize realizes the larger one of its target and the least power of two that covers the
payloads. -/
theorem Map.Realizes.eq_max {Id : Type} {map : Map Id} {target realized floor : Nat}
    (realizes : map.Realizes target realized) (least : IsLeast (covers map.size) floor)
    (valid : IsCapacity target) (few : map.size < 2 ^ 63) : realized = max target floor := by
  apply realizes.unique
  constructor
  · refine ⟨?_, Nat.le_max_left _ _, least.1.2.trans (Nat.le_max_right _ _)⟩
    rcases Nat.le_total target floor with below | above
    · rw [Nat.max_eq_right below]
      exact isCapacity_of_isLeast least few
    · rw [Nat.max_eq_left above]
      exact valid
  · rintro other ⟨capacity, above, roomy⟩
    exact Nat.max_le.2 ⟨above, least.2 ⟨capacity.isPowerOfTwo, roomy⟩⟩

namespace Gauge

/-- The gauge that a resize leaves has the capacity of the goal. An episode runs only if a table of
another capacity was replaced, and its older table has all payloads but those of the first step. -/
structure Lands (gauge : Gauge) (work realized : Nat) (after : Gauge) : Prop where
  capacity : after.capacity = realized
  settled : gauge.capacity = realized ∨ gauge.capacity = 0 → after.olderCapacity = 0
  started : gauge.capacity ≠ realized → gauge.capacity ≠ 0 →
    after.olderCapacity = (if work < gauge.size then gauge.capacity else 0) ∧
      after.older = gauge.size - work

/-- A table that is replaced lands on the capacity of its replacement. -/
theorem replace_lands {gauge : Gauge} {realized : Nat} (differ : gauge.capacity ≠ realized)
    (few : gauge.older ≤ wordLimit) (config : Config) :
    gauge.Lands config.migrationWork realized (gauge.replace config realized).gauge := by
  have drained : gauge.step wordLimit = ⟨gauge.capacity, gauge.size, 0, 0⟩ := by
    rw [step, if_pos few, size]
  unfold replace
  rw [drained]
  by_cases bare : gauge.capacity = 0
  · rw [if_pos bare]
    exact ⟨rfl, fun _ => rfl, fun _ some => absurd bare some⟩
  · rw [if_neg bare]
    refine ⟨capacity_step _ _, fun same => (same.elim differ bare).elim, fun _ _ => ⟨?_, ?_⟩⟩
    · simp only [start, step, ← Nat.not_lt]
      split <;> simp_all
    · exact older_step _ _

/-- A resize that succeeds lands on its goal. -/
theorem resize_lands {gauge : Gauge} {config : Config} {allocator : Allocator}
    {target realized : Nat} (goal : gauge.goal target = .ok realized)
    (few : gauge.older ≤ wordLimit)
    (succeeded : (gauge.resize config allocator target).result = .ok ()) :
    gauge.Lands config.migrationWork realized (gauge.resize config allocator target).gauge := by
  unfold resize at succeeded ⊢
  rw [goal] at succeeded ⊢
  dsimp only at succeeded ⊢
  by_cases already : gauge.capacity = realized
  · rw [if_pos already, step, if_pos few]
    exact ⟨already, fun _ => rfl, fun differ => absurd already differ⟩
  · rw [if_neg already] at succeeded ⊢
    rcases granted : allocator.grant realized with error | slots
    · rw [granted] at succeeded
      cases succeeded
    · exact replace_lands already few config

/-- A resize at once that succeeds lands on its goal and leaves no older table. -/
theorem resizeAtOnce_lands {gauge : Gauge} {allocator : Allocator} {target realized : Nat}
    (goal : gauge.goal target = .ok realized)
    (succeeded : (gauge.resizeAtOnce allocator target).result = .ok ()) :
    (gauge.resizeAtOnce allocator target).gauge.capacity = realized ∧
      (gauge.resizeAtOnce allocator target).gauge.olderCapacity = 0 := by
  unfold resizeAtOnce at succeeded ⊢
  rw [goal] at succeeded ⊢
  dsimp only at succeeded ⊢
  by_cases already : gauge.capacity = realized ∧ gauge.olderCapacity = 0
  · rw [if_pos already]
    exact already
  · rw [if_neg already] at succeeded ⊢
    rcases granted : allocator.grant realized with error | slots
    · rw [granted] at succeeded
      cases succeeded
    · exact ⟨rfl, rfl⟩

end Gauge

namespace Map

/-- A map lands on a capacity when it has this capacity after a resize. No episode runs if the newer
table had it before or was not allocated. Otherwise an episode replaces whatever was running: it
drains the former newer table, exactly when a step does not move everything. -/
structure LandsOn {Id : Type} (map : Map Id) (goal : Nat) (after : Map Id) : Prop where
  capacity : after.capacity = goal
  settled : map.capacity = goal ∨ map.capacity = 0 → after.isRehashing = false
  migrates : map.capacity ≠ goal → map.capacity ≠ 0 →
    (after.isRehashing = true ↔ map.config.migrationWork < map.size) ∧
      (after.isRehashing = true → ∃ cursor, after.rehash.progress? =
        some ⟨cursor, map.capacity, map.size - map.config.migrationWork⟩)

/-- A map lands where its gauge does. -/
theorem LandsOn.of_gauge {Id : Type} {map after : Map Id} {goal : Nat}
    (lands : map.rehash.gauge.Lands map.config.migrationWork goal after.rehash.gauge) :
    map.LandsOn goal after where
  capacity := lands.capacity
  settled same := after.gauge_olderCapacity_eq_zero_iff.1 (lands.settled same)
  migrates differ allocated := by
    obtain ⟨former, left⟩ := lands.started differ allocated
    change after.rehash.older.capacity =
      if map.config.migrationWork < map.size then map.capacity else 0 at former
    change after.rehash.older.count = map.size - map.config.migrationWork at left
    have active : after.isRehashing = true ↔ map.config.migrationWork < map.size := by
      have some : 0 < map.capacity := Nat.pos_of_ne_zero allocated
      rw [isRehashing, Rehash.isActive_iff, former]
      split <;> rename_i more
      · exact iff_of_true some more
      · exact iff_of_false (Nat.lt_irrefl 0) more
    refine ⟨active, ?_⟩
    intro still
    rw [if_pos (active.1 still)] at former
    refine ⟨after.rehash.cursor, ?_⟩
    have running : after.rehash.isActive = true := still
    rw [Rehash.progress?, if_pos running, former, left]

/-- A goal that a resize realizes is the larger one of its target and the least power of two that
covers the payloads. -/
theorem resizeGoal_eq_max {Id : Type} {map : Map Id} {target floor : Nat}
    (least : IsLeast (covers map.size) floor) (valid : IsCapacity target)
    (few : map.size < 2 ^ 63) : map.resizeGoal target = .ok (max target floor) := by
  rcases map.resizeGoal_cases target with ⟨invalid | many, _⟩ | ⟨_, realized, realizes, goal⟩
  · exact absurd valid invalid
  · omega
  · rw [goal, realizes.eq_max least valid few]

/-- Every resize to a capacity, at once or not, links the same payloads, and when it succeeds its
map has the larger one of the target and the least power of two that covers the payloads for its
capacity. A resize at once leaves no episode, and the other one leaves the episode that it has
started, whatever episode was running before. -/
theorem Reachable.lands {Store Id Content Memory : Type} [Arena Store Id Content]
    [LawfulArena Store] [DecidableEq Id] {map : Map Id} {store : Store} {linked : Finset Id}
    (reachable : map.Reachable store linked) (few : map.size < 2 ^ 63) {target : Nat}
    (valid : IsCapacity target) (allocator : Allocator) :
    ∃ floor, IsLeast (covers map.size) floor ∧
      (∃ outcome, (Call.resize target : Call Id Content Memory).perform allocator map store =
          .ok outcome ∧
        (outcome.result = .done (.ok ()) → outcome.state.Links outcome.store linked ∧
          Arena.SamePayloads store outcome.store ∧ map.LandsOn (max target floor) outcome.state)) ∧
      ∃ outcome, (Call.resizeAtOnce target : Call Id Content Memory).perform allocator map store =
          .ok outcome ∧
        (outcome.result = .done (.ok ()) → outcome.state.Links outcome.store linked ∧
          Arena.SamePayloads store outcome.store ∧ outcome.state.capacity = max target floor ∧
          outcome.state.isRehashing = false) := by
  have links := reachable.links
  have least := isLeast_covers map.size
  have goal : map.rehash.gauge.goal target = .ok (max target (2 ^ Nat.clog 2 map.size)) :=
    resizeGoal_eq_max least valid few
  refine ⟨_, least, ?_, ?_⟩
  · have legal : (Call.resize target : Call Id Content Memory).Legal linked store := trivial
    obtain ⟨outcome, answered, performed⟩ := links.answer allocator legal
    obtain ⟨taken, follows⟩ := links.follows legal answered
    have turn : outcome.state.turn outcome.result.result outcome.events =
        map.rehash.gauge.resize map.config allocator target := follows.turn
    refine ⟨outcome, answered, ?_⟩
    intro succeeded
    rw [succeeded] at turn
    have lands := Gauge.resize_lands goal (older_count_le_of_goal goal)
      (congrArg Turn.result turn).symm
    rw [← turn] at lands
    exact ⟨performed.links, performed.payloads, .of_gauge lands⟩
  · have legal : (Call.resizeAtOnce target : Call Id Content Memory).Legal linked store := trivial
    obtain ⟨outcome, answered, performed⟩ := links.answer allocator legal
    obtain ⟨taken, follows⟩ := links.follows legal answered
    have turn : outcome.state.turn outcome.result.result outcome.events =
        map.rehash.gauge.resizeAtOnce allocator target := follows.turn
    refine ⟨outcome, answered, ?_⟩
    intro succeeded
    rw [succeeded] at turn
    obtain ⟨capacity, released⟩ := Gauge.resizeAtOnce_lands goal (congrArg Turn.result turn).symm
    rw [← turn] at capacity released
    exact ⟨performed.links, performed.payloads, capacity,
      outcome.state.gauge_olderCapacity_eq_zero_iff.1 released⟩

/-- A resize to two slots in the midst of an episode with three payloads lands on four slots, and
another episode drains the former eight. -/
theorem Reachable.lands_midway :
    ∃ map : Map Nat, map.Reachable IndexedArena.three {2, 1, 0} ∧ map.isRehashing = true ∧
      map.size < 2 ^ 63 ∧ IsCapacity 2 ∧
      ∃ outcome, (Call.resize 2 : Call Nat Char Unit).perform .addressSpace map
          IndexedArena.three = .ok outcome ∧ outcome.state.Links outcome.store {2, 1, 0} ∧
        outcome.state.capacity = 4 ∧
        ∃ cursor, outcome.state.rehash.progress? = some ⟨cursor, 8, 2⟩ := by
  have capacity : IsCapacity 2 := by decide
  obtain ⟨floor, least, ⟨outcome, answered, lands⟩, _⟩ :=
    @Reachable.lands _ _ Char Unit _ _ _ _ _ _ .three_resized (by decide) 2 capacity .addressSpace
  have succeeded : outcome.result = .done (.ok ()) :=
    (Except.ok.inj (congrArg (Except.map Outcome.result) answered)).symm
  obtain ⟨links, _, landed⟩ := lands succeeded
  obtain rfl : floor = 2 ^ Nat.clog 2 3 := least.unique (isLeast_covers 3)
  have log : Nat.clog 2 3 = 2 := by decide
  rw [log] at landed
  obtain ⟨active, progress⟩ := landed.migrates (by decide) (by decide)
  exact ⟨_, .three_resized, rfl, by decide, capacity, outcome, answered, links, landed.capacity,
    progress (active.2 (by decide))⟩

end Map

end IncrementalMap
