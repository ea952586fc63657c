/-
This file weighs the payloads left in the older table twice and proves that growth keeps pace.
-/

import IncrementalMap.Proofs.Map.Insert

namespace IncrementalMap

/-- One kind of event reports a growth that memory did not allow. -/
def Event.defersGrowth : Event → Bool
  | .growthDeferred .. => true
  | _ => false

/-- A table that counts to its load in words is full, as long as no count saturates. -/
theorem Config.fullAt_le {config : Config} {capacity count : Nat} (small : count < 2 ^ 63) :
    config.fullAt capacity ≤ count ↔ config.maxLoadFactor * capacity ≤ count := by
  have word : 2 ^ 63 ≤ wordLimit := by decide
  rw [fullAt, saturate, Nat.mul_comm]
  omega

/-- A capacity below the largest one is doubled by rounding. -/
theorem IsCapacity.eq_double {slots doubled : Nat} (capacity : IsCapacity slots)
    (below : slots < 2 ^ 63)
    (rounded : IncrementalMap.capacityFor? (saturate (slots * 2)) = some doubled) :
    doubled = slots * 2 := by
  have fits : slots * 2 ≤ wordLimit := by
    have word : 2 ^ 63 - 1 + (2 ^ 63 - 1) ≤ wordLimit := by decide
    omega
  rw [saturate_eq_self fits, (capacity.double below).capacityFor?] at rounded
  exact (Option.some.inj rounded).symm

namespace Gauge

/-- A growth that is not deferred leaves the table alone before it is full and doubles it then. -/
theorem Grows.undeferred {gauge after : Gauge} {config : Config} {grown : List Event}
    (grows : (gauge.arrive gauge.capacity).Grows config grown after)
    (valid : IsCapacity gauge.capacity) (load : 0 < config.maxLoadFactor)
    (small : gauge.size + 1 < 2 ^ 63) (undeferred : ∀ event ∈ grown, event.defersGrowth = false) :
    after = gauge.arrive gauge.capacity ∧
        (gauge.olderCapacity = 0 → gauge.newer + 1 < config.maxLoadFactor * gauge.capacity) ∨
      after = (gauge.arrive gauge.capacity).start (gauge.capacity * 2) ∧
        gauge.olderCapacity = 0 ∧ config.maxLoadFactor * gauge.capacity ≤ gauge.newer + 1 ∧
        IsCapacity (gauge.capacity * 2) := by
  have total : gauge.size = gauge.newer + gauge.older := rfl
  have fullIff : config.fullAt gauge.capacity ≤ gauge.newer + 1 ↔
      config.maxLoadFactor * gauge.capacity ≤ gauge.newer + 1 := Config.fullAt_le (by omega)
  cases grows with
  | early notDue =>
      left
      constructor
      · rfl
      · intro alone
        exact Nat.lt_of_not_le fun full => notDue ⟨alone, fullIff.2 full⟩
  | started due twice rounded =>
      have full := fullIff.1 due.2
      have slots := Nat.le_mul_of_pos_left gauge.capacity load
      have wide : gauge.capacity < 2 ^ 63 := by omega
      obtain rfl := valid.eq_double wide rounded
      exact .inr ⟨rfl, due.1, full, valid.double wide⟩
  | deferred due error =>
      exact absurd (undeferred _ (List.mem_singleton_self _)) (by simp [Event.defersGrowth])

/-- An insertion raises the size by one, whether a growth starts or not. -/
theorem Grows.size_arrive {gauge after : Gauge} {config : Config} {capacity : Nat}
    {grown : List Event} (grows : (gauge.arrive capacity).Grows config grown after)
    (resting : gauge.olderCapacity = 0 → gauge.older = 0) : after.size = gauge.size + 1 := by
  cases grows with
  | early notDue =>
      dsimp only [Gauge.arrive, size]
      omega
  | started due twice rounded =>
      have empty := resting due.1
      dsimp only [Gauge.arrive, Gauge.start, size]
      omega
  | deferred due error =>
      dsimp only [Gauge.arrive, size]
      omega

/-- A growth starts on a valid capacity, and otherwise the capacity stays. -/
theorem Grows.isCapacity {gauge after : Gauge} {config : Config} {grown : List Event}
    (grows : gauge.Grows config grown after) (valid : IsCapacity gauge.capacity) :
    IsCapacity after.capacity := by
  cases grows with
  | early notDue => exact valid
  | started due twice rounded => exact isCapacity_of_capacityFor? rounded
  | deferred due error => exact valid

/-- A gauge is light when its payloads stay below a limit, though those of the older table weigh
twice, and when the older table is given up with its last payload. -/
structure Light (gauge : Gauge) (limit : Nat) : Prop where
  weighed : gauge.newer + 2 * gauge.older < limit
  resting : gauge.olderCapacity = 0 ↔ gauge.older = 0

namespace Light

/-- A gauge without payloads is light. -/
theorem blank {capacity limit : Nat} (positive : 0 < limit) : Light ⟨capacity, 0, 0, 0⟩ limit :=
  ⟨positive, Iff.rfl⟩

/-- A step only makes payloads lighter. -/
theorem step {gauge : Gauge} {limit : Nat} (light : gauge.Light limit) (work : Nat) :
    (gauge.step work).Light limit := by
  obtain ⟨weighed, resting⟩ := light
  unfold Gauge.step
  split
  · exact ⟨by dsimp only; omega, Iff.rfl⟩
  · exact ⟨by dsimp only; omega, by dsimp only; omega⟩

/-- A detachment takes a payload away. -/
theorem detach {gauge : Gauge} {limit : Nat} (light : gauge.Light limit) (side : Side) :
    (gauge.detach side).Light limit := by
  obtain ⟨weighed, resting⟩ := light
  cases side with
  | newer => exact ⟨by dsimp only [Gauge.detach]; omega, resting⟩
  | older =>
      dsimp only [Gauge.detach]
      split
      · exact ⟨by dsimp only; omega, Iff.rfl⟩
      · exact ⟨by dsimp only; omega, by dsimp only; omega⟩

/-- A step of an episode makes up for one payload that is too heavy. -/
theorem of_step {gauge : Gauge} {limit work : Nat} (weighed : gauge.newer + 2 * gauge.older ≤ limit)
    (active : gauge.olderCapacity ≠ 0) (left : gauge.older ≠ 0) (positive : 0 < work) :
    (gauge.step work).Light limit := by
  unfold Gauge.step
  split
  · exact ⟨by dsimp only; omega, Iff.rfl⟩
  · exact ⟨by dsimp only; omega, by dsimp only; omega⟩

/-- An insertion keeps a gauge light, because it doubles the limit of a full table and otherwise
carries a running episode forward. The limit is the load of the table or a multiple of it. -/
theorem arrive {gauge after : Gauge} {config : Config} {slack : Nat} {grown : List Event}
    (light : gauge.Light (slack * (config.maxLoadFactor * gauge.capacity)))
    (valid : IsCapacity gauge.capacity) (load : 0 < config.maxLoadFactor) (slackPos : 0 < slack)
    (small : gauge.size + 1 < 2 ^ 63) (work : 0 < config.migrationWork)
    (grows : (gauge.arrive gauge.capacity).Grows config grown after)
    (undeferred : ∀ event ∈ grown, event.defersGrowth = false) :
    (after.step config.migrationWork).Light
      (slack * (config.maxLoadFactor * after.capacity)) := by
  obtain ⟨weighed, resting⟩ := light
  have limit := Nat.le_mul_of_pos_left (config.maxLoadFactor * gauge.capacity) slackPos
  rcases grows.undeferred valid load small undeferred with
    ⟨rfl, notFull⟩ | ⟨rfl, alone, full, _⟩
  · dsimp only [Gauge.arrive]
    by_cases alone : gauge.olderCapacity = 0
    · have empty := resting.1 alone
      have room := notFull alone
      apply step
      exact ⟨by dsimp only; omega, resting⟩
    · have left : gauge.older ≠ 0 := fun empty => alone (resting.2 empty)
      exact of_step (by dsimp only; omega) alone left work
  · -- All payloads lie in the older table now, so their double weight meets the doubled limit.
    have doubled : slack * (config.maxLoadFactor * (gauge.capacity * 2)) =
        2 * (slack * (config.maxLoadFactor * gauge.capacity)) := by ring
    dsimp only [Gauge.arrive, Gauge.start]
    exact of_step (by dsimp only; omega) (Nat.ne_of_gt valid.pos) (Nat.succ_ne_zero _) work

end Light

/-- A gauge keeps pace with the largest size that its map has reached when the capacity is the
first one doubled as often as this size asks for. The payloads of the older table weigh twice. -/
structure Paced (gauge : Gauge) (config : Config) (first peak : Nat) : Prop where
  valid : IsCapacity gauge.capacity
  doubled : ∃ doublings, gauge.capacity = first * 2 ^ doublings ∧
    ∀ fewer, fewer < doublings → config.maxLoadFactor * (first * 2 ^ fewer) ≤ peak
  weighed : gauge.newer + 2 * gauge.older < config.maxLoadFactor * gauge.capacity
  below : peak < config.maxLoadFactor * gauge.capacity
  counted : gauge.newer + gauge.older ≤ peak
  resting : gauge.olderCapacity = 0 ↔ gauge.older = 0

namespace Paced

/-- A gauge that keeps pace is light. -/
theorem light {gauge : Gauge} {config : Config} {first peak : Nat}
    (paced : gauge.Paced config first peak) :
    gauge.Light (config.maxLoadFactor * gauge.capacity) := ⟨paced.weighed, paced.resting⟩

/-- A gauge that stays light and gains no payload keeps pace with the same peak. -/
theorem of_light {gauge after : Gauge} {config : Config} {first peak : Nat}
    (paced : gauge.Paced config first peak) (same : after.capacity = gauge.capacity)
    (light : after.Light (config.maxLoadFactor * gauge.capacity)) (counted : after.size ≤ peak) :
    after.Paced config first peak := by
  obtain ⟨valid, doubled, _, below, _, _⟩ := paced
  rw [← same] at valid doubled below light
  exact ⟨valid, doubled, light.weighed, below, counted, light.resting⟩

/-- A first table keeps pace while it is blank. -/
theorem blank {config : Config} {capacity : Nat} (load : 0 < config.maxLoadFactor)
    (valid : IsCapacity capacity) : Paced ⟨capacity, 0, 0, 0⟩ config capacity 0 where
  valid := valid
  doubled := ⟨0, by simp, by simp⟩
  weighed := Nat.mul_pos load valid.pos
  below := Nat.mul_pos load valid.pos
  counted := Nat.le_refl 0
  resting := Iff.rfl

/-- A step moves payloads only. -/
theorem step {gauge : Gauge} {config : Config} {first peak : Nat}
    (paced : gauge.Paced config first peak) (work : Nat) :
    (gauge.step work).Paced config first peak :=
  paced.of_light (gauge.capacity_step work) (paced.light.step work)
    ((gauge.size_step work).trans_le paced.counted)

/-- A detachment takes a payload away. -/
theorem detach {gauge : Gauge} {config : Config} {first peak : Nat}
    (paced : gauge.Paced config first peak) (side : Side) :
    (gauge.detach side).Paced config first peak :=
  paced.of_light (gauge.capacity_detach side) (paced.light.detach side)
    ((gauge.size_detach_le side).trans paced.counted)

/-- An insertion keeps pace, because it grows a full table and otherwise carries a running episode
forward. No growth is due while an episode runs. -/
theorem arrive {gauge after : Gauge} {config : Config} {first peak : Nat} {grown : List Event}
    (paced : gauge.Paced config first peak) (small : gauge.size + 1 < 2 ^ 63)
    (work : 0 < config.migrationWork)
    (grows : (gauge.arrive gauge.capacity).Grows config grown after)
    (undeferred : ∀ event ∈ grown, event.defersGrowth = false) :
    (after.step config.migrationWork).Paced config first (max peak (gauge.size + 1)) := by
  obtain ⟨valid, ⟨doublings, capacity, needed⟩, weighed, below, counted, resting⟩ := paced
  have total : gauge.size = gauge.newer + gauge.older := rfl
  have load : 0 < config.maxLoadFactor := Nat.pos_of_mul_pos_right (Nat.zero_lt_of_lt weighed)
  have light : (after.step config.migrationWork).Light
      (1 * (config.maxLoadFactor * after.capacity)) :=
    Light.arrive ⟨(Nat.one_mul _).symm ▸ weighed, resting⟩ valid load Nat.one_pos small work grows
      undeferred
  rw [Nat.one_mul, ← after.capacity_step config.migrationWork] at light
  have higher : ∀ fewer, fewer < doublings →
      config.maxLoadFactor * (first * 2 ^ fewer) ≤ max peak (gauge.size + 1) :=
    fun fewer less => Nat.le_trans (needed fewer less) (Nat.le_max_left _ _)
  have size : ((after.step config.migrationWork).newer +
      (after.step config.migrationWork).older) = after.size := after.size_step _
  rcases grows.undeferred valid load small undeferred with
    ⟨rfl, notFull⟩ | ⟨rfl, alone, full, twice⟩
  · have room : gauge.size + 1 < config.maxLoadFactor * gauge.capacity := by
      by_cases alone : gauge.olderCapacity = 0
      · have empty := resting.1 alone
        have free := notFull alone
        omega
      · have left : gauge.older ≠ 0 := fun empty => alone (resting.2 empty)
        omega
    refine ⟨?_, ⟨doublings, ?_, higher⟩, light.weighed, ?_, ?_, light.resting⟩ <;>
      simp only [Gauge.capacity_step, size]
    · exact valid
    · exact capacity
    · exact Nat.max_lt.2 ⟨below, room⟩
    · dsimp only [Gauge.arrive, Gauge.size]
      omega
  · have empty := resting.1 alone
    have once : gauge.capacity * 2 = first * 2 ^ (doublings + 1) := by
      rw [capacity, Nat.pow_succ, Nat.mul_assoc]
    have neededOnce : ∀ fewer, fewer < doublings + 1 →
        config.maxLoadFactor * (first * 2 ^ fewer) ≤ max peak (gauge.size + 1) := by
      intro fewer less
      rcases Nat.lt_succ_iff_lt_or_eq.1 less with earlier | rfl
      · exact higher fewer earlier
      · rw [← capacity]
        omega
    have doubled : config.maxLoadFactor * (gauge.capacity * 2) =
        2 * (config.maxLoadFactor * gauge.capacity) := by ring
    refine ⟨?_, ⟨doublings + 1, ?_, neededOnce⟩, light.weighed, ?_, ?_, light.resting⟩ <;>
      simp only [Gauge.capacity_step, size]
    · exact twice
    · exact once
    · dsimp only [Gauge.start]
      omega
    · dsimp only [Gauge.arrive, Gauge.start, Gauge.size]
      omega

/-- The capacity is the least doubling of the first one whose load exceeds the peak. -/
theorem isLeast {gauge : Gauge} {config : Config} {first peak : Nat}
    (paced : gauge.Paced config first peak) :
    IsLeast {capacity | ∃ doublings, capacity = first * 2 ^ doublings ∧
      peak < config.maxLoadFactor * capacity} gauge.capacity := by
  obtain ⟨doublings, capacity, needed⟩ := paced.doubled
  constructor
  · exact ⟨doublings, capacity, paced.below⟩
  · rintro _ ⟨other, rfl, above⟩
    rw [capacity]
    apply Nat.mul_le_mul_left first
    apply Nat.pow_le_pow_right (by decide)
    by_contra fewer
    have full := needed other (Nat.lt_of_not_le fewer)
    omega

end Paced

end Gauge

end IncrementalMap
