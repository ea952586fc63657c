/-
This file holds the settings that govern growth.
-/

import IncrementalMap.Capacity
import IncrementalMap.Error

namespace IncrementalMap

/-- The settings fix the first table, the load at which a table grows, and the work of one call. -/
structure Config where
  initialCapacity : Nat := 4
  maxLoadFactor : Nat := 8
  migrationWork : Nat := 128
  deriving DecidableEq

/-- The first bad setting is reported, in the order of the fields. -/
def Config.validate (config : Config) : Except MapError Unit :=
  if ¬ IsCapacity config.initialCapacity then
    .error (.invalidCapacity config.initialCapacity)
  else if config.maxLoadFactor = 0 then
    .error (.invalidConfig "max_load_factor must be at least 1")
  else if config.migrationWork = 0 then
    .error (.invalidConfig "migration_work must be at least 1")
  else
    .ok ()

theorem Config.validate_eq_ok_iff (config : Config) :
    config.validate = .ok () ↔ IsCapacity config.initialCapacity ∧
      0 < config.maxLoadFactor ∧ 0 < config.migrationWork := by
  unfold Config.validate
  split <;> rename_i initial
  · simp [initial]
  · split <;> rename_i load
    · simp [load]
    · split <;> rename_i work
      · simp [work]
      · simp only [Decidable.not_not] at initial
        simp [initial, Nat.pos_of_ne_zero load, Nat.pos_of_ne_zero work]

/-- A table of this capacity is full at this many payloads. -/
def Config.fullAt (config : Config) (capacity : Nat) : Nat :=
  saturate (capacity * config.maxLoadFactor)

end IncrementalMap
