/-
This file proves that no resizing loads a map twice as much as its settings ask for.
-/

import IncrementalMap.Arena.Indexed
import IncrementalMap.Proofs.Run.History
import IncrementalMap.Proofs.Run.Pace

namespace IncrementalMap

/-- A call defers nothing when it reports no growth that memory did not allow. -/
def Entry.DefersNothing {Store Id Content Memory : Type} (entry : Entry Store Id Content Memory) :
    Prop :=
  ∀ event ∈ entry.outcome.events, event.defersGrowth = false

instance {Store Id Content Memory : Type} (entry : Entry Store Id Content Memory) :
    Decidable entry.DefersNothing :=
  inferInstanceAs (Decidable (∀ event ∈ entry.outcome.events, event.defersGrowth = false))

/-- This is the average number of payloads for a slot of the newer table. -/
def Map.averageChain {Id : Type} (map : Map Id) : ℚ := map.size / map.capacity

namespace Gauge

/-- A gauge is loaded when it is bare, or when its payloads stay below twice the load of its table,
though those of the older table weigh twice. -/
def Loaded (gauge : Gauge) (config : Config) : Prop :=
  gauge = ⟨0, 0, 0, 0⟩ ∨
    IsCapacity gauge.capacity ∧ gauge.Light (2 * (config.maxLoadFactor * gauge.capacity))

/-- A single table with a slot for each payload is loaded. -/
theorem Loaded.roomy {config : Config} {capacity count : Nat} (load : 0 < config.maxLoadFactor)
    (valid : IsCapacity capacity) (roomy : count ≤ capacity) :
    Loaded ⟨capacity, count, 0, 0⟩ config := by
  have slots := Nat.le_mul_of_pos_left capacity load
  have positive := valid.pos
  exact .inr ⟨valid, by dsimp only; omega, Iff.rfl⟩

namespace Loaded

variable {gauge : Gauge} {config : Config}

/-- A step moves payloads only. -/
theorem step (loaded : gauge.Loaded config) (work : Nat) : (gauge.step work).Loaded config := by
  rcases loaded with rfl | ⟨valid, light⟩
  · exact .inl (by simp [Gauge.step])
  · right
    rw [Gauge.capacity_step]
    exact ⟨valid, light.step work⟩

/-- A detachment takes a payload away. -/
theorem detach (loaded : gauge.Loaded config) (side : Side) :
    (gauge.detach side).Loaded config := by
  rcases loaded with rfl | ⟨valid, light⟩
  · left
    cases side <;> rfl
  · right
    rw [Gauge.capacity_detach]
    exact ⟨valid, light.detach side⟩

/-- Payloads only get lighter when the older table is drained. -/
theorem drain (loaded : gauge.Loaded config) : gauge.drain.Loaded config := by
  rcases loaded with rfl | ⟨valid, light⟩
  · exact .inl rfl
  · have weighed := light.weighed
    exact .inr ⟨valid, by dsimp only [Gauge.drain, size]; omega, Iff.rfl⟩

/-- An insertion doubles the limit of a full table and otherwise carries an episode forward. -/
theorem arrive {after : Gauge} {first : Nat} {grown : List Event} (loaded : gauge.Loaded config)
    (load : 0 < config.maxLoadFactor) (work : 0 < config.migrationWork) (valid : IsCapacity first)
    (kept : 0 < gauge.capacity → first = gauge.capacity)
    (grows : (gauge.arrive first).Grows config grown after) (small : after.size < 2 ^ 63)
    (undeferred : ∀ event ∈ grown, event.defersGrowth = false) :
    (after.step config.migrationWork).Loaded config := by
  have light : Light { gauge with capacity := first } (2 * (config.maxLoadFactor * first)) := by
    rcases loaded with rfl | ⟨former, light⟩
    · exact .blank (Nat.mul_pos Nat.two_pos (Nat.mul_pos load valid.pos))
    · obtain rfl := kept former.pos
      exact light
  rw [grows.size_arrive light.resting.1] at small
  right
  rw [Gauge.capacity_step]
  exact ⟨grows.isCapacity valid, light.arrive valid load Nat.two_pos small work grows undeferred⟩

/-- A resize leaves every payload a slot, so an episode that it starts weighs twice the capacity at
most. -/
theorem resizes {after : Gauge} {work : Nat} {result : Except MapError Unit}
    (loaded : gauge.Loaded config) (load : 0 < config.maxLoadFactor) (positive : 0 < work)
    (resizes : gauge.Resizes work result after) : after.Loaded config := by
  cases resizes with
  | refused error => exact loaded
  | drained => exact loaded.drain
  | gathered valid room => exact roomy load valid room
  | started valid room allocated =>
      rename_i capacity
      rcases Nat.eq_zero_or_pos gauge.size with empty | filled
      · have blank : (gauge.drain.start capacity).step work = ⟨capacity, 0, 0, 0⟩ := by
          simp [Gauge.drain, Gauge.start, Gauge.step, empty]
        rw [blank]
        exact roomy load valid (Nat.zero_le capacity)
      · right
        rw [Gauge.capacity_step]
        have slots := Nat.le_mul_of_pos_left capacity load
        exact ⟨valid, .of_step (by dsimp only [Gauge.start, Gauge.drain]; omega)
          (Nat.ne_of_gt allocated) (Nat.ne_of_gt filled) positive⟩

end Loaded

end Gauge

/-- Every call that defers no growth leaves a loaded gauge loaded. -/
theorem Call.Moves.loaded {Id Content Memory : Type} {config : Config} {first : Nat}
    {before after : Gauge} {call : Call Id Content Memory} {reply : Reply Id Content Memory}
    {events : List Event} (moves : Call.Moves config first before call reply events after)
    (valid : config.validate = .ok ()) (small : after.size < 2 ^ 63)
    (undeferred : ∀ event ∈ events, event.defersGrowth = false)
    (loaded : before.Loaded config) : after.Loaded config := by
  obtain ⟨_, load, work⟩ := (Config.validate_eq_ok_iff config).1 valid
  cases moves with
  | refused bare none => exact loaded
  | admitted valid kept grows =>
      rw [Gauge.size_step] at small
      exact loaded.arrive load work valid kept grows small fun event member =>
        undeferred event (List.mem_append_left _ member)
  | searched => exact loaded.step _
  | missed => exact loaded.step _
  | removed side => exact (loaded.step _).detach side
  | unreserved => exact loaded
  | reserved bare rounded =>
      exact .roomy load (isCapacity_of_capacityFor? rounded) (Nat.zero_le _)
  | cleared => exact .inl rfl
  | visited => exact loaded
  | resized resizes => exact loaded.resizes load work resizes
  | resizedAtOnce resizes => exact loaded.resizes load work resizes

namespace Run

/-- The gauge stays loaded in any run that defers no growth. -/
theorem loaded {Store Id Content Memory : Type} [Arena Store Id Content] [LawfulArena Store]
    [DecidableEq Id] {origin map : Map Id} {arena store : Store}
    {history : History Store Id Content Memory} (run : Run origin arena history map store)
    (undeferred : ∀ entry ∈ history, entry.DefersNothing) :
    map.rehash.gauge.Loaded map.config := by
  have valid := run.links.1.valid
  rw [run.config] at valid ⊢
  obtain ⟨_, load, _⟩ := (Config.validate_eq_ok_iff _).1 valid
  refine run.gauge_induction (motive := fun _ gauge => gauge.Loaded origin.config) undeferred ?_ ?_
  · intro isCapacity
    rcases Nat.eq_zero_or_pos origin.capacity with none | allocated
    · exact .inl (by rw [none])
    · exact .roomy load (isCapacity allocated) (Nat.zero_le _)
  · intro entry earlier undeferred loaded moves small
    exact moves.loaded valid small undeferred loaded

/-- Whatever resizes a run makes, the payloads stay below twice the configured load, though those
of the older table weigh twice. -/
theorem load_lt_twice {Store Id Content Memory : Type} [Arena Store Id Content]
    [LawfulArena Store] [DecidableEq Id] {origin map : Map Id} {arena store : Store}
    {history : History Store Id Content Memory} (run : Run origin arena history map store)
    (undeferred : ∀ entry ∈ history, entry.DefersNothing)
    (allocated : map.rehash.newer.isAllocated = true) :
    map.rehash.newer.count + 2 * map.rehash.older.count <
        2 * map.config.maxLoadFactor * map.capacity ∧
      map.averageChain < 2 * map.config.maxLoadFactor := by
  rw [Table.isAllocated_iff] at allocated
  rcases run.loaded undeferred with bare | ⟨valid, light⟩
  · exact absurd (congrArg Gauge.capacity bare) (Nat.ne_of_gt allocated)
  · have weighed : map.rehash.newer.count + 2 * map.rehash.older.count <
        2 * map.config.maxLoadFactor * map.capacity := by
      rw [Nat.mul_assoc]
      exact light.weighed
    have size : map.size < 2 * map.config.maxLoadFactor * map.capacity := by
      rw [Map.size, Rehash.size]
      omega
    have slots : (0 : ℚ) < map.capacity := Nat.cast_pos.2 allocated
    constructor
    · exact weighed
    · rw [Map.averageChain, div_lt_iff₀ slots]
      exact_mod_cast size

/-- A shrink to two slots leaves a payload in the older table, so the weight of both exceeds the
load that growth alone would keep. -/
theorem load_lt_twice_shrunk :
    ∃ (history : History (IndexedArena Char) Nat Char Unit) (map : Map Nat)
      (store : IndexedArena Char),
      Run (Map.empty ⟨4, 1, 1⟩) #[⟨.detached 3, 'a'⟩, ⟨.detached 4, 'b'⟩] history map store ∧
        map.rehash.newer.isAllocated = true ∧
        map.config.maxLoadFactor * map.capacity <
          map.rehash.newer.count + 2 * map.rehash.older.count ∧
        map.rehash.newer.count + 2 * map.rehash.older.count <
          2 * map.config.maxLoadFactor * map.capacity := by
  have start : Run (Map.empty ⟨4, 1, 1⟩)
      (#[⟨.detached 3, 'a'⟩, ⟨.detached 4, 'b'⟩] : IndexedArena Char)
      ([] : History _ Nat Char Unit) _ _ :=
    .start (.ofConfig ⟨4, 1, 1⟩ rfl) (Arena.fewerThan_of_size (by decide))
  have first := start.next (.insert 0) .addressSpace ⟨rfl, by decide⟩ rfl
  have second := first.next (.insert 1) .addressSpace ⟨rfl, by decide⟩ rfl
  have shrunk := second.next (.resize 1) .addressSpace trivial rfl
  refine ⟨_, _, _, shrunk, rfl, by decide, (shrunk.load_lt_twice ?_ rfl).1⟩
  simp only [List.forall_mem_cons, List.not_mem_nil, false_imp_iff, implies_true, and_true]
  refine ⟨?_, ?_, ?_⟩ <;> decide

end Run

end IncrementalMap
