/-
This file proves that a map without resizes and deferred growth grows exactly on time.
-/

import IncrementalMap.Arena.Indexed
import IncrementalMap.Proofs.Run.History
import IncrementalMap.Proofs.Run.Pace

namespace IncrementalMap

namespace Call

/-- An insertion or a reservation makes the first table, and a clear gives it up. -/
def firstCapacity {Id Content Memory : Type} (call : Call Id Content Memory)
    (first made reserved : Nat) : Nat :=
  match call with
  | .insert _ => if first = 0 then made else first
  | .reserve _ => if first = 0 then reserved else first
  | .clear => 0
  | _ => first

/-- Every call may raise the largest size, and a clear starts it again. -/
def peak {Id Content Memory : Type} (call : Call Id Content Memory) (peak size : Nat) : Nat :=
  match call with
  | .clear => 0
  | _ => max peak size

/-- These calls set a capacity of their own. -/
def Resizes {Id Content Memory : Type} (call : Call Id Content Memory) : Prop :=
  match call with
  | .resize _ | .resizeAtOnce _ => True
  | _ => False

end Call

namespace History

/-- This is the capacity of the first table since the last clear, and zero before there is one. -/
def firstCapacity {Store Id Content Memory : Type} (origin : Map Id) :
    History Store Id Content Memory → Nat
  | [] => origin.capacity
  | entry :: earlier => entry.call.firstCapacity (firstCapacity origin earlier)
      (entry.before.firstCapacity entry.allocator) entry.outcome.state.capacity

/-- This is the largest size that a call has left since the last clear. -/
def peak {Store Id Content Memory : Type} : History Store Id Content Memory → Nat
  | [] => 0
  | entry :: earlier => entry.call.peak (peak earlier) entry.outcome.state.size

end History

/-- A map grows by itself when no call resizes it and no call defers a growth. -/
structure Entry.GrowsFreely {Store Id Content Memory : Type}
    (entry : Entry Store Id Content Memory) : Prop where
  unresized : ¬entry.call.Resizes
  undeferred : ∀ event ∈ entry.outcome.events, event.defersGrowth = false

namespace Gauge

/-- A gauge follows the history of its map when it is bare before the first table and keeps pace
from then on. -/
def Follows (gauge : Gauge) (config : Config) (first peak : Nat) : Prop :=
  (gauge = ⟨0, 0, 0, 0⟩ ∧ first = 0 ∧ peak = 0) ∨ gauge.Paced config first peak

theorem Paced.first_ne_zero {gauge : Gauge} {config : Config} {first peak : Nat}
    (paced : gauge.Paced config first peak) : first ≠ 0 := by
  obtain ⟨doublings, capacity, _⟩ := paced.doubled
  rintro rfl
  rw [Nat.zero_mul] at capacity
  exact Nat.ne_of_gt paced.valid.pos capacity

/-- A gauge without payloads follows, with or without a first table. -/
theorem Follows.start {config : Config} {capacity : Nat} (load : 0 < config.maxLoadFactor)
    (valid : 0 < capacity → IsCapacity capacity) :
    Follows ⟨capacity, 0, 0, 0⟩ config capacity 0 := by
  rcases Nat.eq_zero_or_pos capacity with rfl | allocated
  · exact .inl ⟨rfl, rfl, rfl⟩
  · exact .inr (.blank load (valid allocated))

/-- A gauge that gains nothing still follows. -/
theorem Follows.keep {gauge after : Gauge} {config : Config} {first peak : Nat}
    (follows : gauge.Follows config first peak)
    (bare : gauge = ⟨0, 0, 0, 0⟩ → after = ⟨0, 0, 0, 0⟩)
    (paced : gauge.Paced config first peak → after.Paced config first peak) :
    after.Follows config first (max peak after.size) := by
  rcases follows with ⟨empty, rfl, rfl⟩ | pace
  · rw [bare empty]
    exact .inl ⟨rfl, rfl, rfl⟩
  · have kept := paced pace
    rw [Nat.max_eq_left (show after.size ≤ peak from kept.counted)]
    exact .inr kept

end Gauge

/-- Every call that does not resize lets the gauge follow. -/
theorem Call.Moves.follows {Id Content Memory : Type} {config : Config} {made : Nat}
    {before after : Gauge} {call : Call Id Content Memory} {reply : Reply Id Content Memory}
    {events : List Event} (moves : Call.Moves config made before call reply events after)
    (valid : config.validate = .ok ()) (small : after.size < 2 ^ 63)
    (unresized : ¬call.Resizes)
    (undeferred : ∀ event ∈ events, event.defersGrowth = false)
    {first peak : Nat} (follows : before.Follows config first peak) :
    after.Follows config (call.firstCapacity first made after.capacity)
      (call.peak peak after.size) := by
  obtain ⟨_, load, work⟩ := (Config.validate_eq_ok_iff config).1 valid
  cases moves with
  | refused bare none =>
      rcases follows with ⟨rfl, rfl, rfl⟩ | paced
      · exact .inl ⟨rfl, none, rfl⟩
      · exact absurd bare (Nat.ne_of_gt paced.valid.pos)
  | admitted valid kept grows =>
      rw [Gauge.size_step] at small
      have calm event member := undeferred event (List.mem_append_left _ member)
      right
      simp only [Call.firstCapacity, Call.peak, Gauge.size_step]
      rcases follows with ⟨rfl, rfl, rfl⟩ | paced
      · have blank := Gauge.Paced.blank load valid
        have size := grows.size_arrive blank.resting.1
        rw [size, if_pos rfl]
        exact blank.arrive (size ▸ small) work grows calm
      · have size := grows.size_arrive paced.resting.1
        rw [size, if_neg paced.first_ne_zero]
        exact paced.arrive (size ▸ small) work (kept paced.valid.pos ▸ grows) calm
  | searched =>
      apply follows.keep
      · intro bare
        rw [bare]
        rfl
      · exact fun paced => paced.step _
  | missed =>
      apply follows.keep
      · intro bare
        rw [bare]
        rfl
      · exact fun paced => paced.step _
  | removed side counted =>
      apply follows.keep
      · intro bare
        rw [bare] at counted
        cases side <;> exact absurd counted (Nat.lt_irrefl 0)
      · exact fun paced => (paced.step _).detach side
  | unreserved =>
      have kept : (if first = 0 then before.capacity else first) = first := by
        rcases follows with ⟨rfl, rfl, _⟩ | paced
        · rfl
        · exact if_neg paced.first_ne_zero
      dsimp only [Call.firstCapacity]
      rw [kept]
      exact follows.keep id id
  | reserved bare rounded =>
      rcases follows with ⟨rfl, rfl, rfl⟩ | paced
      · exact .inr (.blank load (isCapacity_of_capacityFor? rounded))
      · exact absurd bare (Nat.ne_of_gt paced.valid.pos)
  | cleared => exact .inl ⟨rfl, rfl, rfl⟩
  | visited => exact follows.keep id id
  | resized => exact absurd trivial unresized
  | resizedAtOnce => exact absurd trivial unresized

namespace Run

/-- The gauge follows any run that lets the map grow by itself. -/
theorem follows {Store Id Content Memory : Type} [Arena Store Id Content] [LawfulArena Store]
    [DecidableEq Id] {origin map : Map Id} {arena store : Store}
    {history : History Store Id Content Memory} (run : Run origin arena history map store)
    (free : ∀ entry ∈ history, entry.GrowsFreely) :
    map.rehash.gauge.Follows map.config (history.firstCapacity origin) history.peak := by
  have valid := run.links.1.valid
  rw [run.config] at valid ⊢
  obtain ⟨_, load, _⟩ := (Config.validate_eq_ok_iff _).1 valid
  refine run.gauge_induction (motive := fun history gauge =>
    gauge.Follows origin.config (history.firstCapacity origin) history.peak) free ?_ ?_
  · exact fun isCapacity => .start load isCapacity
  · intro entry earlier free follows moves small
    exact moves.follows valid small free.unresized free.undeferred follows

/-- Once there is a first table, the capacity is its least doubling whose load exceeds the largest
size, and an insertion during an episode finds the newer table below its threshold. -/
theorem grows_on_time {Store Id Content Memory : Type} [Arena Store Id Content]
    [LawfulArena Store] [DecidableEq Id] {origin map : Map Id} {arena store : Store}
    {history : History Store Id Content Memory} (run : Run origin arena history map store)
    (free : ∀ entry ∈ history, entry.GrowsFreely)
    (allocated : map.rehash.newer.isAllocated = true) :
    IsLeast {capacity | ∃ doublings, capacity = history.firstCapacity origin * 2 ^ doublings ∧
        history.peak < map.config.maxLoadFactor * capacity} map.capacity ∧
      map.rehash.newer.count + 2 * map.rehash.older.count <
        map.config.maxLoadFactor * map.capacity ∧
      map.size < map.config.maxLoadFactor * map.capacity ∧
      (map.isRehashing = true →
        map.rehash.newer.count + 1 < map.config.fullAt map.rehash.newer.capacity) := by
  rw [Table.isAllocated_iff] at allocated
  obtain ⟨links, small⟩ := run.links
  have fits : map.rehash.newer.count + map.rehash.older.count < 2 ^ 63 := links.size_lt small
  rcases run.follows free with ⟨bare, _, _⟩ | paced
  · exact absurd (congrArg Gauge.capacity bare) (Nat.ne_of_gt allocated)
  · have weighed : map.rehash.newer.count + 2 * map.rehash.older.count <
        map.config.maxLoadFactor * map.rehash.newer.capacity := paced.weighed
    have counted : map.rehash.newer.count + map.rehash.older.count ≤ history.peak := paced.counted
    refine ⟨paced.isLeast, weighed, Nat.lt_of_le_of_lt counted paced.below, ?_⟩
    intro active
    have left : map.rehash.older.count ≠ 0 := by
      intro empty
      have none : map.rehash.older.capacity = 0 := paced.resting.2 empty
      exact absurd (map.rehash.isActive_iff.1 active) (none ▸ Nat.lt_irrefl 0)
    by_contra threshold
    have full := (Config.fullAt_le (by omega)).1 (Nat.le_of_not_lt threshold)
    omega

/-- A map of one slot has four slots after two insertions, and an episode runs. -/
theorem grows_on_time_twice :
    ∃ (history : History (IndexedArena Char) Nat Char Unit) (map : Map Nat)
      (store : IndexedArena Char),
      Run (Map.empty ⟨1, 1, 1⟩) #[⟨.detached 3, 'a'⟩, ⟨.detached 4, 'b'⟩] history map store ∧
        history.firstCapacity (Map.empty ⟨1, 1, 1⟩) = 1 ∧ history.peak = 2 ∧
        map.isRehashing = true ∧
        IsLeast {capacity | ∃ doublings, capacity = history.firstCapacity (Map.empty ⟨1, 1, 1⟩) *
          2 ^ doublings ∧ history.peak < map.config.maxLoadFactor * capacity} map.capacity := by
  have start : Run (Map.empty ⟨1, 1, 1⟩)
      (#[⟨.detached 3, 'a'⟩, ⟨.detached 4, 'b'⟩] : IndexedArena Char)
      ([] : History _ Nat Char Unit) _ _ :=
    .start (.ofConfig ⟨1, 1, 1⟩ rfl) (Arena.fewerThan_of_size (by decide))
  have first := start.next (.insert 0) .addressSpace ⟨rfl, by decide⟩ rfl
  have second := first.next (.insert 1) .addressSpace ⟨rfl, by decide⟩ rfl
  refine ⟨_, _, _, second, rfl, rfl, rfl, (second.grows_on_time ?_ rfl).1⟩
  simp only [List.forall_mem_cons, List.not_mem_nil, false_imp_iff, implies_true, and_true]
  constructor
  · exact ⟨not_false, by decide⟩
  · exact ⟨not_false, by decide⟩

end Run

end IncrementalMap
