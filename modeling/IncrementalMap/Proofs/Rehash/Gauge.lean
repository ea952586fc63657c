/-
This file follows the counts of a rehash, which do not depend on where its payloads are.
-/

import IncrementalMap.Proofs.Rehash.Arrival
import IncrementalMap.Proofs.Rehash.Find

namespace IncrementalMap

/-- These are the payloads that the steps among some events have moved. -/
def Event.moved (events : List Event) : Nat :=
  (events.map fun
    | .migrationStep moved .. => moved
    | _ => 0).sum

@[simp] theorem Event.moved_nil : Event.moved [] = 0 := rfl

@[simp] theorem Event.moved_append (first second : List Event) :
    Event.moved (first ++ second) = Event.moved first + Event.moved second := by
  simp [Event.moved]

/-- A gauge shows the slot counts and the payload counts of the two tables. -/
@[ext] structure Gauge where
  capacity : Nat
  newer : Nat
  olderCapacity : Nat
  older : Nat

namespace Gauge

/-- A step moves payloads and gives up the older table when nothing is left in it. -/
def step (gauge : Gauge) (work : Nat) : Gauge :=
  if gauge.older ≤ work then
    ⟨gauge.capacity, gauge.newer + gauge.older, 0, 0⟩
  else
    ⟨gauge.capacity, gauge.newer + work, gauge.olderCapacity, gauge.older - work⟩

/-- The newer table becomes the older one beside a blank table. -/
def start (gauge : Gauge) (capacity : Nat) : Gauge :=
  ⟨capacity, 0, gauge.capacity, gauge.newer⟩

/-- A payload leaves the table of its side, and the last one of the older table takes it along. -/
def detach (gauge : Gauge) : Side → Gauge
  | .newer => { gauge with newer := gauge.newer - 1 }
  | .older =>
      if gauge.older = 1 then { gauge with olderCapacity := 0, older := 0 }
      else { gauge with older := gauge.older - 1 }

/-- This is the payload count of one side. -/
def count (gauge : Gauge) : Side → Nat
  | .newer => gauge.newer
  | .older => gauge.older

/-- This is the payload count of both tables. -/
def size (gauge : Gauge) : Nat := gauge.newer + gauge.older

/-- A drained gauge has all payloads in the newer table. -/
def drain (gauge : Gauge) : Gauge := ⟨gauge.capacity, gauge.size, 0, 0⟩

/-- A call takes one payload from a side, or nothing. -/
def take (gauge : Gauge) : Option Side → Gauge
  | none => gauge
  | some side => gauge.detach side

/-- A step of an episode reports what it has moved and left, and the end of the episode. -/
def Reports (gauge : Gauge) (work : Nat) (events : List Event) : Prop :=
  if gauge.olderCapacity = 0 then
    events = []
  else
    ∃ cursor, events = .migrationStep (min work gauge.older) cursor (gauge.older - work) ::
      if gauge.older ≤ work then [.migrationFinished gauge.olderCapacity] else []

/-- The end of an episode is reported when its last payload is taken. -/
def releases (gauge : Gauge) : Option Side → List Event
  | some .older => if gauge.older = 1 then [.migrationFinished gauge.olderCapacity] else []
  | _ => []

@[simp] theorem capacity_step (gauge : Gauge) (work : Nat) :
    (gauge.step work).capacity = gauge.capacity := by
  unfold step
  split <;> rfl

@[simp] theorem capacity_detach (gauge : Gauge) (side : Side) :
    (gauge.detach side).capacity = gauge.capacity := by
  cases side with
  | newer => rfl
  | older =>
      dsimp only [detach]
      split <;> rfl

/-- A detachment does not raise the size. -/
theorem size_detach_le (gauge : Gauge) (side : Side) : (gauge.detach side).size ≤ gauge.size := by
  cases side with
  | newer =>
      dsimp only [detach, size]
      omega
  | older =>
      dsimp only [detach]
      split <;> dsimp only [size] <;> omega

@[simp] theorem size_step (gauge : Gauge) (work : Nat) : (gauge.step work).size = gauge.size := by
  unfold step size
  split <;> dsimp only <;> omega

/-- A step takes its work out of the older table. -/
@[simp] theorem older_step (gauge : Gauge) (work : Nat) :
    (gauge.step work).older = gauge.older - work := by
  unfold step
  split <;> dsimp only
  omega

/-- A step gives the older table up or keeps its capacity. -/
theorem olderCapacity_step (gauge : Gauge) (work : Nat) :
    (gauge.step work).olderCapacity = 0 ∨
      (gauge.step work).olderCapacity = gauge.olderCapacity := by
  unfold step
  split
  · exact .inl rfl
  · exact .inr rfl

/-- A detachment lowers the count of the older table when it is on this side. -/
theorem older_detach (gauge : Gauge) (side : Side) :
    (gauge.detach side).older = gauge.older - if side = .older then 1 else 0 := by
  cases side with
  | newer => rfl
  | older =>
      dsimp only [detach]
      split <;> rename_i last <;> simp [last]

/-- A detachment gives the older table up or keeps its capacity. -/
theorem olderCapacity_detach (gauge : Gauge) (side : Side) :
    (gauge.detach side).olderCapacity = 0 ∨
      (gauge.detach side).olderCapacity = gauge.olderCapacity := by
  cases side with
  | newer => exact .inr rfl
  | older =>
      dsimp only [detach]
      split
      · exact .inl rfl
      · exact .inr rfl

/-- A step reports as many payloads as it takes out of the older table. -/
theorem Reports.moved {gauge : Gauge} {work : Nat} {events : List Event}
    (reports : gauge.Reports work events) (resting : gauge.olderCapacity = 0 → gauge.older = 0) :
    Event.moved events = min work gauge.older := by
  unfold Reports at reports
  split at reports <;> rename_i active
  · rw [reports, resting active, Nat.min_zero, Event.moved_nil]
  · obtain ⟨cursor, rfl⟩ := reports
    split <;> rfl

/-- The end of an episode moves nothing. -/
theorem moved_releases (gauge : Gauge) (taken : Option Side) :
    Event.moved (gauge.releases taken) = 0 := by
  unfold releases
  split
  · split <;> rfl
  · rfl

end Gauge

namespace Rehash

/-- The gauge of a rehash reads its tables. -/
def gauge {Id : Type} (rehash : Rehash Id) : Gauge :=
  ⟨rehash.newer.capacity, rehash.newer.count, rehash.older.capacity, rehash.older.count⟩

@[simp] theorem gauge_idle {Id : Type} (newer : Table Id) :
    (idle newer).gauge = ⟨newer.capacity, newer.count, 0, 0⟩ := rfl

/-- A step moves the gauge. -/
theorem Stepped.gauge {Store Id Content : Type} [Arena Store Id Content] {rehash : Rehash Id}
    {store : Store} {newer older drained : Layout Id} {work : Nat}
    {outcome : Outcome (Rehash Id) Store Nat}
    (stepped : rehash.Stepped store newer older work outcome drained)
    (sound : rehash.Sound store newer older) :
    outcome.state.gauge = rehash.gauge.step work := by
  have newerCount := stepped.newer_count sound
  have olderCount := stepped.older_count sound
  have capacity := stepped.alike.capacity
  cases active : rehash.isActive with
  | false =>
      have none := rehash.isActive_eq_false_iff.1 active
      have empty := sound.pair.soundSource.count_eq_zero none
      rw [stepped.silent active]
      simp [Rehash.gauge, Gauge.step, none, empty]
  | true =>
      by_cases enough : rehash.older.count ≤ work
      · have ended : outcome.state.older = Table.unallocated := by
          rw [stepped.finished active enough]
          rfl
        ext <;> simp only [Rehash.gauge, Gauge.step, enough, if_true, capacity, newerCount, ended]
        · omega
        · rfl
        · rfl
      · have kept := (stepped.running (Nat.lt_of_not_le enough)).1.capacity
        ext <;> simp only [Rehash.gauge, Gauge.step, enough, if_false, capacity, newerCount,
          olderCount, kept]
        omega

/-- A step reports what the gauge shows. -/
theorem Stepped.reports {Store Id Content : Type} [Arena Store Id Content] {rehash : Rehash Id}
    {store : Store} {newer older drained : Layout Id} {work : Nat}
    {outcome : Outcome (Rehash Id) Store Nat}
    (stepped : rehash.Stepped store newer older work outcome drained) :
    rehash.gauge.Reports work outcome.events := by
  unfold Gauge.Reports
  split <;> rename_i resting
  · rw [stepped.silent (rehash.isActive_eq_false_iff.2 resting)]
  · obtain ⟨cursor, reported⟩ :=
      stepped.events (rehash.isActive_iff.2 (Nat.pos_of_ne_zero resting))
    have left : rehash.older.count - min work rehash.older.count = rehash.older.count - work := by
      omega
    rw [stepped.moved, left] at reported
    exact ⟨cursor, reported⟩

/-- A detachment lowers the count of its side, which was not zero. -/
theorem Detached.counts {Store Id Content : Type} [Arena Store Id Content] {rehash : Rehash Id}
    {store unlinked : Store} {newer older newerAfter olderAfter : Layout Id} {side : Side}
    {front : List Id} {id : Id} {after : Rehash Id}
    (detached : rehash.Detached store newer older side front id after unlinked newerAfter olderAfter)
    (sound : rehash.Sound store newer older) :
    (after.table side).count + 1 = (rehash.table side).count := by
  have total := detached.ids.length_eq
  rw [← sound.size_eq, List.length_cons, ← detached.sound.size_eq, size, size] at total
  cases side with
  | newer =>
      have kept : after.older = rehash.older := detached.kept .older (by decide)
      rw [kept] at total
      simp only [table]
      omega
  | older =>
      have kept : after.newer = rehash.newer := detached.kept .newer (by decide)
      rw [kept] at total
      simp only [table]
      omega

/-- A detachment from the newer table leaves a settled rehash settled. -/
theorem Detached.settled {Store Id Content : Type} [Arena Store Id Content] {rehash : Rehash Id}
    {store unlinked : Store} {newer older newerAfter olderAfter : Layout Id} {front : List Id}
    {id : Id} {after : Rehash Id}
    (detached : rehash.Detached store newer older .newer front id after unlinked newerAfter
      olderAfter) (settled : rehash.Settled) : after.Settled := by
  have kept : after.older = rehash.older := detached.kept .older (by decide)
  rcases settled with idle | running
  · have older : after.older = Table.unallocated := by
      rw [kept, idle]
      rfl
    have cursor : after.cursor = 0 := by
      rw [detached.cursor, idle]
      rfl
    exact Or.inl (by rw [Rehash.idle, ← older, ← cursor])
  · exact Or.inr (kept ▸ running)

/-- Giving up an empty older table clears its part of the gauge and is reported. -/
theorem gauge_release {Id : Type} {rehash : Rehash Id} (allocated : 0 < rehash.older.capacity) :
    (rehash.release.1.gauge =
      if rehash.older.count = 0 then ⟨rehash.newer.capacity, rehash.newer.count, 0, 0⟩
      else rehash.gauge) ∧
    rehash.release.2 =
      if rehash.older.count = 0 then [.migrationFinished rehash.older.capacity] else [] := by
  have active := rehash.isActive_iff.2 allocated
  by_cases empty : rehash.older.count = 0 <;> simp [release, active, Table.isEmpty, empty]

/-- A detachment from the newer table moves the gauge. -/
theorem Detached.gauge_newer {Store Id Content : Type} [Arena Store Id Content]
    {rehash : Rehash Id} {store unlinked : Store} {newer older newerAfter olderAfter : Layout Id}
    {front : List Id} {id : Id} {after : Rehash Id}
    (detached : rehash.Detached store newer older .newer front id after unlinked newerAfter
      olderAfter) (sound : rehash.Sound store newer older) :
    0 < rehash.gauge.count .newer ∧ after.gauge = rehash.gauge.detach .newer := by
  have counts : after.newer.count + 1 = rehash.newer.count := detached.counts sound
  have kept : after.older = rehash.older := detached.kept .older (by decide)
  constructor
  · exact Nat.lt_of_lt_of_eq (Nat.succ_pos _) counts
  · simp only [gauge, Gauge.detach, detached.alikeNewer.capacity, kept, ← counts,
      Nat.add_sub_cancel]

/-- A detachment from the older table moves the gauge, and the last payload ends the episode. -/
theorem Detached.gauge_older {Store Id Content : Type} [Arena Store Id Content]
    {rehash : Rehash Id} {store unlinked : Store} {newer older newerAfter olderAfter : Layout Id}
    {front : List Id} {id : Id} {after : Rehash Id}
    (detached : rehash.Detached store newer older .older front id after unlinked newerAfter
      olderAfter) (sound : rehash.Sound store newer older) (allocated : 0 < rehash.older.capacity) :
    0 < rehash.gauge.count .older ∧ after.release.1.gauge = rehash.gauge.detach .older ∧
      after.release.2 = rehash.gauge.releases (some .older) := by
  have counts : after.older.count + 1 = rehash.older.count := detached.counts sound
  have kept : after.newer = rehash.newer := detached.kept .newer (by decide)
  have given : 0 < after.older.capacity := detached.alikeOlder.capacity ▸ allocated
  obtain ⟨cleared, reported⟩ := gauge_release given
  refine ⟨Nat.lt_of_lt_of_eq (Nat.succ_pos _) counts, ?_, ?_⟩
  · rw [cleared]
    simp only [gauge, Gauge.detach, detached.alikeOlder.capacity, kept, ← counts,
      Nat.add_sub_cancel, Nat.add_eq_right]
  · rw [reported]
    simp only [gauge, Gauge.releases, detached.alikeOlder.capacity, ← counts, Nat.add_eq_right]

end Rehash

end IncrementalMap
