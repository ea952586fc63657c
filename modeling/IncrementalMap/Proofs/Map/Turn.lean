/-
This file computes what a call does to the counts of a map, without a look at its payloads.
-/

import IncrementalMap.Proofs.Map.Insert
import IncrementalMap.Proofs.Map.Resize
import IncrementalMap.Proofs.Table.Chains

namespace IncrementalMap

/-- Among the fields of an event only the cursor depends on where the payloads are. -/
def Event.withoutCursor : Event → Event
  | .migrationStep moved _ remaining => .migrationStep moved 0 remaining
  | event => event

/-- An allocator grants a request the capacity to which it is rounded up. -/
def Allocator.grant (allocator : Allocator) (requested : Nat) : Except MapError Nat :=
  match capacityFor? requested with
  | none => .error (.invalidCapacity requested)
  | some capacity => if allocator capacity then .ok capacity else .error .allocationFailure

/-- An allocated table has the capacity that was granted. -/
theorem Table.capacity_allocate {Id : Type} (allocator : Allocator) (requested : Nat) :
    (allocate allocator requested : Except MapError (Table Id)).map capacity =
      allocator.grant requested := by
  unfold allocate Allocator.grant
  rcases capacityFor? requested with _ | slots
  · rfl
  · cases granted : allocator slots <;> simp [Except.map, granted]

/-- No capacity is granted when no table can be had. -/
theorem Table.grant_of_error {Id : Type} {allocator : Allocator} {requested : Nat}
    {error : MapError}
    (made : (allocate allocator requested : Except MapError (Table Id)) = .error error) :
    allocator.grant requested = .error error := by
  rw [← @capacity_allocate Id, made]
  rfl

/-- The capacity of a table is granted with it. -/
theorem Table.grant_of_ok {Id : Type} {allocator : Allocator} {requested : Nat}
    {fresh : Table Id} (made : allocate allocator requested = .ok fresh) :
    allocator.grant requested = .ok fresh.capacity := by
  rw [← @capacity_allocate Id, made]
  rfl

/-- A turn is what a call does to a gauge: its result, its events without their cursors, and the
gauge that it leaves. -/
structure Turn where
  result : Except MapError Unit
  events : List Event
  gauge : Gauge

namespace Gauge

/-- A refused call leaves the gauge as it is. -/
def refuse (gauge : Gauge) (error : MapError) : Turn := ⟨.error error, [], gauge⟩

/-- A step reports what it moves and leaves, and the end of its episode. -/
def stepEvents (gauge : Gauge) (work : Nat) : List Event :=
  if gauge.olderCapacity = 0 then
    []
  else
    .migrationStep (min work gauge.older) 0 (gauge.older - work) ::
      if gauge.older ≤ work then [.migrationFinished gauge.olderCapacity] else []

instance (gauge : Gauge) (config : Config) : Decidable (gauge.Due config) :=
  inferInstanceAs (Decidable (_ ∧ _))

/-- A growth that is due starts an episode, or memory defers it. -/
def grow (gauge : Gauge) (config : Config) (allocator : Allocator) : Gauge × List Event :=
  if gauge.Due config then
    match allocator.grant (saturate (gauge.capacity * 2)) with
    | .ok capacity =>
        (gauge.start capacity, [.migrationStarted gauge.capacity capacity gauge.newer])
    | .error error => (gauge, [.growthDeferred gauge.capacity gauge.newer error])
  else
    (gauge, [])

/-- The first insertion needs a table of the initial capacity. -/
def first (gauge : Gauge) (config : Config) (allocator : Allocator) : Except MapError Nat :=
  if gauge.capacity = 0 then allocator.grant config.initialCapacity else .ok gauge.capacity

/-- A table of this capacity admits a payload, grows when it is full, and makes one step. -/
def admission (gauge : Gauge) (config : Config) (allocator : Allocator) (capacity : Nat) : Turn :=
  let grown := (gauge.arrive capacity).grow config allocator
  ⟨.ok (), grown.2 ++ grown.1.stepEvents config.migrationWork, grown.1.step config.migrationWork⟩

/-- An insertion is admitted by the first table, unless memory refuses this table. -/
def insert (gauge : Gauge) (config : Config) (allocator : Allocator) : Turn :=
  match gauge.first config allocator with
  | .error error => gauge.refuse error
  | .ok capacity => gauge.admission config allocator capacity

/-- A search makes one step and takes a payload from one side or nothing. -/
def search (gauge : Gauge) (config : Config) (taken : Option Side) : Turn :=
  let stepped := gauge.step config.migrationWork
  ⟨.ok (), gauge.stepEvents config.migrationWork ++ stepped.releases taken, stepped.take taken⟩

/-- The target of a resize must be a capacity, and it is raised until every payload has a slot. -/
def goal (gauge : Gauge) (target : Nat) : Except MapError Nat :=
  if ¬ IsCapacity target then
    .error (.invalidCapacity target)
  else if gauge.size ≤ target then
    .ok target
  else
    match capacityFor? gauge.size with
    | some capacity => .ok capacity
    | none => .error (.invalidCapacity target)

/-- A resize to another capacity than the present one ends the running episode and starts a new one,
with a first step. Without a table it has nothing to move. -/
def replace (gauge : Gauge) (config : Config) (capacity : Nat) : Turn :=
  let drained := gauge.step wordLimit
  let resized := gauge.stepEvents wordLimit ++ [.resize gauge.capacity capacity gauge.size]
  if gauge.capacity = 0 then
    ⟨.ok (), resized, { drained with capacity, newer := 0 }⟩
  else
    let started := drained.start capacity
    ⟨.ok (), resized ++ .migrationStarted gauge.capacity capacity drained.newer ::
      started.stepEvents config.migrationWork, started.step config.migrationWork⟩

/-- A resize ends the running episode, and it replaces the table unless this has the capacity of the
goal already. -/
def resize (gauge : Gauge) (config : Config) (allocator : Allocator) (target : Nat) : Turn :=
  match gauge.goal target with
  | .error error => gauge.refuse error
  | .ok capacity =>
      if gauge.capacity = capacity then
        ⟨.ok (), gauge.stepEvents wordLimit, gauge.step wordLimit⟩
      else
        match allocator.grant capacity with
        | .error error => gauge.refuse error
        | .ok _ => gauge.replace config capacity

/-- A resize at once leaves one table, unless there is only one and it has the capacity already. -/
def resizeAtOnce (gauge : Gauge) (allocator : Allocator) (target : Nat) : Turn :=
  match gauge.goal target with
  | .error error => gauge.refuse error
  | .ok capacity =>
      if gauge.capacity = capacity ∧ gauge.olderCapacity = 0 then
        ⟨.ok (), [], gauge⟩
      else
        match allocator.grant capacity with
        | .error error => gauge.refuse error
        | .ok _ => ⟨.ok (), [.immediateResize gauge.capacity capacity gauge.size],
            ⟨capacity, gauge.size, 0, 0⟩⟩

/-- A reservation provides the first table and has no effect on a later one. -/
def reserve (gauge : Gauge) (allocator : Allocator) (requested : Nat) : Turn :=
  if gauge.capacity = 0 then
    match allocator.grant requested with
    | .error error => gauge.refuse error
    | .ok capacity => ⟨.ok (), [.reserved capacity], { gauge with capacity, newer := 0 }⟩
  else
    ⟨.ok (), [], gauge⟩

/-- A clear gives up both tables. -/
def clear (gauge : Gauge) : Turn :=
  ⟨.ok (), if gauge.capacity = 0 ∧ gauge.olderCapacity = 0 then [] else [.clear gauge.size],
    ⟨0, 0, 0, 0⟩⟩

/-- A step reports what the gauge shows, apart from the cursor. -/
theorem Reports.withoutCursor {gauge : Gauge} {work : Nat} {events : List Event}
    (reports : gauge.Reports work events) :
    events.map Event.withoutCursor = gauge.stepEvents work := by
  unfold Reports at reports
  unfold stepEvents
  split at reports <;> rename_i active
  · rw [if_pos active, reports, List.map_nil]
  · obtain ⟨cursor, rfl⟩ := reports
    rw [if_neg active]
    split <;> rfl

/-- The end of an episode is reported without a cursor. -/
theorem withoutCursor_releases (gauge : Gauge) (taken : Option Side) :
    (gauge.releases taken).map Event.withoutCursor = gauge.releases taken := by
  unfold releases
  split
  · split <;> rfl
  · rfl

/-- A growth is reported without a cursor. -/
theorem withoutCursor_grow (gauge : Gauge) (config : Config) (allocator : Allocator) :
    (gauge.grow config allocator).2.map Event.withoutCursor = (gauge.grow config allocator).2 := by
  unfold grow
  split
  · split <;> rfl
  · rfl

end Gauge

namespace Map

variable {Store Id Content Memory : Type}

/-- This is the turn of a call that has left a map with a result and events. -/
def turn (map : Map Id) (result : Except MapError Unit) (events : List Event) : Turn :=
  ⟨result, events.map Event.withoutCursor, map.rehash.gauge⟩

/-- A gauge shows no slots while a map has no table for its insertions. -/
theorem gauge_capacity_eq_zero_iff (map : Map Id) :
    map.rehash.gauge.capacity = 0 ↔ map.rehash.newer.isAllocated = false := by
  rw [← Bool.not_eq_true, Table.isAllocated_iff, Nat.pos_iff_ne_zero, not_not]
  exact Iff.rfl

/-- A gauge shows no older table while a map has no episode. -/
theorem gauge_olderCapacity_eq_zero_iff (map : Map Id) :
    map.rehash.gauge.olderCapacity = 0 ↔ map.isRehashing = false :=
  map.rehash.isActive_eq_false_iff.symm

/-- The growth of a table follows its gauge. -/
theorem gauge_growIfFull {rehash grown : Rehash Id} {config : Config} {allocator : Allocator}
    {events : List Event} (grows : growIfFull rehash config allocator = (grown, events)) :
    rehash.gauge.grow config allocator = (grown.gauge, events) := by
  have due : rehash.gauge.Due config ↔ (!rehash.isActive &&
      decide (config.fullAt rehash.newer.capacity ≤ rehash.newer.count)) = true := by
    rw [Bool.and_eq_true, Bool.not_eq_true', rehash.isActive_eq_false_iff, decide_eq_true_iff]
    exact Iff.rfl
  unfold growIfFull at grows
  rw [← if_congr due rfl rfl] at grows
  unfold Gauge.grow
  split at grows <;> rename_i full
  · have inactive : ¬rehash.isActive = true := by
      rw [rehash.isActive_iff, Nat.not_lt, Nat.le_zero]
      exact full.1
    rw [Rehash.grow, if_neg inactive] at grows
    rw [if_pos full]
    rcases made : (Table.allocate allocator (saturate (rehash.newer.capacity * 2)) :
        Except MapError (Table Id)) with error | fresh <;> rw [made] at grows
    · have short : allocator.grant (saturate (rehash.gauge.capacity * 2)) = .error error :=
        Table.grant_of_error made
      obtain ⟨rfl, rfl⟩ := Prod.mk.inj grows
      rw [short]
      rfl
    · have granted : allocator.grant (saturate (rehash.gauge.capacity * 2)) = .ok fresh.capacity :=
        Table.grant_of_ok made
      obtain ⟨capacity, _, _, rfl⟩ := Table.allocate_eq_ok made
      obtain ⟨rfl, rfl⟩ := Prod.mk.inj grows
      rw [granted]
      rfl
  · obtain ⟨rfl, rfl⟩ := Prod.mk.inj grows
    rw [if_neg full]

/-- The first table of an insertion follows the gauge. -/
theorem capacity_firstTable (map : Map Id) (allocator : Allocator) :
    (map.firstTable allocator).map Table.capacity =
      map.rehash.gauge.first map.config allocator := by
  unfold firstTable Gauge.first
  rw [if_congr map.gauge_capacity_eq_zero_iff rfl rfl]
  cases map.rehash.newer.isAllocated with
  | true => rfl
  | false => exact Table.capacity_allocate allocator _

/-- A reservation follows the gauge, whether it is refused, made or without effect. -/
theorem reserve_turn (map : Map Id) (allocator : Allocator) (requested : Nat) :
    (match map.reserve allocator requested with
      | .error error => map.turn (.error error) []
      | .ok (after, events) => after.turn (.ok ()) events) =
      map.rehash.gauge.reserve allocator requested := by
  unfold reserve Gauge.reserve
  rw [if_congr map.gauge_capacity_eq_zero_iff rfl rfl]
  cases map.rehash.newer.isAllocated with
  | true => rfl
  | false =>
      rcases made : (Table.allocate allocator requested : Except MapError (Table Id)) with
        error | fresh
      · rw [Table.grant_of_error made]
        rfl
      · rw [Table.grant_of_ok made]
        obtain ⟨capacity, _, _, rfl⟩ := Table.allocate_eq_ok made
        rfl

/-- A clear follows the gauge. -/
theorem clear_turn (map : Map Id) :
    map.clear.1.turn (.ok ()) map.clear.2 = map.rehash.gauge.clear := by
  have bare : map.rehash.gauge.capacity = 0 ∧ map.rehash.gauge.olderCapacity = 0 ↔
      ¬(map.rehash.newer.isAllocated || map.isRehashing) = true := by
    rw [map.gauge_capacity_eq_zero_iff, map.gauge_olderCapacity_eq_zero_iff, Bool.or_eq_true,
      not_or, Bool.not_eq_true, Bool.not_eq_true]
  unfold clear Gauge.clear
  rw [if_congr bare rfl rfl, ite_not]
  split <;> rfl

variable [Arena Store Id Content]

/-- After the step of a call the older table may still reach a payload. -/
def keepsOlder [DecidableEq Id] (map : Map Id) (store : Store) (id : Id) : Bool :=
  match map.advance store with
  | .ok stepped => decide (stepped.state.rehash.older.Reaches stepped.store id)
  | .error _ => false

variable {map : Map Id} {store : Store}

/-- An admitted payload lets the gauge admit one. -/
theorem Admits.turn {allocator : Allocator} {id : Id} {first : Table Id} {start after : Map Id}
    {linked final : Store} {grown : List Event} {stepped : Outcome (Map Id) Store Nat}
    (admits : map.Admits store allocator id start linked grown)
    (made : map.firstTable allocator = .ok first) (count : first.count = map.rehash.newer.count)
    (carries : start.Carries linked stepped none [] after final) :
    after.turn (.ok ()) (grown ++ stepped.events) =
      map.rehash.gauge.admission map.config allocator first.capacity := by
  obtain ⟨other, joined, found, inserted, grows, config⟩ := admits
  obtain rfl := Except.ok.inj (made.symm.trans found)
  obtain ⟨alike, counted⟩ := Table.alike_of_insert inserted
  have arrived : Rehash.gauge ⟨joined, map.rehash.older, map.rehash.cursor⟩ =
      map.rehash.gauge.arrive first.capacity := by
    ext
    · exact alike.capacity
    · exact counted.trans (congrArg Nat.succ count)
    · rfl
    · rfl
  have growth := gauge_growIfFull grows
  rw [arrived] at growth
  have reported := Gauge.withoutCursor_grow (map.rehash.gauge.arrive first.capacity) map.config
    allocator
  rw [growth] at reported
  have events := carries.reports.withoutCursor
  have gauge := carries.gauge
  rw [config] at events gauge
  simp only [Map.turn, Gauge.admission, growth, List.map_append, reported, events]
  exact congrArg _ gauge

/-- An insertion follows the gauge. -/
theorem Holds.insert_turn [LawfulArena Store] {listed : List Id} (holds : map.Holds store listed)
    {allocator : Allocator} {id : Id} (present : (Arena.node? store id).isSome)
    (fresh : id ∉ listed) {outcome : Outcome (Map Id) Store (Except MapError Unit)}
    (answered : map.insert store allocator id = .ok outcome) :
    outcome.state.turn outcome.result outcome.events =
      map.rehash.gauge.insert map.config allocator := by
  have first := map.capacity_firstTable allocator
  unfold Gauge.insert
  rcases made : map.firstTable allocator with error | table <;> rw [made] at first <;>
    rw [← first]
  · obtain rfl := Except.ok.inj ((insert_of_refused made store id).symm.trans answered)
    rfl
  · obtain ⟨other, same, ends⟩ := holds.insert allocator present fresh
    obtain rfl := Except.ok.inj (same.symm.trans answered)
    have result := insert_result answered
    rw [made] at result
    obtain ⟨error, rfl, _⟩ | ⟨_, _, _, _, start, linked, grown, stepped, admits, carries, events,
      _⟩ := ends
    · exact nomatch result
    · obtain ⟨newer, older, sound, _⟩ := holds
      obtain ⟨_, _, _, count, _⟩ := firstTable_sound sound made
      rw [result, events]
      exact admits.turn made count carries

namespace Sound

variable [LawfulArena Store] {newer older : Layout Id}

/-- A lookup follows the gauge and takes nothing. -/
theorem lookup_turn (sound : map.Sound store newer older) {hash : UInt64}
    {matcher : Matcher Content Memory} {memory : Memory}
    {outcome : Outcome (Map Id) Store (Option Id × Memory)}
    (answered : map.lookup store hash matcher memory = .ok outcome) :
    outcome.state.turn (.ok ()) outcome.events = map.rehash.gauge.search map.config none := by
  obtain ⟨stepped, drained, step, _, returned⟩ := sound.lookup_eq hash matcher memory
  obtain rfl := Except.ok.inj (returned.symm.trans answered)
  have events := step.reports.withoutCursor
  have gauge := step.gauge sound.tables
  simp only [turn, Gauge.search, Gauge.releases, List.append_nil, events]
  exact congrArg _ gauge

/-- A deletion follows the gauge, with the side from which it takes its payload. -/
theorem delete_turn [DecidableEq Id] (sound : map.Sound store newer older) {hash : UInt64}
    {matcher : Matcher Content Memory} {memory : Memory}
    {outcome : Outcome (Map Id) Store (Option Id × Memory)}
    (answered : map.delete store hash matcher memory = .ok outcome) :
    ∃ taken, outcome.state.turn (.ok ()) outcome.events =
        map.rehash.gauge.search map.config taken ∧
      match outcome.result.1 with
      | none => taken = none
      | some id => ∃ side, taken = some side ∧ (side = .older ↔ map.keepsOlder store id = true) ∧
          0 < (map.rehash.gauge.step map.config.migrationWork).count side := by
  obtain ⟨stepped, drained, step, advanced, deleted⟩ := sound.delete_eq hash matcher memory
  have events := step.reports.withoutCursor
  have gauge := step.gauge sound.tables
  rcases chosen : matcher.choose (map.offered store newer older stepped drained hash) memory with
    ⟨_ | id, left⟩ <;> rw [chosen] at deleted
  · obtain rfl := Except.ok.inj (deleted.symm.trans answered)
    refine ⟨none, ?_, rfl⟩
    simp only [turn, Gauge.search, Gauge.releases, List.append_nil, events]
    exact congrArg _ gauge
  · obtain ⟨side, after, unlinked, released, withdraws, returned⟩ := deleted
    obtain rfl := Except.ok.inj (returned.symm.trans answered)
    obtain ⟨counted, moves, rfl⟩ := withdraws.gauge step.sound
    rw [gauge] at counted moves
    refine ⟨some side, ?_, side, rfl, ?_, counted⟩
    · simp only [turn, Gauge.search, List.map_append, events, Gauge.withoutCursor_releases, gauge]
      exact congrArg _ moves
    · rw [keepsOlder, advanced]
      exact (decide_eq_true_iff.trans (withdraws.reaches_older_iff step.sound)).symm

/-- A table that is replaced follows the gauge, whether it is allocated or not. -/
theorem replace_turn (sound : map.Sound store newer older) {allocator : Allocator}
    {target capacity : Nat} (goal : map.resizeGoal target = .ok capacity)
    (differ : map.capacity ≠ capacity) {fresh : Table Id}
    (made : Table.allocate allocator capacity = .ok fresh)
    {outcome : Outcome (Map Id) Store (Except MapError Unit)}
    (answered : map.resize store allocator target = .ok outcome) :
    outcome.state.turn outcome.result outcome.events =
      map.rehash.gauge.replace map.config capacity := by
  -- As a step the drain tells its events, and as a drain it shows that no episode is left.
  obtain ⟨drained, layout, returned, step⟩ := sound.tables.step wordLimit
  have drains : map.rehash.drain store = .ok drained := returned
  have events := step.reports.withoutCursor
  have gauge := step.gauge sound.tables
  obtain ⟨other, again, inactive, soundDrained, alike, _, _⟩ :=
    sound.drain (older_count_le_of_goal goal)
  obtain rfl := Except.ok.inj (drains.symm.trans again)
  have exactly := capacity_of_goal goal made
  obtain ⟨blank, _, positive, empty⟩ := Table.sound_of_allocate made drained.store
  have slots : drained.state.newer.capacity = map.rehash.gauge.capacity := alike.capacity
  have total : drained.state.size = map.rehash.gauge.size :=
    (congrArg Gauge.size gauge).trans (Gauge.size_step _ _)
  unfold Gauge.replace
  rw [if_congr map.gauge_capacity_eq_zero_iff rfl rfl]
  cases former : map.rehash.newer.isAllocated with
  | false =>
      have bare : drained.state.newer.isAllocated = false := alike.isAllocated.trans former
      have replaced := resize_of_unallocated goal differ made drains bare
      obtain rfl := Except.ok.inj (replaced.symm.trans answered)
      rw [← events, ← gauge, ← total, ← slots, ← exactly, ← empty]
      simp only [turn, List.map_append]
      rfl
  | true =>
      have allocated : drained.state.newer.isAllocated = true := alike.isAllocated.trans former
      obtain ⟨started, _⟩ := soundDrained.tables.start inactive blank positive
      obtain ⟨stepped, left, steps, advanced⟩ :=
        advance_stepped ⟨(drained.state.start fresh).1, map.config⟩ started
      have startedGauge : (drained.state.start fresh).1.gauge =
          (map.rehash.gauge.step wordLimit).start capacity := by
        rw [← gauge, ← exactly]
        simp only [Rehash.start, Rehash.gauge, Gauge.start, empty]
      have after : stepped.state.gauge = _ := steps.gauge started
      have later := steps.reports.withoutCursor
      rw [startedGauge] at after later
      have replaced := resize_of_started goal differ made drains allocated advanced
      obtain rfl := Except.ok.inj (replaced.symm.trans answered)
      dsimp only at after later ⊢
      rw [← events, ← total, ← slots, ← later, ← after, ← gauge, ← exactly]
      simp only [turn, List.map_append, List.append_assoc]
      rfl

/-- A resize follows the gauge. -/
theorem resize_turn (sound : map.Sound store newer older) {allocator : Allocator} {target : Nat}
    {outcome : Outcome (Map Id) Store (Except MapError Unit)}
    (answered : map.resize store allocator target = .ok outcome) :
    outcome.state.turn outcome.result outcome.events =
      map.rehash.gauge.resize map.config allocator target := by
  have same : map.rehash.gauge.goal target = map.resizeGoal target := rfl
  have now : map.rehash.gauge.capacity = map.capacity := rfl
  unfold Gauge.resize
  rw [same]
  rcases goal : map.resizeGoal target with error | capacity
  · obtain rfl := Except.ok.inj ((resize_of_goal_error goal store allocator).symm.trans answered)
    rfl
  dsimp only
  rw [now]
  by_cases already : map.capacity = capacity
  · subst already
    obtain ⟨drained, layout, returned, step⟩ := sound.tables.step wordLimit
    have drains : map.rehash.drain store = .ok drained := returned
    obtain rfl := Except.ok.inj ((resize_of_same goal drains allocator).symm.trans answered)
    rw [if_pos rfl, ← step.reports.withoutCursor, ← step.gauge sound.tables]
    rfl
  rw [if_neg already]
  rcases made : (Table.allocate allocator capacity : Except MapError (Table Id)) with error | fresh
  · obtain rfl := Except.ok.inj ((resize_of_shortage goal already made store).symm.trans answered)
    rw [Table.grant_of_error made]
    rfl
  · rw [Table.grant_of_ok made]
    exact sound.replace_turn goal already made answered

/-- A resize at once follows the gauge. -/
theorem resizeAtOnce_turn (sound : map.Sound store newer older) {allocator : Allocator}
    {target : Nat} {outcome : Outcome (Map Id) Store (Except MapError Unit)}
    (answered : map.resizeAtOnce store allocator target = .ok outcome) :
    outcome.state.turn outcome.result outcome.events =
      map.rehash.gauge.resizeAtOnce allocator target := by
  have same : map.rehash.gauge.goal target = map.resizeGoal target := rfl
  unfold Gauge.resizeAtOnce
  rw [same]
  rcases goal : map.resizeGoal target with error | capacity
  · obtain rfl :=
      Except.ok.inj ((resizeAtOnce_of_goal_error goal store allocator).symm.trans answered)
    rfl
  dsimp only
  have alone : map.rehash.gauge.capacity = capacity ∧ map.rehash.gauge.olderCapacity = 0 ↔
      map.capacity = capacity ∧ ¬map.isRehashing = true := by
    rw [map.gauge_olderCapacity_eq_zero_iff, Bool.not_eq_true]
    exact Iff.rfl
  rw [if_congr alone rfl rfl]
  by_cases already : map.capacity = capacity ∧ ¬map.isRehashing = true
  · obtain rfl :=
      Except.ok.inj ((resizeAtOnce_of_same goal already store allocator).symm.trans answered)
    rw [if_pos already]
    rfl
  rw [if_neg already]
  rcases made : (Table.allocate allocator capacity : Except MapError (Table Id)) with error | fresh
  · obtain rfl :=
      Except.ok.inj ((resizeAtOnce_of_shortage goal already made store).symm.trans answered)
    rw [Table.grant_of_error made]
    rfl
  rw [Table.grant_of_ok made]
  obtain ⟨blank, _, positive, empty⟩ := Table.sound_of_allocate made store
  obtain ⟨emptied, half, linked, rest, full, final, first, second, received⟩ :=
    sound.tables.gather blank positive
  obtain rfl :=
    Except.ok.inj ((resizeAtOnce_of_gathered goal already made first second).symm.trans answered)
  have slots : full.capacity = capacity :=
    received.alike.capacity.trans (capacity_of_goal goal made)
  have count : full.count = map.rehash.gauge.size := by
    have total : map.rehash.gauge.size = (map.rehash.ids newer older).length := sound.tables.size_eq
    rw [received.count blank positive, empty, total, Rehash.ids, List.length_append,
      List.length_append]
    omega
  have gathered : (Rehash.idle full).gauge = ⟨capacity, map.rehash.gauge.size, 0, 0⟩ := by
    rw [Rehash.gauge_idle, slots, count]
  exact congrArg (Turn.mk _ _) gathered

end Sound

end Map

end IncrementalMap
