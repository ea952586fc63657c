/-
This file proves that both kinds of resize keep every payload.
-/

import IncrementalMap.Map.Resize
import IncrementalMap.Proofs.Map.Sound
import IncrementalMap.Proofs.Rehash.Drain

namespace IncrementalMap

/-- A resize is refused, drains the older table, starts an episode on a larger or smaller table, or
gathers all payloads in a fresh one. -/
inductive Gauge.Resizes (work : Nat) (gauge : Gauge) : Except MapError Unit → Gauge → Prop where
  | refused (error : MapError) : Resizes work gauge (.error error) gauge
  | drained : Resizes work gauge (.ok ()) gauge.drain
  | started {capacity : Nat} (valid : IsCapacity capacity) (roomy : gauge.size ≤ capacity)
      (allocated : 0 < gauge.capacity) :
      Resizes work gauge (.ok ()) ((gauge.drain.start capacity).step work)
  | gathered {capacity : Nat} (valid : IsCapacity capacity) (roomy : gauge.size ≤ capacity) :
      Resizes work gauge (.ok ()) ⟨capacity, gauge.size, 0, 0⟩

/-- A settled rehash without an episode is drained. -/
theorem Rehash.Settled.gauge_drain {Id : Type} {rehash : Rehash Id} (settled : rehash.Settled)
    (inactive : rehash.isActive = false) : rehash.gauge.drain = rehash.gauge := by
  rw [settled.resting inactive]
  rfl

namespace Map

/-- The goal of a resize is a capacity that has a slot for every payload. -/
theorem resizeGoal_eq_ok {Id : Type} {map : Map Id} {target capacity : Nat}
    (goal : map.resizeGoal target = .ok capacity) :
    IsCapacity capacity ∧ map.size ≤ capacity := by
  unfold resizeGoal at goal
  split at goal <;> rename_i valid
  · contradiction
  · split at goal <;> rename_i covers
    · obtain rfl := Except.ok.inj goal
      exact ⟨not_not.1 valid, covers⟩
    · split at goal <;> rename_i rounded
      · obtain rfl := Except.ok.inj goal
        exact ⟨isCapacity_of_capacityFor? rounded, le_of_capacityFor? rounded⟩
      · contradiction

/-- A table that is allocated for the goal of a resize has exactly that capacity. -/
theorem capacity_of_goal {Id : Type} {map : Map Id} {target capacity : Nat}
    (goal : map.resizeGoal target = .ok capacity) {allocator : Allocator} {fresh : Table Id}
    (made : Table.allocate allocator capacity = .ok fresh) : fresh.capacity = capacity := by
  obtain ⟨rounded, same, _, rfl⟩ := Table.allocate_eq_ok made
  rw [(resizeGoal_eq_ok goal).1.capacityFor?] at same
  rw [Table.capacity_blank, Option.some.inj same]

/-- A map with a resize goal is small enough to be drained in one step. -/
theorem older_count_le_of_goal {Id : Type} {map : Map Id} {target capacity : Nat}
    (goal : map.resizeGoal target = .ok capacity) : map.rehash.older.count ≤ wordLimit := by
  obtain ⟨valid, covers⟩ := resizeGoal_eq_ok goal
  have bound := valid.le_half
  have word : 2 ^ 63 ≤ wordLimit := by decide
  rw [size, Rehash.size] at covers
  omega

/-- A resize without a goal is refused. -/
theorem resize_of_goal_error {Store Id Content : Type} [Arena Store Id Content] {map : Map Id}
    {target : Nat} {error : MapError} (goal : map.resizeGoal target = .error error)
    (store : Store) (allocator : Allocator) :
    map.resize store allocator target = .ok ⟨.error error, map, store, []⟩ := by
  unfold resize
  rw [goal]
  rfl

/-- A resize to the capacity that the newer table has drains the older one. -/
theorem resize_of_same {Store Id Content : Type} [Arena Store Id Content] {map : Map Id}
    {target : Nat} (goal : map.resizeGoal target = .ok map.capacity) {store : Store}
    {outcome : Outcome (Rehash Id) Store Nat} (drained : map.rehash.drain store = .ok outcome)
    (allocator : Allocator) :
    map.resize store allocator target =
      .ok ⟨.ok (), ⟨outcome.state, map.config⟩, outcome.store, outcome.events⟩ := by
  unfold resize
  rw [goal]
  dsimp only
  rw [if_pos rfl, drained, ok_bind]
  rfl

/-- A resize without memory for its goal is refused. -/
theorem resize_of_shortage {Store Id Content : Type} [Arena Store Id Content] {map : Map Id}
    {target capacity : Nat} (goal : map.resizeGoal target = .ok capacity)
    (differ : map.capacity ≠ capacity) {allocator : Allocator} {error : MapError}
    (short : (Table.allocate allocator capacity : Except MapError (Table Id)) = .error error)
    (store : Store) : map.resize store allocator target = .ok ⟨.error error, map, store, []⟩ := by
  unfold resize
  rw [goal]
  dsimp only
  rw [if_neg differ, short]
  rfl

/-- A resize drains the older table, starts an episode on a fresh one, and advances. -/
theorem resize_of_started {Store Id Content : Type} [Arena Store Id Content] {map after : Map Id}
    {target capacity : Nat} (goal : map.resizeGoal target = .ok capacity)
    (differ : map.capacity ≠ capacity) {allocator : Allocator} {fresh : Table Id}
    (made : Table.allocate allocator capacity = .ok fresh) {store linked final : Store}
    {drained : Rehash Id} {moved stepped : Nat} {events advanced : List Event}
    (answered : map.rehash.drain store = .ok ⟨moved, drained, linked, events⟩)
    (allocated : drained.newer.isAllocated = true)
    (moves : advance ⟨(drained.start fresh).1, map.config⟩ linked =
      .ok ⟨stepped, after, final, advanced⟩) :
    map.resize store allocator target = .ok ⟨.ok (), after, final, events ++
      .resize drained.newer.capacity capacity drained.size ::
        ((drained.start fresh).2 ++ advanced)⟩ := by
  unfold resize
  rw [goal]
  dsimp only
  rw [if_neg differ, made]
  dsimp only
  rw [answered, ok_bind]
  dsimp only
  rw [if_pos allocated, moves, ok_bind]
  rfl

/-- A resize of a map without a table puts a fresh one in its place. -/
theorem resize_of_unallocated {Store Id Content : Type} [Arena Store Id Content] {map : Map Id}
    {target capacity : Nat} (goal : map.resizeGoal target = .ok capacity)
    (differ : map.capacity ≠ capacity) {allocator : Allocator} {fresh : Table Id}
    (made : Table.allocate allocator capacity = .ok fresh) {store linked : Store}
    {drained : Rehash Id} {moved : Nat} {events : List Event}
    (answered : map.rehash.drain store = .ok ⟨moved, drained, linked, events⟩)
    (unallocated : drained.newer.isAllocated = false) :
    map.resize store allocator target =
      .ok ⟨.ok (), ⟨⟨fresh, drained.older, drained.cursor⟩, map.config⟩, linked,
        events ++ [.resize drained.newer.capacity capacity drained.size]⟩ := by
  unfold resize
  rw [goal]
  dsimp only
  rw [if_neg differ, made]
  dsimp only
  rw [answered, ok_bind]
  dsimp only
  rw [unallocated, if_neg (by decide)]
  rfl

/-- A resize at once without a goal is refused. -/
theorem resizeAtOnce_of_goal_error {Store Id Content : Type} [Arena Store Id Content]
    {map : Map Id} {target : Nat} {error : MapError} (goal : map.resizeGoal target = .error error)
    (store : Store) (allocator : Allocator) :
    map.resizeAtOnce store allocator target = .ok ⟨.error error, map, store, []⟩ := by
  unfold resizeAtOnce
  rw [goal]
  rfl

/-- A resize at once has nothing to do when its goal is reached and no episode runs. -/
theorem resizeAtOnce_of_same {Store Id Content : Type} [Arena Store Id Content] {map : Map Id}
    {target capacity : Nat} (goal : map.resizeGoal target = .ok capacity)
    (same : map.capacity = capacity ∧ ¬map.isRehashing = true) (store : Store)
    (allocator : Allocator) :
    map.resizeAtOnce store allocator target = .ok ⟨.ok (), map, store, []⟩ := by
  unfold resizeAtOnce
  rw [goal]
  dsimp only
  rw [if_pos same]
  rfl

/-- A resize at once without memory for its goal is refused. -/
theorem resizeAtOnce_of_shortage {Store Id Content : Type} [Arena Store Id Content]
    {map : Map Id} {target capacity : Nat} (goal : map.resizeGoal target = .ok capacity)
    (differ : ¬(map.capacity = capacity ∧ ¬map.isRehashing = true)) {allocator : Allocator}
    {error : MapError}
    (short : (Table.allocate allocator capacity : Except MapError (Table Id)) = .error error)
    (store : Store) :
    map.resizeAtOnce store allocator target = .ok ⟨.error error, map, store, []⟩ := by
  unfold resizeAtOnce
  rw [goal]
  dsimp only
  rw [if_neg differ, short]
  rfl

/-- A resize at once transfers both tables into a fresh one. -/
theorem resizeAtOnce_of_gathered {Store Id Content : Type} [Arena Store Id Content]
    {map : Map Id} {target capacity : Nat} (goal : map.resizeGoal target = .ok capacity)
    (differ : ¬(map.capacity = capacity ∧ ¬map.isRehashing = true)) {allocator : Allocator}
    {fresh emptied half rest full : Table Id} {store linked final : Store}
    (made : Table.allocate allocator capacity = .ok fresh)
    (first : map.rehash.older.transfer fresh store = .ok (emptied, half, linked))
    (second : map.rehash.newer.transfer half linked = .ok (rest, full, final)) :
    map.resizeAtOnce store allocator target = .ok ⟨.ok (), ⟨Rehash.idle full, map.config⟩, final,
      [.immediateResize map.capacity capacity map.size]⟩ := by
  unfold resizeAtOnce
  rw [goal]
  dsimp only
  rw [if_neg differ, made]
  dsimp only [Rehash.abandon]
  rw [first, ok_bind]
  dsimp only [Rehash.newer_idle]
  rw [second, ok_bind]
  rfl

/-- A successful resize leaves a map of the given capacity that is destined for a layout of the
listed payloads, with the settings and the arena payloads as they were. -/
structure Resized {Store Id Content : Type} [Arena Store Id Content] (map : Map Id) (store : Store)
    (listed : List Id) (capacity : Nat) (layout : Layout Id)
    (outcome : Outcome (Map Id) Store (Except MapError Unit)) : Prop where
  result : outcome.result = .ok ()
  config : outcome.state.config = map.config
  slots : outcome.state.capacity = capacity
  destined : outcome.state.Destined outcome.store layout
  ids : (layout.ids capacity).Perm listed
  payloads : Arena.SamePayloads store outcome.store
  resizes : map.rehash.gauge.Resizes map.config.migrationWork outcome.result
    outcome.state.rehash.gauge

namespace Sound

variable {Store Id Content : Type} [Arena Store Id Content] {map : Map Id} {store : Store}
  {newer older : Layout Id} {target capacity : Nat}

/-- Draining a map ends its episode and shows the layout that it is destined for. -/
theorem drain [LawfulArena Store] (sound : map.Sound store newer older)
    (few : map.rehash.older.count ≤ wordLimit) :
    ∃ outcome, map.rehash.drain store = .ok outcome ∧ outcome.state.isActive = false ∧
      Sound ⟨outcome.state, map.config⟩ outcome.store (map.rehash.destined store newer older)
        Layout.blank ∧
      map.rehash.newer.Alike outcome.state.newer ∧ Arena.SamePayloads store outcome.store ∧
      outcome.state.gauge = map.rehash.gauge.drain := by
  obtain ⟨outcome, answered, ended, received, gauge⟩ := sound.tables.drain sound.settled few
  have inactive : outcome.state.isActive = false := by
    rw [ended]
    rfl
  have tables : outcome.state.Sound outcome.store (map.rehash.destined store newer older)
      Layout.blank := by
    rw [ended]
    exact .idle received.sound
  exact ⟨outcome, answered, inactive, ⟨tables, .inl ended, sound.valid⟩, received.alike,
    received.payloads, gauge⟩

/-- A resize to the capacity that the newer table has ends the episode. -/
theorem resize_same [LawfulArena Store] (sound : map.Sound store newer older)
    (goal : map.resizeGoal target = .ok map.capacity) (allocator : Allocator) :
    ∃ outcome, map.resize store allocator target = .ok outcome ∧
      map.Resized store (map.rehash.ids newer older) map.capacity
        (map.rehash.destined store newer older) outcome := by
  obtain ⟨drained, answered, _, soundDrained, alike, payloads, gauge⟩ :=
    sound.drain (older_count_le_of_goal goal)
  refine ⟨_, resize_of_same goal answered allocator, ?_⟩
  constructor
  · rfl
  · rfl
  · exact alike.capacity
  · exact ⟨_, Layout.blank, soundDrained, Rehash.destined_blank _ _ _⟩
  · exact sound.tables.ids_destined
  · exact payloads
  · rw [gauge]
    exact .drained

/-- A resize of a map with a table starts an episode on a fresh one, which receives the payloads in
the order in which the former one would show them. -/
theorem resize_started [LawfulArena Store] (sound : map.Sound store newer older)
    (goal : map.resizeGoal target = .ok capacity) (differ : map.capacity ≠ capacity)
    {allocator : Allocator} {fresh : Table Id}
    (made : Table.allocate allocator capacity = .ok fresh)
    (allocated : 0 < map.capacity) :
    ∃ outcome, map.resize store allocator target = .ok outcome ∧
      map.Resized store (map.rehash.ids newer older) capacity (Layout.blank.pour (fresh.home store)
        ((map.rehash.destined store newer older).ids map.capacity)) outcome := by
  obtain ⟨valid, roomy⟩ := resizeGoal_eq_ok goal
  have exactly := capacity_of_goal goal made
  obtain ⟨⟨moved, drained, linked, events⟩, answered, inactive, soundDrained, alike, payloads,
    gauge⟩ := sound.drain (older_count_le_of_goal goal)
  dsimp only at inactive soundDrained alike payloads gauge
  obtain ⟨blank, _, positive, empty⟩ := Table.sound_of_allocate made linked
  have slots : drained.newer.capacity = map.capacity := alike.capacity
  have former : drained.newer.isAllocated = true := by
    rw [Table.isAllocated_iff, slots]
    exact allocated
  have active : (drained.start fresh).1.isActive = true := former
  obtain ⟨started, _⟩ := soundDrained.tables.start inactive blank positive
  obtain ⟨stepped, after, final, advanced, filled, left, carries, soundAfter, _, payloadsAfter,
    destined⟩ := advance_sound ⟨(drained.start fresh).1, map.config⟩ started
      (fun idle => absurd (active.symm.trans idle) (by decide)) sound.valid
  have startedGauge : (drained.start fresh).1.gauge = map.rehash.gauge.drain.start capacity := by
    rw [← gauge, ← exactly]
    simp only [Rehash.start, Rehash.gauge, Gauge.start, empty]
  have moves : after.gauge =
      (map.rehash.gauge.drain.start capacity).step map.config.migrationWork := by
    rw [← startedGauge]
    exact carries.gauge
  have home : fresh.home linked = fresh.home store :=
    funext ((Table.Alike.refl fresh).home payloads)
  refine ⟨_, resize_of_started goal differ made answered former carries.step, ?_⟩
  constructor
  · rfl
  · rfl
  · exact (congrArg Gauge.capacity moves).trans (Gauge.capacity_step _ _)
  · refine ⟨filled, left, soundAfter, destined.trans ?_⟩
    rw [← home, ← slots]
    rfl
  · apply (Layout.ids_pour_blank _).trans sound.tables.ids_destined
    intro id _
    exact exactly ▸ Table.home_lt blank.shaped positive store id
  · exact payloads.trans payloadsAfter
  · change map.rehash.gauge.Resizes map.config.migrationWork (.ok ()) after.gauge
    rw [moves]
    exact .started valid roomy allocated

/-- A resize of a map without a table has nothing to move. -/
theorem resize_unallocated [LawfulArena Store] (sound : map.Sound store newer older)
    (goal : map.resizeGoal target = .ok capacity) (differ : map.capacity ≠ capacity)
    {allocator : Allocator} {fresh : Table Id}
    (made : Table.allocate allocator capacity = .ok fresh)
    (none : map.capacity = 0) :
    ∃ outcome, map.resize store allocator target = .ok outcome ∧
      map.Resized store (map.rehash.ids newer older) capacity Layout.blank outcome := by
  obtain ⟨valid, roomy⟩ := resizeGoal_eq_ok goal
  have exactly := capacity_of_goal goal made
  obtain ⟨⟨moved, drained, linked, events⟩, answered, inactive, soundDrained, alike, payloads,
    gauge⟩ := sound.drain (older_count_le_of_goal goal)
  dsimp only at inactive soundDrained alike payloads gauge
  obtain ⟨blank, _, _, empty⟩ := Table.sound_of_allocate made linked
  have bare : drained.newer.isAllocated = false := by
    rw [← Bool.not_eq_true, Table.isAllocated_iff, alike.capacity]
    exact Nat.not_lt_of_le (Nat.le_of_eq none)
  have alone : (⟨fresh, drained.older, drained.cursor⟩ : Rehash Id) = Rehash.idle fresh := by
    have settled : drained.Settled := soundDrained.settled
    rw [settled.resting inactive]
    rfl
  obtain ⟨_, _, _, nothing⟩ := sound.tables.unallocated none
  have unfilled : map.rehash.gauge.size = 0 := by
    have count := sound.tables.size_eq
    rw [nothing] at count
    exact count
  refine ⟨_, resize_of_unallocated goal differ made answered bare, ?_⟩
  rw [alone]
  constructor
  · rfl
  · rfl
  · exact exactly
  · exact ⟨Layout.blank, Layout.blank, ⟨.idle blank, .inl rfl, sound.valid⟩,
      Rehash.destined_blank _ _ _⟩
  · rw [nothing, Layout.ids_blank]
  · exact payloads
  · have gathered : map.rehash.gauge.Resizes map.config.migrationWork (.ok ())
        ⟨capacity, map.rehash.gauge.size, 0, 0⟩ := .gathered valid roomy
    change map.rehash.gauge.Resizes map.config.migrationWork (.ok ()) (Rehash.idle fresh).gauge
    rw [Rehash.gauge_idle, exactly, empty]
    rwa [unfilled] at gathered

/-- A resize at once to the capacity that a single table has changes nothing. -/
theorem resizeAtOnce_same (sound : map.Sound store newer older)
    (goal : map.resizeGoal target = .ok map.capacity) (inactive : map.isRehashing = false)
    (allocator : Allocator) :
    ∃ outcome, map.resizeAtOnce store allocator target = .ok outcome ∧
      outcome.state.isRehashing = false ∧
      map.Resized store (map.rehash.ids newer older) map.capacity
        (map.rehash.destined store newer older) outcome := by
  have still : ¬map.isRehashing = true := Bool.not_eq_true _ ▸ inactive
  refine ⟨_, resizeAtOnce_of_same goal ⟨rfl, still⟩ store allocator, inactive, ?_⟩
  constructor
  · rfl
  · rfl
  · rfl
  · exact ⟨newer, older, sound, rfl⟩
  · exact sound.tables.ids_destined
  · exact .refl store
  · have kept : map.rehash.gauge.Resizes map.config.migrationWork (.ok ())
        map.rehash.gauge.drain := .drained
    rwa [sound.settled.gauge_drain inactive] at kept

/-- A resize at once lets a fresh table receive the payloads of both tables, those of the older one
first. -/
theorem resizeAtOnce_gathered [LawfulArena Store] (sound : map.Sound store newer older)
    (goal : map.resizeGoal target = .ok capacity)
    (differ : ¬(map.capacity = capacity ∧ ¬map.isRehashing = true)) {allocator : Allocator}
    {fresh : Table Id} (made : Table.allocate allocator capacity = .ok fresh) :
    ∃ outcome, map.resizeAtOnce store allocator target = .ok outcome ∧
      outcome.state.isRehashing = false ∧
      map.Resized store (map.rehash.ids newer older) capacity (Layout.blank.pour (fresh.home store)
        (older.ids map.rehash.older.capacity ++ newer.ids map.capacity)) outcome := by
  obtain ⟨valid, roomy⟩ := resizeGoal_eq_ok goal
  obtain ⟨blank, _, positive, _⟩ := Table.sound_of_allocate made store
  obtain ⟨emptied, half, linked, rest, full, final, first, second, received⟩ :=
    sound.tables.gather blank positive
  have slots : full.capacity = capacity :=
    received.alike.capacity.trans (capacity_of_goal goal made)
  have listed : (Layout.ids (Layout.blank.pour (fresh.home store)
      (older.ids map.rehash.older.capacity ++ newer.ids map.rehash.newer.capacity))
        full.capacity).Perm (map.rehash.ids newer older) := by
    apply (Layout.ids_pour_blank _).trans List.perm_append_comm
    intro id _
    exact received.alike.capacity ▸ Table.home_lt blank.shaped positive store id
  have count : full.count = map.rehash.gauge.size := by
    rw [received.sound.counted, listed.length_eq, ← sound.tables.size_eq]
    rfl
  refine ⟨_, resizeAtOnce_of_gathered goal differ made first second, rfl, ?_⟩
  constructor
  · rfl
  · rfl
  · exact slots
  · exact ⟨_, Layout.blank, ⟨.idle received.sound, .inl rfl, sound.valid⟩,
      Rehash.destined_blank _ _ _⟩
  · exact slots ▸ listed
  · exact received.payloads
  · rw [Rehash.gauge_idle, count, slots]
    exact .gathered valid roomy

/-- A resize is refused and leaves everything as it is, or it succeeds. -/
theorem resize [LawfulArena Store] (sound : map.Sound store newer older) (allocator : Allocator)
    (target : Nat) :
    ∃ outcome, map.resize store allocator target = .ok outcome ∧
      ((∃ error, outcome = ⟨.error error, map, store, []⟩) ∨
        ∃ capacity layout, map.resizeGoal target = .ok capacity ∧
          map.Resized store (map.rehash.ids newer older) capacity layout outcome) := by
  rcases goal : map.resizeGoal target with error | capacity
  · exact ⟨_, resize_of_goal_error goal store allocator, .inl ⟨error, rfl⟩⟩
  by_cases already : map.capacity = capacity
  · rw [← already] at goal ⊢
    obtain ⟨outcome, answered, resized⟩ := sound.resize_same goal allocator
    exact ⟨outcome, answered, .inr ⟨_, _, rfl, resized⟩⟩
  rcases made : (Table.allocate allocator capacity : Except MapError (Table Id)) with error | fresh
  · exact ⟨_, resize_of_shortage goal already made store, .inl ⟨error, rfl⟩⟩
  rcases Nat.eq_zero_or_pos map.capacity with none | allocated
  · obtain ⟨outcome, answered, resized⟩ := sound.resize_unallocated goal already made none
    exact ⟨outcome, answered, .inr ⟨_, _, rfl, resized⟩⟩
  · obtain ⟨outcome, answered, resized⟩ := sound.resize_started goal already made allocated
    exact ⟨outcome, answered, .inr ⟨_, _, rfl, resized⟩⟩

/-- A resize at once is refused and leaves everything as it is, or it succeeds and ends the
episode. -/
theorem resizeAtOnce [LawfulArena Store] (sound : map.Sound store newer older)
    (allocator : Allocator) (target : Nat) :
    ∃ outcome, map.resizeAtOnce store allocator target = .ok outcome ∧
      ((∃ error, outcome = ⟨.error error, map, store, []⟩) ∨
        ∃ capacity layout, map.resizeGoal target = .ok capacity ∧
          outcome.state.isRehashing = false ∧
          map.Resized store (map.rehash.ids newer older) capacity layout outcome) := by
  rcases goal : map.resizeGoal target with error | capacity
  · exact ⟨_, resizeAtOnce_of_goal_error goal store allocator, .inl ⟨error, rfl⟩⟩
  by_cases already : map.capacity = capacity ∧ ¬map.isRehashing = true
  · obtain ⟨rfl, still⟩ := already
    obtain ⟨outcome, answered, inactive, resized⟩ :=
      sound.resizeAtOnce_same goal (Bool.eq_false_of_not_eq_true still) allocator
    exact ⟨outcome, answered, .inr ⟨_, _, rfl, inactive, resized⟩⟩
  rcases made : (Table.allocate allocator capacity : Except MapError (Table Id)) with error | fresh
  · exact ⟨_, resizeAtOnce_of_shortage goal already made store, .inl ⟨error, rfl⟩⟩
  obtain ⟨outcome, answered, inactive, resized⟩ := sound.resizeAtOnce_gathered goal already made
  exact ⟨outcome, answered, .inr ⟨_, _, rfl, inactive, resized⟩⟩

/-- Without an episode both kinds of resize are refused for the same reason, or both are destined
for the same layout of the same capacity. -/
theorem resize_eq_resizeAtOnce [LawfulArena Store] (sound : map.Sound store newer older)
    (inactive : map.isRehashing = false) (allocator : Allocator) (target : Nat) :
    ∃ outcome direct, map.resize store allocator target = .ok outcome ∧
      map.resizeAtOnce store allocator target = .ok direct ∧
      ((∃ error, outcome.result = .error error ∧ direct.result = .error error) ∨
        ∃ capacity layout,
          map.Resized store (map.rehash.ids newer older) capacity layout outcome ∧
          map.Resized store (map.rehash.ids newer older) capacity layout direct) := by
  rcases goal : map.resizeGoal target with error | capacity
  · exact ⟨_, _, resize_of_goal_error goal store allocator,
      resizeAtOnce_of_goal_error goal store allocator, .inl ⟨error, rfl, rfl⟩⟩
  by_cases already : map.capacity = capacity
  · rw [← already] at goal
    obtain ⟨outcome, answered, resized⟩ := sound.resize_same goal allocator
    obtain ⟨direct, returned, _, gathered⟩ := sound.resizeAtOnce_same goal inactive allocator
    exact ⟨outcome, direct, answered, returned, .inr ⟨_, _, resized, gathered⟩⟩
  have differ : ¬(map.capacity = capacity ∧ ¬map.isRehashing = true) := fun both => already both.1
  rcases made : (Table.allocate allocator capacity : Except MapError (Table Id)) with error | fresh
  · exact ⟨_, _, resize_of_shortage goal already made store,
      resizeAtOnce_of_shortage goal differ made store, .inl ⟨error, rfl, rfl⟩⟩
  obtain ⟨direct, returned, _, gathered⟩ := sound.resizeAtOnce_gathered goal differ made
  have nothing : older.ids map.rehash.older.capacity = [] := by
    rw [map.rehash.isActive_eq_false_iff.1 inactive, Layout.ids_zero]
  rw [nothing, List.nil_append] at gathered
  rcases Nat.eq_zero_or_pos map.capacity with none | allocated
  · obtain ⟨outcome, answered, resized⟩ := sound.resize_unallocated goal already made none
    rw [none, Layout.ids_zero, Layout.pour_nil] at gathered
    exact ⟨outcome, direct, answered, returned, .inr ⟨_, _, resized, gathered⟩⟩
  · obtain ⟨outcome, answered, resized⟩ := sound.resize_started goal already made allocated
    rw [Rehash.destined, nothing, Layout.pour_nil] at resized
    exact ⟨outcome, direct, answered, returned, .inr ⟨_, _, resized, gathered⟩⟩

end Sound

/-- A resize leaves the listed payloads, in any order. -/
theorem Resized.leaves {Store Id Content : Type} [Arena Store Id Content] {map : Map Id}
    {store : Store} {listed others : List Id} {capacity : Nat} {layout : Layout Id}
    {outcome : Outcome (Map Id) Store (Except MapError Unit)}
    (resized : map.Resized store listed capacity layout outcome) (same : listed.Perm others) :
    map.Leaves store others outcome := by
  obtain ⟨newer, older, sound, ids⟩ := resized.destined.holds
  rw [resized.slots] at ids
  exact ⟨⟨newer, older, sound, (ids.trans resized.ids).trans same⟩, resized.config,
    resized.payloads⟩

namespace Holds

/-- A resize starts a new episode at most, and a refusal leaves everything as it is. -/
theorem resize {Store Id Content : Type} [Arena Store Id Content] [LawfulArena Store]
    {map : Map Id} {store : Store} {listed : List Id} (holds : map.Holds store listed)
    (allocator : Allocator) (target : Nat) :
    ∃ outcome, map.resize store allocator target = .ok outcome ∧
      map.Leaves store listed outcome ∧
      map.rehash.gauge.Resizes map.config.migrationWork outcome.result
        outcome.state.rehash.gauge := by
  obtain ⟨newer, older, sound, same⟩ := holds
  obtain ⟨outcome, answered, ⟨error, rfl⟩ | ⟨capacity, layout, _, resized⟩⟩ :=
    sound.resize allocator target
  · exact ⟨_, answered, ⟨⟨newer, older, sound, same⟩, rfl, .refl store⟩, .refused error⟩
  · exact ⟨outcome, answered, resized.leaves same, resized.resizes⟩

/-- A resize at once ends with all payloads in one table, and a refusal leaves everything as it
is. -/
theorem resizeAtOnce {Store Id Content : Type} [Arena Store Id Content] [LawfulArena Store]
    {map : Map Id} {store : Store} {listed : List Id} (holds : map.Holds store listed)
    (allocator : Allocator) (target : Nat) :
    ∃ outcome, map.resizeAtOnce store allocator target = .ok outcome ∧
      map.Leaves store listed outcome ∧
      map.rehash.gauge.Resizes map.config.migrationWork outcome.result
        outcome.state.rehash.gauge := by
  obtain ⟨newer, older, sound, same⟩ := holds
  obtain ⟨outcome, answered, ⟨error, rfl⟩ | ⟨capacity, layout, _, _, resized⟩⟩ :=
    sound.resizeAtOnce allocator target
  · exact ⟨_, answered, ⟨⟨newer, older, sound, same⟩, rfl, .refl store⟩, .refused error⟩
  · exact ⟨outcome, answered, resized.leaves same, resized.resizes⟩

end Holds

end Map

end IncrementalMap
