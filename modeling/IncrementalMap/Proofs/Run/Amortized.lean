/-
This file charges all moves of growth to the insertions, two moves to each.
-/

import IncrementalMap.Proofs.Run.Frame
import IncrementalMap.Proofs.Run.Growth

namespace IncrementalMap

/-- A successful insertion counts once. -/
def Call.inserted {Id Content Memory : Type} (call : Call Id Content Memory)
    (reply : Reply Id Content Memory) : Nat :=
  match call, reply with
  | .insert _, .done (.ok ()) => 1
  | _, _ => 0

namespace History

/-- These are the payloads that all steps of a run have moved. -/
def moved {Store Id Content Memory : Type} : History Store Id Content Memory → Nat
  | [] => 0
  | entry :: earlier => Event.moved entry.outcome.events + moved earlier

/-- This is the number of successful insertions of a run. -/
def inserted {Store Id Content Memory : Type} : History Store Id Content Memory → Nat
  | [] => 0
  | entry :: earlier => entry.call.inserted entry.outcome.result + inserted earlier

end History

/-- An entry relocates the payloads that the one step of its call moves. A call that only reads the
arena makes no step and writes nothing, and a call that is refused changes nothing. -/
inductive Entry.Relocates {Store Id Content Memory : Type} [Arena Store Id Content]
    (entry : Entry Store Id Content Memory) : Nat → Prop where
  | stepped {start : Map Id} {linked : Store} {grown released : List Event}
      {stepped : Outcome (Map Id) Store Nat} {taken : Option Side}
      (starts : entry.call.Starts entry.allocator entry.before entry.store start linked grown)
      (carries : start.Carries linked stepped taken released entry.outcome.state
        entry.outcome.store) : Relocates entry stepped.result
  | read (reads : entry.call.Reads) (unwritten : entry.outcome.store = entry.store) :
      Relocates entry 0
  | refused {error : MapError}
      (unchanged : entry.outcome = ⟨.done (.error error), entry.before, entry.store, []⟩) :
      Relocates entry 0

/-- Giving up an older table moves nothing. -/
theorem Rehash.moved_release {Id : Type} (rehash : Rehash Id) :
    Event.moved rehash.release.2 = 0 := by
  unfold release
  split <;> rfl

/-- A step reports exactly what it has moved. -/
theorem Rehash.moved_step {Store Id Content : Type} [Arena Store Id Content] {rehash : Rehash Id}
    {store : Store} {work : Nat} {outcome : Outcome (Rehash Id) Store Nat}
    (answered : rehash.step store work = .ok outcome) :
    Event.moved outcome.events = outcome.result := by
  unfold step at answered
  split at answered
  · rcases scanned : scanUpTo work (rehash.scanLimit work) 0 rehash store with
      fault | ⟨moved, after, linked⟩
    · rw [scanned] at answered
      cases answered
    · rw [scanned, ok_bind] at answered
      change Except.ok (Outcome.mk moved after.release.1 linked
        (.migrationStep moved after.cursor after.older.count :: after.release.2)) = _ at answered
      obtain rfl := Except.ok.inj answered
      have ending := after.moved_release
      change moved + Event.moved after.release.2 = moved
      omega
  · obtain rfl := Except.ok.inj answered
    rfl

/-- A map that advances reports exactly what its step has moved. -/
theorem Map.moved_advance {Store Id Content : Type} [Arena Store Id Content] {map : Map Id}
    {store : Store} {outcome : Outcome (Map Id) Store Nat}
    (answered : map.advance store = .ok outcome) :
    Event.moved outcome.events = outcome.result := by
  obtain ⟨rehash, config⟩ := map
  rw [advance] at answered
  rcases stepped : rehash.step store config.migrationWork with fault | next
  · rw [stepped] at answered
    cases answered
  · rw [stepped, ok_bind] at answered
    obtain rfl := Except.ok.inj answered
    exact Rehash.moved_step stepped

/-- A growth moves nothing by itself, whether it starts or is deferred. -/
theorem Map.moved_growIfFull {Id : Type} (rehash : Rehash Id) (config : Config)
    (allocator : Allocator) : Event.moved (growIfFull rehash config allocator).2 = 0 := by
  unfold growIfFull
  split
  · unfold Rehash.grow
    split
    · rfl
    · split <;> rfl
  · rfl

/-- What a call does before its step moves nothing. -/
theorem Call.Starts.moved {Store Id Content Memory : Type} [Arena Store Id Content]
    {call : Call Id Content Memory} {allocator : Allocator} {map start : Map Id}
    {store linked : Store} {grown : List Event}
    (starts : call.Starts allocator map store start linked grown) : Event.moved grown = 0 := by
  cases call with
  | insert id =>
      obtain ⟨first, joined, _, _, grows, _⟩ := starts
      have still := Map.moved_growIfFull ⟨joined, map.rehash.older, map.rehash.cursor⟩ map.config
        allocator
      rwa [grows] at still
  | lookup query memory =>
      obtain ⟨_, _, rfl⟩ := starts
      rfl
  | delete query memory =>
      obtain ⟨_, _, rfl⟩ := starts
      rfl
  | resize target => exact starts.elim
  | resizeAtOnce target => exact starts.elim
  | reserve requested => exact starts.elim
  | clear => exact starts.elim
  | visit => exact starts.elim

/-- A call that only reads the arena reports no moves. -/
theorem Call.Moves.moved_of_reads {Id Content Memory : Type} {config : Config} {made : Nat}
    {before after : Gauge} {call : Call Id Content Memory} {reply : Reply Id Content Memory}
    {events : List Event} (moves : Call.Moves config made before call reply events after)
    (reads : call.Reads) : Event.moved events = 0 := by
  cases moves with
  | unreserved => rfl
  | reserved bare rounded => rfl
  | cleared reports =>
      apply List.sum_eq_zero
      intro moved member
      obtain ⟨event, reported, rfl⟩ := List.mem_map.1 member
      rw [List.mem_singleton.1 (reports reported)]
  | visited => rfl
  | _ => exact reads.elim

section Relocations

variable {Store Id Content Memory : Type} [Arena Store Id Content] {call : Call Id Content Memory}
  {allocator : Allocator} {map : Map Id} {store : Store}
  {outcome : Outcome (Map Id) Store (Reply Id Content Memory)}

/-- The events of a call that steps once report what its step has moved, and nothing else. -/
theorem Call.StepsOnce.relocates {taken : Option Side}
    (steps : call.StepsOnce allocator map store outcome taken) :
    Entry.Relocates ⟨call, allocator, map, store, outcome⟩ (Event.moved outcome.events) := by
  obtain ⟨start, linked, grown, stepped, released, starts, carries, reported⟩ := steps
  have moved : Event.moved outcome.events = stepped.result := by
    rw [reported, Event.moved_append, Event.moved_append, starts.moved,
      Map.moved_advance carries.step, carries.releases, Gauge.moved_releases, Nat.zero_add,
      Nat.add_zero]
  rw [moved]
  exact .stepped starts carries

/-- What a performed call reports as moved it has relocated, if it carries an episode along and
succeeds, or if it only reads the arena. -/
theorem Call.Performed.relocates [DecidableEq Id] {linked : Finset Id}
    (performed : call.Performed allocator map store linked outcome)
    (answered : call.perform allocator map store = .ok outcome)
    (kind : call.Works ∧ outcome.result.Succeeds ∨ call.Reads) :
    Entry.Relocates ⟨call, allocator, map, store, outcome⟩ (Event.moved outcome.events) := by
  rcases kind with ⟨works, succeeds⟩ | reads
  · obtain ⟨taken, steps, _⟩ := performed.steps works succeeds
    exact steps.relocates
  · rw [performed.moves.moved_of_reads reads]
    exact .read reads (Call.store_of_reads reads answered)

/-- The events of a legal call count what it relocates, unless it sets a capacity of its own. -/
theorem Map.Links.relocates [LawfulArena Store] [DecidableEq Id] {linked : Finset Id}
    (links : map.Links store linked) (legal : call.Legal linked store)
    (answered : call.perform allocator map store = .ok outcome) (unresized : ¬call.Resizes) :
    Entry.Relocates ⟨call, allocator, map, store, outcome⟩ (Event.moved outcome.events) := by
  have performed := links.answered legal answered
  cases call with
  | insert id =>
      obtain ⟨error | _, replied⟩ := performed.answers
      · obtain ⟨other, same, judged⟩ := links.judged allocator legal
        obtain rfl := Except.ok.inj (same.symm.trans answered)
        have unchanged := judged.unchanged error replied
        rw [unchanged]
        exact .refused rfl
      · exact performed.relocates answered (.inl ⟨trivial, replied ▸ .done⟩)
  | lookup query memory | delete query memory =>
      obtain ⟨candidates, _, replied⟩ := performed.answers
      exact performed.relocates answered (.inl ⟨trivial, replied ▸ .found⟩)
  | reserve requested | clear | visit => exact performed.relocates answered (.inr trivial)
  | resize target | resizeAtOnce target => exact absurd trivial unresized

end Relocations

namespace Gauge

/-- Starting or deferring an episode moves nothing. -/
theorem Grows.moved {gauge after : Gauge} {config : Config} {grown : List Event}
    (grows : gauge.Grows config grown after) : Event.moved grown = 0 := by
  cases grows <;> rfl

/-- A started episode has an older table, so an older table that is not there stays empty. -/
theorem Grows.resting {gauge after : Gauge} {config : Config} {grown : List Event}
    (grows : gauge.Grows config grown after) (allocated : 0 < gauge.capacity)
    (resting : gauge.olderCapacity = 0 → gauge.older = 0) (alone : after.olderCapacity = 0) :
    after.older = 0 := by
  cases grows with
  | early notDue => exact resting alone
  | started due twice rounded => exact absurd alone (Nat.ne_of_gt allocated)
  | deferred due error => exact resting alone

/-- A gauge owes the moves of the running episode, and it has saved two for each payload beyond half
of its load. -/
def owed (gauge : Gauge) (config : Config) : Nat :=
  gauge.older + (2 * gauge.size - config.maxLoadFactor * gauge.capacity)

/-- A gauge without payloads owes nothing. -/
@[simp] theorem owed_blank (config : Config) (capacity : Nat) :
    owed ⟨capacity, 0, 0, 0⟩ config = 0 := by
  simp [owed, size]

/-- A step pays for what it moves. -/
theorem owed_step (gauge : Gauge) (config : Config) (work : Nat) :
    min work gauge.older + (gauge.step work).owed config = gauge.owed config := by
  rw [owed, owed, size_step, capacity_step, older_step]
  omega

/-- A detachment owes nothing more. -/
theorem owed_detach_le (gauge : Gauge) (config : Config) (side : Side) :
    (gauge.detach side).owed config ≤ gauge.owed config := by
  have size := gauge.size_detach_le side
  rw [owed, owed, capacity_detach, older_detach]
  omega

/-- An insertion pays for two moves. When it starts an episode, the savings of the full table cover
all moves of it. -/
theorem owed_arrive_le {gauge after : Gauge} {config : Config} {grown : List Event}
    (light : gauge.Light (config.maxLoadFactor * gauge.capacity))
    (valid : IsCapacity gauge.capacity) (load : 0 < config.maxLoadFactor) (small : gauge.size + 1 < 2 ^ 63)
    (grows : (gauge.arrive gauge.capacity).Grows config grown after)
    (undeferred : ∀ event ∈ grown, event.defersGrowth = false) :
    after.owed config ≤ 2 + gauge.owed config := by
  have weighed := light.weighed
  rcases grows.undeferred valid load small undeferred with ⟨rfl, _⟩ | ⟨rfl, alone, full, _⟩
  · dsimp only [owed, arrive, size]
    omega
  · have empty := light.resting.1 alone
    have doubled : config.maxLoadFactor * (gauge.capacity * 2) =
        2 * (config.maxLoadFactor * gauge.capacity) := by ring
    dsimp only [owed, arrive, start, size]
    omega

/-- An insertion and its step move no more than two payloads beyond what was owed and is not owed
any longer. -/
theorem moved_arrive_le {gauge after : Gauge} {config : Config} {grown advanced : List Event}
    (light : gauge.Light (config.maxLoadFactor * gauge.capacity))
    (valid : IsCapacity gauge.capacity) (load : 0 < config.maxLoadFactor)
    (small : after.size < 2 ^ 63)
    (grows : (gauge.arrive gauge.capacity).Grows config grown after)
    (undeferred : ∀ event ∈ grown, event.defersGrowth = false)
    (reports : after.Reports config.migrationWork advanced) :
    Event.moved (grown ++ advanced) + (after.step config.migrationWork).owed config ≤
      2 + gauge.owed config := by
  have resting := grows.resting valid.pos light.resting.1
  have paid := after.owed_step config config.migrationWork
  rw [grows.size_arrive light.resting.1] at small
  have charged := owed_arrive_le light valid load small grows undeferred
  rw [Event.moved_append, grows.moved, reports.moved resting]
  omega

/-- A gauge that follows a run counts nothing in an older table that is not there. -/
theorem Follows.resting {gauge : Gauge} {config : Config} {first peak : Nat}
    (follows : gauge.Follows config first peak) (alone : gauge.olderCapacity = 0) :
    gauge.older = 0 := by
  rcases follows with ⟨rfl, _, _⟩ | paced
  · rfl
  · exact paced.resting.1 alone

end Gauge

/-- What a call moves and what it leaves owed is covered by what was owed and by two moves for each
successful insertion. -/
theorem Call.Moves.owed_le {Id Content Memory : Type} {config : Config} {made : Nat}
    {before after : Gauge} {call : Call Id Content Memory} {reply : Reply Id Content Memory}
    {events : List Event} (moves : Call.Moves config made before call reply events after)
    (valid : config.validate = .ok ()) (small : after.size < 2 ^ 63)
    (unresized : ¬call.Resizes)
    (undeferred : ∀ event ∈ events, event.defersGrowth = false)
    {first peak : Nat} (follows : before.Follows config first peak) :
    Event.moved events + after.owed config ≤ 2 * call.inserted reply + before.owed config := by
  obtain ⟨_, load, work⟩ := (Config.validate_eq_ok_iff config).1 valid
  have still := moves.moved_of_reads
  cases moves with
  | refused bare none => exact Nat.le_refl _
  | admitted valid kept grows reports =>
      rw [Gauge.size_step] at small
      have calm event member := undeferred event (List.mem_append_left _ member)
      rcases follows with ⟨rfl, rfl, rfl⟩ | paced
      · have blank := Gauge.Paced.blank load valid
        have charged := Gauge.moved_arrive_le blank.light valid load small grows calm reports
        rw [Gauge.owed_blank] at charged ⊢
        exact charged
      · obtain rfl := kept paced.valid.pos
        exact Gauge.moved_arrive_le paced.light valid load small grows calm reports
  | searched reports =>
      have paid := before.owed_step config config.migrationWork
      rw [reports.moved follows.resting]
      omega
  | missed reports =>
      have paid := before.owed_step config config.migrationWork
      rw [reports.moved follows.resting]
      omega
  | removed side counted reports =>
      have paid := before.owed_step config config.migrationWork
      have less := (before.step config.migrationWork).owed_detach_le config side
      rw [Event.moved_append, reports.moved follows.resting, Gauge.moved_releases]
      omega
  | unreserved => rw [Event.moved_nil]; omega
  | reserved bare rounded =>
      rw [Gauge.owed_blank]
      exact Nat.zero_le _
  | cleared reports =>
      rw [still trivial, Gauge.owed_blank]
      exact Nat.zero_le _
  | visited => rw [Event.moved_nil]; omega
  | resized => exact absurd trivial unresized
  | resizedAtOnce => exact absurd trivial unresized

namespace Run

/-- What a run has moved and still owes is covered by two moves for each successful insertion. -/
theorem moved_add_owed_le {Store Id Content Memory : Type} [Arena Store Id Content]
    [LawfulArena Store] [DecidableEq Id] {origin map : Map Id} {arena store : Store}
    {history : History Store Id Content Memory} (run : Run origin arena history map store)
    (free : ∀ entry ∈ history, entry.GrowsFreely) :
    history.moved + map.rehash.gauge.owed map.config ≤ 2 * history.inserted := by
  have valid := run.links.1.valid
  rw [run.config] at valid ⊢
  obtain ⟨_, load, _⟩ := (Config.validate_eq_ok_iff _).1 valid
  refine (run.gauge_induction (motive := fun history gauge =>
    gauge.Follows origin.config (history.firstCapacity origin) history.peak ∧
      history.moved + gauge.owed origin.config ≤ 2 * history.inserted) free ?_ ?_).2
  · intro isCapacity
    refine ⟨.start load isCapacity, ?_⟩
    rw [Gauge.owed_blank]
    exact Nat.le_refl 0
  · intro entry earlier free ⟨follows, paid⟩ moves small
    have charged := moves.owed_le valid small free.unresized free.undeferred follows
    constructor
    · exact moves.follows valid small free.unresized free.undeferred follows
    · rw [History.moved, History.inserted]
      omega

/-- The events of a run that lets its map grow by itself count what its calls relocate. -/
theorem relocates {Store Id Content Memory : Type} [Arena Store Id Content] [LawfulArena Store]
    [DecidableEq Id] {origin map : Map Id} {arena store : Store}
    {history : History Store Id Content Memory} (run : Run origin arena history map store)
    (free : ∀ entry ∈ history, entry.GrowsFreely) :
    ∀ entry ∈ history, entry.Relocates (Event.moved entry.outcome.events) := by
  induction run with
  | start built small => nofun
  | call call allocator earlier careful small legal answered inductionHypothesis =>
      rw [List.forall_mem_cons] at free ⊢
      have links := earlier.links.1.congr careful
      exact ⟨links.relocates legal answered free.1.unresized, inductionHypothesis free.2⟩

/-- A run that lets its map grow by itself moves at most two payloads for each successful insertion,
over all its episodes. What it reports as moved is what the steps of its calls have relocated. -/
theorem moved_le_twice_inserted {Store Id Content Memory : Type} [Arena Store Id Content]
    [LawfulArena Store] [DecidableEq Id] {origin map : Map Id} {arena store : Store}
    {history : History Store Id Content Memory} (run : Run origin arena history map store)
    (free : ∀ entry ∈ history, entry.GrowsFreely) :
    (∀ entry ∈ history, entry.Relocates (Event.moved entry.outcome.events)) ∧
      history.moved ≤ 2 * history.inserted :=
  ⟨run.relocates free, Nat.le_of_add_right_le (run.moved_add_owed_le free)⟩

/-- Two insertions let a map of one slot grow twice, and two payloads move. -/
theorem moved_le_twice_inserted_twice :
    ∃ (history : History (IndexedArena Char) Nat Char Unit) (map : Map Nat)
      (store : IndexedArena Char),
      Run (Map.empty ⟨1, 1, 1⟩) #[⟨.detached 3, 'a'⟩, ⟨.detached 4, 'b'⟩] history map store ∧
        history.moved = 2 ∧ history.inserted = 2 ∧
        (∀ entry ∈ history, entry.Relocates (Event.moved entry.outcome.events)) ∧
        history.moved ≤ 2 * history.inserted := by
  have start : Run (Map.empty ⟨1, 1, 1⟩)
      (#[⟨.detached 3, 'a'⟩, ⟨.detached 4, 'b'⟩] : IndexedArena Char)
      ([] : History _ Nat Char Unit) _ _ :=
    .start (.ofConfig ⟨1, 1, 1⟩ rfl) (Arena.fewerThan_of_size (by decide))
  have first := start.next (.insert 0) .addressSpace ⟨rfl, by decide⟩ rfl
  have second := first.next (.insert 1) .addressSpace ⟨rfl, by decide⟩ rfl
  refine ⟨_, _, _, second, by decide, rfl, second.moved_le_twice_inserted ?_⟩
  simp only [List.forall_mem_cons, List.not_mem_nil, false_imp_iff, implies_true, and_true]
  constructor
  · exact ⟨not_false, by decide⟩
  · exact ⟨not_false, by decide⟩

end Run

end IncrementalMap
