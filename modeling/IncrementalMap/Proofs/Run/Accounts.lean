/-
This file proves that the events of a map account for every episode of its course.
-/

import IncrementalMap.Proofs.Run.Episode
import IncrementalMap.Proofs.Run.Reachable
import IncrementalMap.Proofs.Run.Schedule

namespace IncrementalMap

namespace Mark

/-- The events of a call are marked in their order. An episode is abandoned before them, and a
payload is taken behind the first of them, which reports the step. -/
def place (abandoned : Option Nat) (taken : Bool) (events : List Event) : List Mark :=
  (abandoned.map Mark.abandoned).toList ++
    match taken, events with
    | true, stepped :: released => .reported stepped :: .taken :: released.map Mark.reported
    | true, [] => [.taken]
    | false, events => events.map Mark.reported

@[simp] theorem place_reported (events : List Event) :
    place none false events = events.map Mark.reported := rfl

/-- Marks are placed alike with and without cursors. -/
theorem place_withoutCursor (abandoned : Option Nat) (taken : Bool) (events : List Event) :
    (place abandoned taken events).map withoutCursor =
      place abandoned taken (events.map Event.withoutCursor) := by
  cases abandoned <;> cases taken <;> cases events <;>
    simp [place, withoutCursor, Function.comp_def]

/-- The events of a call are what its marks report. -/
theorem filterMap_place (abandoned : Option Nat) (taken : Bool) (events : List Event) :
    (place abandoned taken events).filterMap event? = events := by
  cases abandoned <;> cases taken <;> cases events <;>
    simp [place, event?, List.filterMap_cons, List.filterMap_map, Function.comp_def]

/-- An abandoned episode leaves one mark. -/
theorem countP_place (abandoned : Option Nat) (taken : Bool) (events : List Event) :
    (place abandoned taken events).countP abandons = if abandoned.isSome then 1 else 0 := by
  cases abandoned <;> cases taken <;> cases events <;>
    simp [place, abandons, List.countP_cons, List.countP_map, Function.comp_def]

/-- The marks with an event of some kind are as many as these events. -/
theorem countP_event (record : List Mark) (kind : Event → Bool) :
    (record.filterMap event?).countP kind = record.countP fun mark => mark.event?.any kind := by
  rw [List.countP_filterMap]
  apply List.countP_congr
  intro mark _
  cases mark.event? <;> simp

end Mark

/-- These calls give up both tables. -/
def Call.abandons {Id Content Memory : Type} : Call Id Content Memory → Bool
  | .resizeAtOnce _ => true
  | .clear => true
  | _ => false

namespace Entry

variable {Store Id Content Memory : Type}

/-- A clear or a successful resize at once abandons the episode that runs. -/
def abandons (entry : Entry Store Id Content Memory) : Bool :=
  entry.before.isRehashing && entry.call.abandons && entry.outcome.result.result.isOk

/-- These are the marks that a call leaves. -/
def marks [Arena Store Id Content] [DecidableEq Id] (entry : Entry Store Id Content Memory) :
    List Mark :=
  Mark.place (if entry.abandons then some entry.before.remaining else none) entry.takesOlder
    entry.outcome.events

end Entry

namespace History

variable {Store Id Content Memory : Type}

/-- These are the events of a history in the order of their calls. -/
def events : History Store Id Content Memory → List Event
  | [] => []
  | entry :: earlier => events earlier ++ entry.outcome.events

/-- This is the record of a history, with the marks of its calls in their order. -/
def record [Arena Store Id Content] [DecidableEq Id] :
    History Store Id Content Memory → List Mark
  | [] => []
  | entry :: earlier => record earlier ++ entry.marks

end History

namespace Gauge

/-- A granted capacity is one. -/
theorem ne_zero_of_grant {allocator : Allocator} {requested capacity : Nat}
    (granted : allocator.grant requested = .ok capacity) : capacity ≠ 0 := by
  unfold Allocator.grant at granted
  split at granted <;> rename_i rounded
  · exact nomatch granted
  · split at granted
    · obtain rfl := Except.ok.inj granted
      exact Nat.ne_of_gt (isCapacity_of_capacityFor? rounded).pos
    · exact nomatch granted

/-- The first table has slots. -/
theorem ne_zero_of_first {gauge : Gauge} {config : Config} {allocator : Allocator} {capacity : Nat}
    (made : gauge.first config allocator = .ok capacity) : capacity ≠ 0 := by
  unfold first at made
  split at made <;> rename_i bare
  · exact ne_zero_of_grant made
  · exact Except.ok.inj made ▸ bare

namespace Accounts

variable {gauge : Gauge} {record : List Mark}

/-- A refused call leaves no mark. -/
theorem refuse (accounts : gauge.Accounts record) (error : MapError) :
    (gauge.refuse error).gauge.Accounts
      (record ++ (gauge.refuse error).events.map Mark.reported) := by
  rw [Gauge.refuse, List.map_nil, List.append_nil]
  exact accounts

/-- A growth is accounted for, whether it is early, started or deferred. -/
theorem grow (accounts : gauge.Accounts record) (allocated : gauge.capacity ≠ 0) (config : Config)
    (allocator : Allocator) :
    (gauge.grow config allocator).1.Accounts
      (record ++ (gauge.grow config allocator).2.map Mark.reported) := by
  unfold Gauge.grow
  split <;> rename_i due
  · split
    · exact accounts.start due.1 allocated _
    · exact accounts.aside rfl
  · rw [List.map_nil, List.append_nil]
    exact accounts

/-- An insertion is accounted for. -/
theorem insert (accounts : gauge.Accounts record) (config : Config) (allocator : Allocator) :
    (gauge.insert config allocator).gauge.Accounts
      (record ++ (gauge.insert config allocator).events.map Mark.reported) := by
  unfold Gauge.insert
  split <;> rename_i made
  · exact accounts.refuse _
  · rename_i capacity
    have arrived : (gauge.arrive capacity).Accounts record := accounts.quiet rfl rfl
    have grown := arrived.grow (ne_zero_of_first made) config allocator
    have stepped := grown.step config.migrationWork
    rw [List.append_assoc, ← List.map_append] at stepped
    exact stepped

/-- A search that takes nothing from the older table is accounted for. -/
theorem search (accounts : gauge.Accounts record) (config : Config) {taken : Option Side}
    (keeps : taken ≠ some .older) :
    (gauge.search config taken).gauge.Accounts
      (record ++ (gauge.search config taken).events.map Mark.reported) := by
  have stepped := accounts.step config.migrationWork
  have released : (gauge.step config.migrationWork).releases taken = [] := by
    cases taken with
    | none => rfl
    | some side =>
        cases side with
        | newer => rfl
        | older => exact absurd rfl keeps
  have kept : ((gauge.step config.migrationWork).take taken).olderCapacity =
      (gauge.step config.migrationWork).olderCapacity ∧
      ((gauge.step config.migrationWork).take taken).older =
        (gauge.step config.migrationWork).older := by
    cases taken with
    | none => exact ⟨rfl, rfl⟩
    | some side =>
        cases side with
        | newer => exact ⟨rfl, rfl⟩
        | older => exact absurd rfl keeps
  simp only [Gauge.search, released, List.append_nil]
  exact stepped.quiet kept.1 kept.2

/-- A payload that is taken from the older table is accounted for behind the step. -/
theorem searchOlder (accounts : gauge.Accounts record) (config : Config)
    (counted : 0 < (gauge.step config.migrationWork).older) :
    (gauge.search config (some .older)).gauge.Accounts
      (record ++ Mark.place none true (gauge.search config (some .older)).events) := by
  have more : ¬gauge.older ≤ config.migrationWork := by
    rw [Gauge.older_step] at counted
    omega
  have active : gauge.olderCapacity ≠ 0 := by
    intro none
    obtain ⟨empty, _⟩ := accounts.rests none
    omega
  have stepped := accounts.step config.migrationWork
  have events : gauge.stepEvents config.migrationWork = [.migrationStep (min config.migrationWork
      gauge.older) 0 (gauge.older - config.migrationWork)] := by
    rw [Gauge.stepEvents, if_neg active, if_neg more]
  rw [events] at stepped
  have left : (gauge.step config.migrationWork).olderCapacity ≠ 0 := by
    rw [Gauge.step, if_neg more]
    exact active
  have taken := stepped.take left counted
  simp only [Gauge.search, Gauge.releases, Gauge.take, Gauge.detach, events]
  by_cases last : (gauge.step config.migrationWork).older = 1
  · rw [if_pos last, if_pos last]
    have empty := Nat.sub_eq_zero_of_le (Nat.le_of_eq last)
    have finished := taken.finish left empty (gauge.step config.migrationWork).newer
    simpa [Mark.place] using finished
  · rw [if_neg last, if_neg last]
    simpa [Mark.place] using taken

/-- A resize is accounted for, with the episode that it ends and the one that it starts. -/
theorem resize (accounts : gauge.Accounts record) (config : Config) (allocator : Allocator)
    {target : Nat} (few : ∀ capacity, gauge.goal target = .ok capacity → gauge.older ≤ wordLimit) :
    (gauge.resize config allocator target).gauge.Accounts
      (record ++ (gauge.resize config allocator target).events.map Mark.reported) := by
  unfold Gauge.resize
  rcases goal : gauge.goal target with error | capacity
  · exact accounts.refuse error
  have drained := accounts.step wordLimit
  dsimp only
  split
  · exact drained
  split
  · exact accounts.refuse _
  have ended : (gauge.step wordLimit).olderCapacity = 0 := by
    rw [Gauge.step, if_pos (few _ goal)]
  have resized : Event.tellsMigration (.resize gauge.capacity capacity gauge.size) = false := rfl
  have told := drained.aside resized
  unfold Gauge.replace
  split <;> rename_i bare
  · have filled : Accounts { gauge.step wordLimit with capacity, newer := 0 } _ :=
      told.quiet rfl rfl
    simpa using filled
  · rw [← Gauge.capacity_step gauge wordLimit] at bare
    have started := told.start ended bare capacity
    have stepped := started.step config.migrationWork
    simpa using stepped

/-- Both tables may be given up for another one, and then a running episode is abandoned. -/
theorem giveUp (accounts : gauge.Accounts record) (capacity newer : Nat) :
    Accounts ⟨capacity, newer, 0, 0⟩ (record ++ ((if gauge.olderCapacity = 0 then none
      else some gauge.older).map Mark.abandoned).toList) := by
  split <;> rename_i none
  · obtain ⟨empty, _⟩ := accounts.rests none
    have given : Accounts ⟨capacity, newer, 0, 0⟩ record := accounts.quiet none.symm empty.symm
    simpa using given
  · exact accounts.abandon none capacity newer

/-- A resize at once is accounted for, with the episode that it abandons. -/
theorem resizeAtOnce (accounts : gauge.Accounts record) (allocator : Allocator) (target : Nat) :
    (gauge.resizeAtOnce allocator target).gauge.Accounts (record ++ Mark.place
      (if (gauge.resizeAtOnce allocator target).result.isOk then
        if gauge.olderCapacity = 0 then none else some gauge.older else none) false
      (gauge.resizeAtOnce allocator target).events) := by
  unfold Gauge.resizeAtOnce
  rcases gauge.goal target with error | capacity
  · exact accounts.refuse error
  dsimp only
  split <;> rename_i already
  · simpa [Except.isOk, Except.toBool, already] using accounts
  split
  · exact accounts.refuse _
  · have gathered := accounts.giveUp capacity gauge.size
    have silent : Event.tellsMigration (.immediateResize gauge.capacity capacity gauge.size) =
        false := rfl
    have told := gathered.aside silent
    rw [List.append_assoc] at told
    exact told

/-- A reservation is accounted for. -/
theorem reserve (accounts : gauge.Accounts record) (allocator : Allocator) (requested : Nat) :
    (gauge.reserve allocator requested).gauge.Accounts
      (record ++ (gauge.reserve allocator requested).events.map Mark.reported) := by
  unfold Gauge.reserve
  split
  · split
    · exact accounts.refuse _
    · rename_i capacity _
      have reserved : Accounts { gauge with capacity, newer := 0 } record :=
        accounts.quiet rfl rfl
      exact reserved.aside rfl
  · rw [List.map_nil, List.append_nil]
    exact accounts

/-- A clear is accounted for, with the episode that it abandons. -/
theorem clear (accounts : gauge.Accounts record) :
    gauge.clear.gauge.Accounts (record ++ Mark.place
      (if gauge.olderCapacity = 0 then none else some gauge.older) false gauge.clear.events) := by
  have given := accounts.giveUp 0 0
  unfold Gauge.clear
  split
  · simpa [Mark.place] using given
  · have silent : Event.tellsMigration (.clear gauge.size) = false := rfl
    have told := given.aside silent
    rw [List.append_assoc] at told
    exact told

end Accounts

end Gauge

namespace Entry

variable {Store Id Content Memory : Type}

/-- A call abandons nothing unless it is one that gives up both tables. -/
theorem abandons_eq_false {entry : Entry Store Id Content Memory}
    (keeps : entry.call.abandons = false) : entry.abandons = false := by
  rw [abandons, keeps, Bool.and_false, Bool.false_and]

variable [Arena Store Id Content] [DecidableEq Id] {entry : Entry Store Id Content Memory}
  {turn : Turn} {record : List Mark}

/-- An account of the turn of a call is one of its marks. -/
theorem accounts_of_turn (made : entry.turn = turn)
    (accounts : turn.gauge.Accounts (record ++
      Mark.place (if entry.abandons then some entry.before.remaining else none) entry.takesOlder
        turn.events)) :
    entry.outcome.state.rehash.gauge.Accounts (record ++ entry.marks.map Mark.withoutCursor) := by
  subst made
  rw [marks, Mark.place_withoutCursor]
  exact accounts

/-- A call that abandons nothing and takes nothing is marked by its events alone. -/
theorem accounts_of_events (made : entry.turn = turn) (holds : entry.abandons = false)
    (stays : entry.takesOlder = false)
    (accounts : turn.gauge.Accounts (record ++ turn.events.map Mark.reported)) :
    entry.outcome.state.rehash.gauge.Accounts (record ++ entry.marks.map Mark.withoutCursor) := by
  apply accounts_of_turn made
  rw [holds, stays]
  exact accounts

/-- A call that gives up both tables abandons what the gauge shows. -/
theorem abandoned_eq {linked : Finset Id} (links : entry.before.Links entry.store linked)
    (gives : entry.call.abandons = true) :
    (if entry.abandons then some entry.before.remaining else none) =
      if entry.outcome.result.result.isOk then
        if entry.before.rehash.gauge.olderCapacity = 0 then none
        else some entry.before.rehash.gauge.older
      else none := by
  rw [abandons, gives, Bool.and_true, links.remaining_eq,
    if_congr entry.before.gauge_olderCapacity_eq_zero_iff rfl rfl]
  cases entry.before.isRehashing <;> cases entry.outcome.result.result.isOk <;> rfl

/-- Every call extends an account of its map by its marks. -/
theorem Follows.accounts {taken : Option Side} (follows : entry.Follows taken) {linked : Finset Id}
    (links : entry.before.Links entry.store linked)
    (accounts : entry.before.rehash.gauge.Accounts record) :
    entry.outcome.state.rehash.gauge.Accounts (record ++ entry.marks.map Mark.withoutCursor) := by
  have made := follows.turn
  obtain ⟨call, allocator, map, store, outcome⟩ := entry
  cases call with
  | insert id => exact accounts_of_events made (abandons_eq_false rfl) rfl (accounts.insert _ _)
  | lookup query memory =>
      exact accounts_of_events made (abandons_eq_false rfl) rfl (accounts.search _ nofun)
  | delete query memory =>
      by_cases older : taken = some .older
      · subst older
        apply accounts_of_turn made
        rw [abandons_eq_false rfl, follows.older.1 rfl]
        exact accounts.searchOlder _ (follows.counted _ rfl)
      · have stays := mt follows.older.2 older
        rw [Bool.not_eq_true] at stays
        exact accounts_of_events made (abandons_eq_false rfl) stays (accounts.search _ older)
  | resize target =>
      have few (capacity : Nat) (goal : map.rehash.gauge.goal target = .ok capacity) :
          map.rehash.gauge.older ≤ wordLimit := Map.older_count_le_of_goal goal
      exact accounts_of_events made (abandons_eq_false rfl) rfl (accounts.resize _ _ few)
  | resizeAtOnce target =>
      apply accounts_of_turn made
      rw [abandoned_eq links rfl, show outcome.result.result = _ from congrArg Turn.result made]
      exact accounts.resizeAtOnce _ _
  | reserve requested =>
      exact accounts_of_events made (abandons_eq_false rfl) rfl (accounts.reserve _ _)
  | clear =>
      apply accounts_of_turn made
      rw [abandoned_eq links rfl, show outcome.result.result = _ from congrArg Turn.result made]
      exact accounts.clear
  | visit =>
      apply accounts_of_events made (abandons_eq_false rfl) rfl
      change map.rehash.gauge.Accounts (record ++ [])
      rw [List.append_nil]
      exact accounts

end Entry

namespace History

variable {Store Id Content Memory : Type} [Arena Store Id Content] [DecidableEq Id]

/-- The marks of a record report the events of the history. -/
theorem filterMap_record (history : History Store Id Content Memory) :
    history.record.filterMap Mark.event? = history.events := by
  induction history with
  | nil => rfl
  | cons entry earlier inductionHypothesis =>
      rw [record, List.filterMap_append, inductionHypothesis, Entry.marks, Mark.filterMap_place]
      rfl

/-- Every call that abandons an episode leaves one mark for it. -/
theorem countP_abandons (history : History Store Id Content Memory) :
    history.record.countP Mark.abandons = history.countP Entry.abandons := by
  induction history with
  | nil => rfl
  | cons entry earlier inductionHypothesis =>
      rw [record, List.countP_append, inductionHypothesis, Entry.marks, Mark.countP_place,
        List.countP_cons]
      cases entry.abandons <;> rfl

end History

namespace Map.Course

variable {Store Id Content Memory : Type} [Arena Store Id Content] [LawfulArena Store]
  [DecidableEq Id] {origin map : Map Id} {arena store : Store}
  {history : History Store Id Content Memory}

/-- The record of a course accounts for its map. -/
theorem accounts (course : Course origin arena history map store) :
    map.rehash.gauge.Accounts history.record := by
  -- A turn does not know the cursor, so the record is extended without cursors.
  apply Gauge.Accounts.of_withoutCursor
  induction course with
  | start built =>
      rw [(built.links arena).2]
      exact .blank _
  | call call allocator earlier careful legal answered inductionHypothesis =>
      have links := earlier.links.congr careful
      obtain ⟨taken, follows⟩ := links.follows legal answered
      have extended := follows.accounts links inductionHypothesis
      rw [← List.map_append] at extended
      exact extended

/-- The events of a course account for every episode. Each start is matched by an end, by a call
that abandons the episode, or by the episode that is running now; each mark says what it must after
those before it; and the payloads with which an episode started were moved by its steps, taken by
deletions, or left when it ended or are left now. -/
theorem episodes_balance (course : Course origin arena history map store) :
    history.record.filterMap Mark.event? = history.events ∧
      history.events.countP Event.startsMigration =
        history.events.countP Event.finishesMigration + history.countP Entry.abandons +
          (if map.isRehashing then 1 else 0) ∧
      (∀ before mark after, history.record = before ++ mark :: after →
        mark.Right (Episode.list before)) ∧
      ∀ episode ∈ Episode.list history.record,
        episode.entries = episode.moved + episode.taken + episode.ending.getD map.remaining ∧
          (episode.ending = none → map.isRehashing = true) := by
  have accounts := course.accounts
  have active : map.isRehashing = true ↔ map.rehash.gauge.olderCapacity ≠ 0 := by
    rw [Ne, map.gauge_olderCapacity_eq_zero_iff, Bool.not_eq_false]
  refine ⟨history.filterMap_record, ?_, accounts.right, ?_⟩
  · have starts := accounts.starts
    rw [← history.filterMap_record, Mark.countP_event, Mark.countP_event,
      ← history.countP_abandons, if_congr active rfl rfl, ite_not]
    exact starts
  · intro episode member
    rw [course.links.remaining_eq, active]
    exact accounts.tracks.balanced member

/-- A deletion takes the last payload of one episode, a resize at once abandons the next, and the
third one is running. -/
theorem episodes_balance_thrice :
    ∃ (history : History (IndexedArena Char) Nat Char Unit) (map : Map Nat)
      (store : IndexedArena Char),
      Course (Map.empty ⟨4, 8, 1⟩) IndexedArena.three history map store ∧ map.remaining = 1 ∧
        Episode.list history.record =
          [⟨8, 2, 1, 0, none⟩, ⟨8, 2, 1, 0, some 1⟩, ⟨4, 3, 2, 1, some 0⟩] ∧
        history.events.countP Event.startsMigration =
          history.events.countP Event.finishesMigration + history.countP Entry.abandons +
            (if map.isRehashing then 1 else 0) ∧
        (∀ before mark after, history.record = before ++ mark :: after →
          mark.Right (Episode.list before)) ∧
        ∀ episode ∈ Episode.list history.record,
          episode.entries = episode.moved + episode.taken + episode.ending.getD map.remaining ∧
            (episode.ending = none → map.isRehashing = true) := by
  have start : Course (Map.empty ⟨4, 8, 1⟩) IndexedArena.three
      ([] : History _ Nat Char Unit) _ _ := .start (.ofConfig ⟨4, 8, 1⟩ rfl)
  have first := start.next (.insert 0) .addressSpace ⟨rfl, by decide⟩ rfl
  have second := first.next (.insert 1) .addressSpace ⟨rfl, by decide⟩ rfl
  have third : Course _ _ _ ⟨.idle ⟨#[some 1, some 2, none, some 0], 3, 3⟩, ⟨4, 8, 1⟩⟩
      IndexedArena.three := second.next (.insert 2) .addressSpace ⟨rfl, by decide⟩ rfl
  have grown : Course _ _ _ ⟨⟨⟨#[none, none, none, none, some 1, none, none, none], 7, 1⟩,
      ⟨#[none, some 2, none, some 0], 3, 2⟩, 0⟩, ⟨4, 8, 1⟩⟩ IndexedArena.three :=
    third.next (.resize 8) .addressSpace trivial rfl
  have taken : Course _ _ _
      ⟨.idle ⟨#[none, none, none, none, some 1, some 2, none, none], 7, 2⟩, ⟨4, 8, 1⟩⟩
      IndexedArena.three :=
    grown.next (.delete (.code 3 (.ofPredicate fun _ => true)) ()) .addressSpace trivial rfl
  have shrunk : Course _ _ _ ⟨⟨⟨#[some 1, none, none, none], 3, 1⟩,
      ⟨#[none, none, none, none, none, some 2, none, none], 7, 1⟩, 4⟩, ⟨4, 8, 1⟩⟩
      IndexedArena.three := taken.next (.resize 4) .addressSpace trivial rfl
  have abandoned : Course _ _ _
      ⟨.idle ⟨#[none, none, none, none, some 1, some 2, none, none], 7, 2⟩, ⟨4, 8, 1⟩⟩
      IndexedArena.three := shrunk.next (.resizeAtOnce 8) .addressSpace trivial rfl
  have last := abandoned.next (.resize 16) .addressSpace trivial rfl
  have balance := last.episodes_balance
  exact ⟨_, _, _, last, rfl, rfl, balance.2.1, balance.2.2.1, balance.2.2.2⟩

end Map.Course

end IncrementalMap
