/-
This file proves that two maps with the same requests grow alike, whatever their hash codes are.
-/

import IncrementalMap.Proofs.Run.Reachable
import IncrementalMap.Proofs.Run.Schedule

namespace IncrementalMap

/-- These are the payloads that a call moves: those of its steps, and all payloads when it gathers
them at once. -/
def Event.transferred (events : List Event) : Nat :=
  (events.map fun
    | .migrationStep moved .. => moved
    | .immediateResize _ _ entries => entries
    | _ => 0).sum

/-- A cursor moves nothing. -/
theorem Event.transferred_withoutCursor (events : List Event) :
    transferred (events.map withoutCursor) = transferred events := by
  unfold transferred
  rw [List.map_map]
  apply congrArg List.sum
  apply List.map_congr_left
  intro event _
  cases event <;> rfl

/-- Two maps show the same when they agree on every count that a program can read off them. -/
structure Map.ShowsAs {Id : Type} (first second : Map Id) : Prop where
  size : first.size = second.size
  capacity : first.capacity = second.capacity
  isRehashing : first.isRehashing = second.isRehashing
  olderCapacity : first.rehash.progress?.map Progress.olderCapacity =
    second.rehash.progress?.map Progress.olderCapacity
  remaining : first.rehash.progress?.map Progress.remaining =
    second.rehash.progress?.map Progress.remaining

/-- Equal gauges show the same. -/
theorem Map.ShowsAs.of_gauge {Id : Type} {first second : Map Id}
    (same : first.rehash.gauge = second.rehash.gauge) : first.ShowsAs second := by
  have older : first.rehash.older.capacity = second.rehash.older.capacity :=
    congrArg Gauge.olderCapacity same
  have count : first.rehash.older.count = second.rehash.older.count := congrArg Gauge.older same
  have active : first.rehash.isActive = second.rehash.isActive := by
    rw [Bool.eq_iff_iff, Rehash.isActive_iff, Rehash.isActive_iff, older]
  constructor
  · exact congrArg Gauge.size same
  · exact congrArg Gauge.capacity same
  · exact active
  · unfold Rehash.progress?
    rw [active, older, count]
    split <;> rfl
  · unfold Rehash.progress?
    rw [active, older, count]
    split <;> rfl

namespace Entry

variable {Store Id Content Memory : Type}

/-- Two calls are matched when they make the same request, meet the same memory, and return no
payload that they have removed. Ids, hash codes and matchers may differ. -/
structure Matches (first second : Entry Store Id Content Memory) : Prop where
  request : first.call.request = second.call.request
  allocator : first.allocator = second.allocator
  keeps : ¬first.call.Removes first.outcome.result
  keepsToo : ¬second.call.Removes second.outcome.result

/-- Two calls look alike when they have the same result and leave maps that show the same, after
they have moved as many payloads and reported the same events, apart from the cursors. -/
structure LooksLike (first second : Entry Store Id Content Memory) : Prop where
  result : first.outcome.result.result = second.outcome.result.result
  shows : first.outcome.state.ShowsAs second.outcome.state
  moved : Event.transferred first.outcome.events = Event.transferred second.outcome.events
  events : first.outcome.events.map Event.withoutCursor =
    second.outcome.events.map Event.withoutCursor

/-- Calls that make the same turn look alike. -/
theorem LooksLike.of_turn {first second : Entry Store Id Content Memory}
    (same : first.turn = second.turn) : first.LooksLike second := by
  have events : first.outcome.events.map Event.withoutCursor =
      second.outcome.events.map Event.withoutCursor := congrArg Turn.events same
  constructor
  · exact congrArg Turn.result same
  · exact .of_gauge (congrArg Turn.gauge same)
  · rw [← Event.transferred_withoutCursor, events, Event.transferred_withoutCursor]
  · exact events

/-- A call that removes nothing takes nothing. -/
theorem Follows.turn_eq [Arena Store Id Content] [DecidableEq Id]
    {entry : Entry Store Id Content Memory} {taken : Option Side} (follows : entry.Follows taken)
    (keeps : ¬entry.call.Removes entry.outcome.result) :
    entry.turn = entry.call.request.turn entry.before.config entry.allocator none
      entry.before.rehash.gauge := by
  have nothing : taken = none := by
    rw [← Option.not_isSome_iff_eq_none, follows.removes]
    exact keeps
  rw [follows.turn, nothing]

/-- Matched calls that start from equal gauges and settings make the same turn. -/
theorem Matches.turn_eq [Arena Store Id Content] [DecidableEq Id]
    {first second : Entry Store Id Content Memory} (matched : first.Matches second)
    {taken takenToo : Option Side} (follows : first.Follows taken)
    (followsToo : second.Follows takenToo)
    (gauge : first.before.rehash.gauge = second.before.rehash.gauge)
    (config : first.before.config = second.before.config) : first.turn = second.turn := by
  rw [follows.turn_eq matched.keeps, followsToo.turn_eq matched.keepsToo, matched.request,
    matched.allocator, gauge, config]

end Entry

namespace Map.Course

variable {Store Id Content Memory : Type} [Arena Store Id Content] [LawfulArena Store]
  [DecidableEq Id] {origin map twin : Map Id} {arena other store left : Store}
  {history counterpart : History Store Id Content Memory}

/-- Matched calls take two courses from one map along equal gauges. -/
theorem gauges_eq (course : Course origin arena history map store)
    (companion : Course origin other counterpart twin left)
    (matched : List.Forall₂ Entry.Matches history counterpart) :
    map.rehash.gauge = twin.rehash.gauge ∧ List.Forall₂ Entry.LooksLike history counterpart := by
  -- The cursors part ways, so the induction carries the gauges, which determine every turn.
  induction course generalizing counterpart twin left with
  | start built =>
      cases matched with
      | nil =>
          cases companion with
          | start _ => exact ⟨rfl, .nil⟩
  | call call allocator earlier careful legal answered inductionHypothesis =>
      cases matched with
      | cons latest before =>
          cases companion with
          | call callToo allocatorToo earlierToo carefulToo legalToo answeredToo =>
              obtain ⟨gauge, alike⟩ := inductionHypothesis earlierToo before
              obtain ⟨taken, follows⟩ := (earlier.links.congr careful).follows legal answered
              obtain ⟨takenToo, followsToo⟩ :=
                (earlierToo.links.congr carefulToo).follows legalToo answeredToo
              have config := earlier.config.trans earlierToo.config.symm
              have turn := latest.turn_eq follows followsToo gauge config
              exact ⟨congrArg Turn.gauge turn, .cons (.of_turn turn) alike⟩

/-- The growth of a map does not depend on hash codes. Two courses from one constructor call that
make the same requests, and whose deletions find nothing, look alike after every call. Their next
legal calls both return. -/
theorem oblivious (course : Course origin arena history map store)
    (companion : Course origin other counterpart twin left)
    (matched : List.Forall₂ Entry.Matches history counterpart) :
    List.Forall₂ Entry.LooksLike history counterpart ∧ map.ShowsAs twin ∧
      ∀ (call callToo : Call Id Content Memory) (allocator : Allocator),
        call.Legal history.linked store → callToo.Legal counterpart.linked left →
        (∃ outcome, call.perform allocator map store = .ok outcome) ∧
          ∃ outcome, callToo.perform allocator twin left = .ok outcome := by
  obtain ⟨gauge, alike⟩ := course.gauges_eq companion matched
  refine ⟨alike, .of_gauge gauge, ?_⟩
  intro call callToo allocator legal legalToo
  obtain ⟨outcome, answered, _⟩ := course.links.answer allocator legal
  obtain ⟨outcomeToo, answeredToo, _⟩ := companion.links.answer allocator legalToo
  exact ⟨⟨outcome, answered⟩, outcomeToo, answeredToo⟩

/-- Three payloads in one slot and three payloads in three slots make a map grow alike, although the
cursors of the two episodes stand at different slots. -/
theorem oblivious_crowded :
    ∃ (history counterpart : History (IndexedArena Char) Nat Char Unit) (map twin : Map Nat)
      (store left : IndexedArena Char),
      Course (Map.empty ⟨4, 8, 1⟩)
          #[⟨.detached 3, 'a'⟩, ⟨.detached 3, 'b'⟩, ⟨.detached 3, 'c'⟩] history map store ∧
        Course (Map.empty ⟨4, 8, 1⟩) IndexedArena.three counterpart twin left ∧
        List.Forall₂ Entry.Matches history counterpart ∧ history.length = 5 ∧
        map.rehash.cursor = 3 ∧ twin.rehash.cursor = 1 ∧
        List.Forall₂ Entry.LooksLike history counterpart ∧ map.ShowsAs twin := by
  have crowded : Course (Map.empty ⟨4, 8, 1⟩)
      (#[⟨.detached 3, 'a'⟩, ⟨.detached 3, 'b'⟩, ⟨.detached 3, 'c'⟩] : IndexedArena Char)
      ([] : History _ Nat Char Unit) _ _ := .start (.ofConfig ⟨4, 8, 1⟩ rfl)
  have crowdedFirst := crowded.next (.insert 0) .addressSpace ⟨rfl, by decide⟩ rfl
  have crowdedSecond := crowdedFirst.next (.insert 1) .addressSpace ⟨rfl, by decide⟩ rfl
  have crowdedThird : Course _ _ _ ⟨.idle ⟨#[none, none, none, some 2], 3, 3⟩, ⟨4, 8, 1⟩⟩
      (#[⟨.detached 3, 'a'⟩, ⟨⟨3, some 0⟩, 'b'⟩, ⟨⟨3, some 1⟩, 'c'⟩] : IndexedArena Char) :=
    crowdedSecond.next (.insert 2) .addressSpace ⟨rfl, by decide⟩ rfl
  have crowdedResized : Course _ _ _ ⟨⟨⟨#[none, none, none, some 2, none, none, none, none], 7, 1⟩,
      ⟨#[none, none, none, some 1], 3, 2⟩, 3⟩, ⟨4, 8, 1⟩⟩
      (#[⟨.detached 3, 'a'⟩, ⟨⟨3, some 0⟩, 'b'⟩, ⟨.detached 3, 'c'⟩] : IndexedArena Char) :=
    crowdedThird.next (.resize 8) .addressSpace trivial rfl
  have crowdedDeleted := crowdedResized.next (.delete (.code 9 (.ofPredicate fun _ => true)) ())
    .addressSpace trivial rfl
  have spread : Course (Map.empty ⟨4, 8, 1⟩) IndexedArena.three
      ([] : History _ Nat Char Unit) _ _ := .start (.ofConfig ⟨4, 8, 1⟩ rfl)
  have spreadFirst := spread.next (.insert 2) .addressSpace ⟨rfl, by decide⟩ rfl
  have spreadSecond := spreadFirst.next (.insert 0) .addressSpace ⟨rfl, by decide⟩ rfl
  have spreadThird : Course _ _ _ ⟨.idle ⟨#[some 1, some 2, none, some 0], 3, 3⟩, ⟨4, 8, 1⟩⟩
      IndexedArena.three :=
    spreadSecond.next (.insert 1) .addressSpace ⟨rfl, by decide⟩ rfl
  have spreadResized : Course _ _ _ ⟨⟨⟨#[none, none, none, none, some 1, none, none, none], 7, 1⟩,
      ⟨#[none, some 2, none, some 0], 3, 2⟩, 0⟩, ⟨4, 8, 1⟩⟩ IndexedArena.three :=
    spreadThird.next (.resize 8) .addressSpace trivial rfl
  have spreadDeleted := spreadResized.next (.delete (.code 3 (.ofPredicate fun _ => false)) ())
    .addressSpace trivial rfl
  have alike := crowdedDeleted.oblivious spreadDeleted
  refine ⟨_, _, _, _, _, _, crowdedDeleted, spreadDeleted, ?matched, rfl, rfl, rfl,
    (alike ?matched).1, (alike ?matched).2.1⟩
  exact .cons ⟨rfl, rfl, not_false, not_false⟩ (.cons ⟨rfl, rfl, not_false, not_false⟩
    (.cons ⟨rfl, rfl, not_false, not_false⟩ (.cons ⟨rfl, rfl, not_false, not_false⟩
      (.cons ⟨rfl, rfl, not_false, not_false⟩ .nil))))

end Map.Course

end IncrementalMap
