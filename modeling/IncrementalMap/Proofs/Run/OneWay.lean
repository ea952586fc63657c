/-
This file proves that payloads only leave the older table while an episode runs.
-/

import IncrementalMap.Proofs.Run.Progress
import IncrementalMap.Proofs.Table.Chains

namespace IncrementalMap

namespace Call

/-- Only an insertion brings a payload along. -/
def arrivals {Id Content Memory : Type} (call : Call Id Content Memory) : List Id :=
  match call with
  | .insert id => [id]
  | _ => []

/-- A deletion takes the payload that it returns out of a list, and other calls leave it alone. -/
def remainder {Id Content Memory : Type} [DecidableEq Id] (call : Call Id Content Memory)
    (reply : Reply Id Content Memory) (ids : List Id) : List Id :=
  match call, reply with
  | .delete .., .found (some id) _ => ids.erase id
  | _, _ => ids

theorem remainder_subset {Id Content Memory : Type} [DecidableEq Id]
    (call : Call Id Content Memory) (reply : Reply Id Content Memory) (ids : List Id) :
    call.remainder reply ids ⊆ ids := by
  unfold remainder
  split
  · exact List.erase_subset
  · exact List.Subset.refl _

/-- A call moves payloads one way when the first ids of the older table have gone to the newer one
and the others have stayed in their order. Nothing but the payload of an insertion has come in, and
nothing but the payload that a deletion returns has gone out. While the episode goes on, both tables
keep their slots and the cursor does not go back. -/
structure OneWay {Store Id Content Memory : Type} [Arena Store Id Content] [DecidableEq Id]
    (call : Call Id Content Memory) (map : Map Id) (store : Store)
    (outcome : Outcome (Map Id) Store (Reply Id Content Memory))
    (first gone left last : List Id) : Prop where
  newerBefore : map.rehash.newer.Lists store first
  olderBefore : map.rehash.older.Lists store (gone ++ left)
  moved : gone.length = Event.moved outcome.events
  newerAfter : outcome.state.rehash.newer.Lists outcome.store last
  arrived : last.Perm (call.remainder outcome.result (call.arrivals ++ (gone ++ first)))
  olderAfter : outcome.state.rehash.older.Lists outcome.store (call.remainder outcome.result left)
  slots : outcome.state.isRehashing = true →
    outcome.state.rehash.newer.capacity = map.rehash.newer.capacity ∧
      outcome.state.rehash.older.capacity = map.rehash.older.capacity ∧
      map.rehash.cursor ≤ outcome.state.rehash.cursor

end Call

/-- An entry has moved the first payloads of the older table, as many as its events report. -/
def Entry.Moved {Store Id Content Memory : Type} [Arena Store Id Content]
    (entry : Entry Store Id Content Memory) (id : Id) : Prop :=
  ∃ ids, entry.before.rehash.older.Lists entry.store ids ∧
    id ∈ ids.take (Event.moved entry.outcome.events)

namespace Map

/-- While an episode runs, an insertion pushes its payload into the newer table and makes one
step. -/
theorem Sound.insert_during {Store Id Content : Type} [Arena Store Id Content]
    [LawfulArena Store] {map : Map Id} {store : Store} {newer older : Layout Id}
    (sound : map.Sound store newer older) (active : map.isRehashing = true) (allocator : Allocator)
    {id : Id} (present : (Arena.node? store id).isSome)
    (fresh : id ∉ map.rehash.ids newer older) :
    ∃ joined linked pushed stepped drained,
      (pushed.ids joined.capacity).Perm (id :: newer.ids map.rehash.newer.capacity) ∧
      map.rehash.newer.Alike joined ∧
      Rehash.Sound ⟨joined, map.rehash.older, map.rehash.cursor⟩ linked pushed older ∧
      Rehash.Stepped ⟨joined, map.rehash.older, map.rehash.cursor⟩ linked pushed older
        map.config.migrationWork stepped drained ∧
      map.insert store allocator id =
        .ok ⟨.ok (), ⟨stepped.state, map.config⟩, stepped.store, stepped.events⟩ := by
  have allocated := sound.tables.together (map.rehash.isActive_iff.1 active)
  obtain ⟨joined, linked, pushed, inserted, soundJoined, listed, alike, _, _⟩ :=
    sound.tables.insert allocated present fresh
  obtain ⟨stepped, drained, step, advanced⟩ :=
    advance_stepped ⟨⟨joined, map.rehash.older, map.rehash.cursor⟩, map.config⟩ soundJoined
  have made : map.firstTable allocator = .ok map.rehash.newer := by
    rw [firstTable, if_pos (map.rehash.newer.isAllocated_iff.2 allocated)]
  have running : Rehash.isActive ⟨joined, map.rehash.older, map.rehash.cursor⟩ = true := active
  have grows : growIfFull ⟨joined, map.rehash.older, map.rehash.cursor⟩ map.config allocator =
      (⟨joined, map.rehash.older, map.rehash.cursor⟩, []) := by
    rw [growIfFull, running]
    rfl
  have answered := insert_of_linked made inserted grows advanced
  rw [List.nil_append] at answered
  have joins : (pushed.ids joined.capacity).Perm (id :: newer.ids map.rehash.newer.capacity) := by
    rw [Rehash.ids, Rehash.ids, ← List.cons_append] at listed
    exact (List.perm_append_right_iff _).1 listed
  exact ⟨joined, linked, pushed, stepped, drained, joins, alike, soundJoined, step, answered⟩

section

variable {Store Id Content Memory : Type} [Arena Store Id Content] [LawfulArena Store]
  [DecidableEq Id] {map : Map Id} {store : Store} {newer older : Layout Id}
  {call : Call Id Content Memory} {outcome : Outcome (Map Id) Store (Reply Id Content Memory)}

/-- A call that ends with a step moves payloads one way, whether or not a payload has joined the newer
table before. -/
theorem Sound.oneWay_of_stepped (sound : map.Sound store newer older) {start : Table Id}
    {linked : Store} {pushed drained : Layout Id} {stepped : Outcome (Rehash Id) Store Nat}
    (joins : (pushed.ids start.capacity).Perm
      (call.arrivals ++ newer.ids map.rehash.newer.capacity))
    (alike : map.rehash.newer.Alike start)
    (soundStart : Rehash.Sound ⟨start, map.rehash.older, map.rehash.cursor⟩ linked pushed older)
    (step : Rehash.Stepped ⟨start, map.rehash.older, map.rehash.cursor⟩ linked pushed older
      map.config.migrationWork stepped drained)
    (moved : Event.moved outcome.events = min map.config.migrationWork map.rehash.older.count)
    (state : outcome.state.rehash = stepped.state) (final : outcome.store = stepped.store)
    (kept : ∀ ids, call.remainder outcome.result ids = ids) :
    ∃ first gone left last, call.OneWay map store outcome first gone left last := by
  refine ⟨newer.ids map.rehash.newer.capacity,
    (older.ids map.rehash.older.capacity).take map.config.migrationWork,
    (older.ids map.rehash.older.capacity).drop map.config.migrationWork,
    Layout.ids (pushed.pour (start.home linked)
      ((older.ids map.rehash.older.capacity).take map.config.migrationWork))
      stepped.state.newer.capacity, ?_⟩
  constructor
  · exact sound.tables.pair.soundDestination.lists
  · rw [List.take_append_drop]
    exact sound.tables.pair.soundSource.lists
  · rw [moved, List.length_take, sound.tables.pair.soundSource.counted]
  · rw [state, final]
    exact step.sound.pair.soundDestination.lists
  · rw [kept]
    apply ((step.newer_ids soundStart).trans (joins.append_left _)).trans
    rw [← List.append_assoc, ← List.append_assoc]
    exact List.perm_append_comm.append_right _
  · rw [kept, state, final, ← step.left]
    exact step.sound.pair.soundSource.lists
  · intro still
    rw [isRehashing, state] at still
    obtain ⟨_, olderAlike, cursor⟩ := step.onward still
    rw [state]
    exact ⟨step.alike.capacity.trans alike.capacity, olderAlike.capacity, cursor⟩

/-- A deletion that withdraws a payload after its step moves the others one way. -/
theorem Sound.oneWay_of_withdraws (sound : map.Sound store newer older)
    {stepped : Outcome (Rehash Id) Store Nat} {drained : Layout Id}
    (step : map.rehash.Stepped store newer older map.config.migrationWork stepped drained)
    {id : Id} {side : Side} {released : List Event}
    (withdraws : stepped.state.Withdraws stepped.store (newer.pour (map.rehash.newer.home store)
      ((older.ids map.rehash.older.capacity).take map.config.migrationWork)) drained id side
      outcome.state.rehash outcome.store released)
    (moved : Event.moved outcome.events = min map.config.migrationWork map.rehash.older.count)
    (alone : call.arrivals = []) (cut : ∀ ids, call.remainder outcome.result ids = ids.erase id) :
    ∃ first gone left last, call.OneWay map store outcome first gone left last := by
  obtain ⟨newerAfter, olderAfter, soundAfter, newerIds, olderIds⟩ := withdraws.ordered step.sound
  refine ⟨newer.ids map.rehash.newer.capacity,
    (older.ids map.rehash.older.capacity).take map.config.migrationWork,
    (older.ids map.rehash.older.capacity).drop map.config.migrationWork,
    newerAfter.ids outcome.state.rehash.newer.capacity, ?_⟩
  constructor
  · exact sound.tables.pair.soundDestination.lists
  · rw [List.take_append_drop]
    exact sound.tables.pair.soundSource.lists
  · rw [moved, List.length_take, sound.tables.pair.soundSource.counted]
  · exact soundAfter.pair.soundDestination.lists
  · rw [cut, newerIds, alone]
    exact (step.newer_ids sound.tables).erase id
  · rw [cut, ← step.left, ← olderIds]
    exact soundAfter.pair.soundSource.lists
  · intro still
    obtain ⟨alikeNewer, alikeOlder, cursorKept⟩ := withdraws.running still
    have running : stepped.state.isActive = true := by
      rw [Rehash.isActive_iff, ← alikeOlder.capacity]
      exact outcome.state.rehash.isActive_iff.1 still
    obtain ⟨_, olderAlike, cursor⟩ := step.onward running
    exact ⟨alikeNewer.capacity.trans step.alike.capacity,
      alikeOlder.capacity.trans olderAlike.capacity, cursorKept ▸ cursor⟩

variable {linked : Finset Id} {allocator : Allocator}

/-- A legal call that carries an episode along moves payloads one way. -/
theorem Links.oneWay (links : map.Links store linked) (active : map.isRehashing = true)
    (works : call.Works) (legal : call.Legal linked store)
    (answered : call.perform allocator map store = .ok outcome) :
    ∃ first gone left last, call.OneWay map store outcome first gone left last := by
  have performed := links.answered legal answered
  obtain ⟨_, _, continues⟩ := links.continues active performed works
  have moved := continues.moved
  rw [links.remaining_eq] at moved
  obtain ⟨listed, ⟨newer, older, sound, same⟩, rfl⟩ := links
  cases call with
  | insert id =>
      have fresh : id ∉ map.rehash.ids newer older := by
        rw [same.mem_iff, ← List.mem_toFinset]
        exact legal.2
      obtain ⟨joined, linked, pushed, stepped, drained, joins, alike, soundJoined, step, inserted⟩ :=
        sound.insert_during active allocator legal.1 fresh
      rw [Call.perform, inserted] at answered
      obtain rfl := Except.ok.inj answered
      exact sound.oneWay_of_stepped joins alike soundJoined step moved rfl rfl fun _ => rfl
  | lookup query memory =>
      obtain ⟨stepped, drained, step, _, found⟩ := sound.lookup_eq query.hash query.matcher memory
      rw [Call.perform, query.lookup_eq, found] at answered
      obtain rfl := Except.ok.inj answered
      exact sound.oneWay_of_stepped (.refl _) (.refl _) sound.tables step moved rfl rfl fun _ => rfl
  | delete query memory =>
      obtain ⟨stepped, drained, step, _, found⟩ := sound.delete_eq query.hash query.matcher memory
      rw [Call.perform, query.delete_eq] at answered
      rcases chosen : query.matcher.choose (map.offered store newer older stepped drained query.hash)
        memory with ⟨_ | id, kept⟩
      · rw [chosen] at found
        rw [found] at answered
        obtain rfl := Except.ok.inj answered
        exact sound.oneWay_of_stepped (.refl _) (.refl _) sound.tables step moved rfl rfl
          fun _ => rfl
      · rw [chosen] at found
        obtain ⟨side, after, unlinked, released, withdraws, deleted⟩ := found
        rw [deleted] at answered
        obtain rfl := Except.ok.inj answered
        exact sound.oneWay_of_withdraws step withdraws moved rfl fun _ => rfl
  | resize target => exact works.elim
  | resizeAtOnce target => exact works.elim
  | reserve requested => exact works.elim
  | clear => exact works.elim
  | visit => exact works.elim

/-- The two tables reach no payload in common. -/
theorem Links.apart (links : map.Links store linked) {id : Id}
    (member : map.rehash.newer.Reaches store id) : ¬map.rehash.older.Reaches store id := by
  obtain ⟨listed, ⟨newer, older, sound, _⟩, _⟩ := links
  rw [sound.tables.pair.soundDestination.reaches_iff] at member
  rw [sound.tables.pair.soundSource.reaches_iff]
  intro again
  exact sound.tables.pair.apart id again member

/-- An edit of the arena between two calls does not change what the older table reaches. -/
theorem Links.reaches_edited (links : map.Links store linked) {edited : Store}
    (careful : Arena.Careful linked store edited) (id : Id) :
    map.rehash.older.Reaches edited id ↔ map.rehash.older.Reaches store id := by
  obtain ⟨listed, ⟨newer, older, sound, same⟩, rfl⟩ := links
  have kept := sound.tables.congr fun other member =>
    careful other (List.mem_toFinset.2 (same.mem_iff.1 member))
  rw [kept.pair.soundSource.reaches_iff, sound.tables.pair.soundSource.reaches_iff]

/-- The payloads that a call has moved are no longer in the older table, and no other has come in. -/
theorem Links.leaves_older (links : map.Links store linked) (allocator : Allocator)
    {first gone left last : List Id}
    (oneWay : call.OneWay map store outcome first gone left last) {id : Id}
    (still : outcome.state.rehash.older.Reaches outcome.store id) :
    map.rehash.older.Reaches store id ∧
      ¬Entry.Moved ⟨call, allocator, map, store, outcome⟩ id := by
  obtain ⟨ids, lists, member⟩ := still
  rw [lists.unique oneWay.olderAfter] at member
  have stayed := call.remainder_subset outcome.result left member
  refine ⟨⟨_, oneWay.olderBefore, List.mem_append_right _ stayed⟩, ?_⟩
  rintro ⟨others, listed, moved⟩
  obtain ⟨_, ⟨newer, older, sound, _⟩, _⟩ := links
  have distinct := sound.tables.pair.soundSource.nodup
  rw [sound.tables.pair.soundSource.lists.unique oneWay.olderBefore] at distinct
  rw [listed.unique oneWay.olderBefore, ← oneWay.moved, List.take_left] at moved
  exact List.disjoint_of_nodup_append distinct moved stayed

/-- While an episode runs, what a call has moved does not come back to the older table, so that no
later call can move it again. -/
theorem Traffic.oneWay {after : Map Id} {final : Store} {held : Finset Id}
    {history : History Store Id Content Memory}
    (traffic : map.Traffic store linked history after final held) (links : map.Links store linked)
    (running : ∀ entry ∈ history, entry.before.isRehashing = true) :
    (∀ id, after.rehash.older.Reaches final id → map.rehash.older.Reaches store id) ∧
      (∀ entry ∈ history, ∀ id, entry.Moved id → ¬after.rehash.older.Reaches final id) ∧
      history.Pairwise fun later earlier => ∀ id, earlier.Moved id → ¬later.Moved id := by
  induction traffic with
  | nothing => exact ⟨fun _ => id, by simp, .nil⟩
  | @call history before left edited held call allocator outcome earlier careful works legal answered
      inductionHypothesis =>
      obtain ⟨shrinks, gone, distinct⟩ := inductionHypothesis fun entry member =>
        running entry (List.mem_cons_of_mem _ member)
      have linksBefore := (earlier.links links).1
      have linksEdited := linksBefore.congr careful
      obtain ⟨first, moved, rest, last, oneWay⟩ :=
        linksEdited.oneWay (running _ List.mem_cons_self) works legal answered
      have back {id : Id} (still : outcome.state.rehash.older.Reaches outcome.store id) :
          before.rehash.older.Reaches left id :=
        (linksBefore.reaches_edited careful id).1
          (linksEdited.leaves_older allocator oneWay still).1
      refine ⟨fun id still => shrinks id (back still), ?_, ?_⟩
      · intro entry member id entryMoved still
        rcases List.mem_cons.1 member with rfl | member
        · exact (linksEdited.leaves_older allocator oneWay still).2 entryMoved
        · exact gone entry member id entryMoved (back still)
      · apply List.Pairwise.cons _ distinct
        intro entry member id entryMoved again
        obtain ⟨ids, lists, front⟩ := again
        have reached : before.rehash.older.Reaches edited id := ⟨ids, lists, List.mem_of_mem_take front⟩
        exact gone entry member id entryMoved ((linksBefore.reaches_edited careful id).1 reached)

end

/-- While an episode runs, each insertion, lookup and deletion returns, starts no other episode and
moves payloads one way. Over all such calls of one episode no payload is moved twice, and none of the
newer table goes back to the older one. -/
theorem Reachable.moves_one_way {Store Id Content : Type} [Arena Store Id Content]
    [LawfulArena Store] [DecidableEq Id] {map : Map Id} {store : Store} {linked : Finset Id}
    (reachable : map.Reachable store linked) (active : map.isRehashing = true) :
    (∀ {Memory : Type} (call : Call Id Content Memory) (allocator : Allocator), call.Works →
        call.Legal linked store →
      ∃ outcome, call.perform allocator map store = .ok outcome ∧
        (∀ event ∈ outcome.events, event.startsMigration = false) ∧
        ∃ first gone left last, call.OneWay map store outcome first gone left last) ∧
      ∀ {Memory : Type} {history : History Store Id Content Memory} {after : Map Id} {final : Store}
          {held : Finset Id}, map.Traffic store linked history after final held →
        (∀ entry ∈ history, entry.before.isRehashing = true) →
          (∀ id, map.rehash.newer.Reaches store id → ¬after.rehash.older.Reaches final id) ∧
          (∀ id, after.rehash.older.Reaches final id → map.rehash.older.Reaches store id) ∧
          history.Pairwise fun later earlier => ∀ id, earlier.Moved id → ¬later.Moved id := by
  have links := reachable.links
  constructor
  · intro Memory call allocator works legal
    obtain ⟨outcome, returned, performed⟩ := links.answer allocator legal
    obtain ⟨_, _, continues⟩ := links.continues active performed works
    exact ⟨outcome, returned, continues.unstarted, links.oneWay active works legal returned⟩
  · intro Memory history after final held traffic running
    obtain ⟨shrinks, _, distinct⟩ := traffic.oneWay links running
    refine ⟨?_, shrinks, distinct⟩
    intro id member again
    exact links.apart member (shrinks id again)

/-- Two lookups move the two payloads that an episode has left, each of them once. -/
theorem Reachable.moves_one_way_lookups :
    ∃ (map after : Map Nat) (final : IndexedArena Char) (held : Finset Nat)
      (history : History (IndexedArena Char) Nat Char Unit),
      map.Reachable IndexedArena.three {2, 1, 0} ∧ map.isRehashing = true ∧
        map.Traffic IndexedArena.three {2, 1, 0} history after final held ∧ history.length = 2 ∧
        (∀ entry ∈ history, entry.before.isRehashing = true) ∧
        history.Pairwise fun later earlier => ∀ id, earlier.Moved id → ¬later.Moved id := by
  have silent : Map.Traffic ⟨⟨⟨#[none, none, none, none, some 1, none, none, none], 7, 1⟩,
      ⟨#[none, some 2, none, some 0], 3, 2⟩, 0⟩, ⟨4, 8, 1⟩⟩ IndexedArena.three {2, 1, 0}
      ([] : History _ Nat Char Unit) _ _ _ := .nothing
  have once := silent.call (.lookup (.code 9 (.ofPredicate fun _ => false)) ()) .addressSpace
    (.refl _ _) trivial trivial rfl
  have twice := once.call (.lookup (.code 9 (.ofPredicate fun _ => false)) ()) .addressSpace
    (.refl _ _) trivial trivial rfl
  have reachable := Reachable.three_resized
  refine ⟨_, _, _, _, _, reachable, rfl, twice, rfl, ?running,
    ((reachable.moves_one_way rfl).2 twice ?running).2.2⟩
  intro entry member
  rcases List.mem_cons.1 member with rfl | member
  · rfl
  · rw [List.mem_singleton.1 member]
    rfl

end Map

end IncrementalMap
