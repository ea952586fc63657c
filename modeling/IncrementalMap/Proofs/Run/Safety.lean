/-
This file proves that no legal call meets a fault or leaves the range of a machine word on its way.
-/

import IncrementalMap.Proofs.Rehash.Passage
import IncrementalMap.Proofs.Run.Iteration

namespace IncrementalMap

/-- A table addresses its slots when every hash code selects one of them. Without slots there is
nothing to address. -/
def Table.Addresses {Id : Type} (table : Table Id) : Prop :=
  table.isAllocated = true → ∀ hash, table.slotFor hash < table.capacity

/-- A moment shows the tables that a call works on, and the cursor. -/
structure Moment (Id : Type) where
  tables : List (Table Id)
  cursor : Nat

/-- A moment fits when machine words hold the cursor and the count of all payloads together, and
when every table addresses its slots. -/
structure Moment.Fits {Id : Type} (moment : Moment Id) : Prop where
  counts : (moment.tables.map Table.count).sum ≤ wordLimit
  cursor : moment.cursor ≤ wordLimit
  slots : ∀ table ∈ moment.tables, table.Addresses

/-- This is the moment at which a rehash stands. -/
def Rehash.moment {Id : Type} (rehash : Rehash Id) : Moment Id :=
  ⟨[rehash.newer, rehash.older], rehash.cursor⟩

namespace Call

/-- These are the moments that a call passes: where it begins and ends, where an inserted payload
has joined, before and after a step, and in every round of its loops. -/
inductive Passes {Store Id Content Memory : Type} [Arena Store Id Content] (allocator : Allocator)
    (map : Map Id) (store : Store) : Call Id Content Memory → Moment Id → Prop where
  | begun (call : Call Id Content Memory) : Passes allocator map store call map.rehash.moment
  | joined {id : Id} {first joined : Table Id} {linked : Store}
      (made : map.firstTable allocator = .ok first)
      (inserted : first.insert store id = .ok (joined, linked)) :
      Passes allocator map store (.insert id)
        (Rehash.moment ⟨joined, map.rehash.older, map.rehash.cursor⟩)
  | scanned {call : Call Id Content Memory} {start : Map Id} {linked final : Store}
      {grown : List Event} {moved : Nat} {after : Rehash Id}
      (starts : call.Starts allocator map store start linked grown)
      (scans : start.rehash.Scans map.config.migrationWork linked moved after final) :
      Passes allocator map store call after.moment
  | advanced {call : Call Id Content Memory} {start : Map Id} {linked : Store} {grown : List Event}
      {stepped : Outcome (Map Id) Store Nat}
      (starts : call.Starts allocator map store start linked grown)
      (answered : start.advance linked = .ok stepped) :
      Passes allocator map store call stepped.state.rehash.moment
  | drained {target capacity moved : Nat} {after : Rehash Id} {linked : Store}
      (goal : map.resizeGoal target = .ok capacity)
      (scans : map.rehash.Scans wordLimit store moved after linked) :
      Passes allocator map store (.resize target) after.moment
  | restarted {target capacity moved : Nat} {fresh : Table Id}
      {drained : Outcome (Rehash Id) Store Nat} {after : Rehash Id} {linked : Store}
      (goal : map.resizeGoal target = .ok capacity)
      (made : Table.allocate allocator capacity = .ok fresh)
      (answered : map.rehash.drain store = .ok drained)
      (scans : (drained.state.start fresh).1.Scans map.config.migrationWork drained.store moved
        after linked) :
      Passes allocator map store (.resize target) after.moment
  | emptied {target capacity : Nat} {fresh rest filled : Table Id} {linked : Store}
      (made : Table.allocate allocator capacity = .ok fresh)
      (pours : map.rehash.older.Pours fresh store rest filled linked) :
      Passes allocator map store (.resizeAtOnce target) ⟨[map.rehash.newer, rest, filled], 0⟩
  | gathered {target capacity : Nat} {fresh emptied half rest filled : Table Id}
      {linked final : Store} (made : Table.allocate allocator capacity = .ok fresh)
      (first : map.rehash.older.transfer fresh store = .ok (emptied, half, linked))
      (pours : map.rehash.newer.Pours half linked rest filled final) :
      Passes allocator map store (.resizeAtOnce target) ⟨[emptied, rest, filled], 0⟩
  | ended {call : Call Id Content Memory}
      {outcome : Outcome (Map Id) Store (Reply Id Content Memory)}
      (answered : call.perform allocator map store = .ok outcome) :
      Passes allocator map store call outcome.state.rehash.moment

/-- These are the assertions of a call: a resize starts an episode only when none runs any more,
and a table counts nothing when all its payloads have been transferred. -/
def Asserts {Store Id Content Memory : Type} [Arena Store Id Content]
    (call : Call Id Content Memory) (allocator : Allocator) (map : Map Id) (store : Store) : Prop :=
  match call with
  | .resize target => ∀ capacity drained, map.resizeGoal target = .ok capacity →
      map.rehash.drain store = .ok drained → drained.state.isActive = false
  | .resizeAtOnce _ => ∀ capacity fresh emptied half linked rest full final,
      Table.allocate allocator capacity = .ok fresh →
      map.rehash.older.transfer fresh store = .ok (emptied, half, linked) →
      map.rehash.newer.transfer half linked = .ok (rest, full, final) →
        emptied.count = 0 ∧ rest.count = 0
  | _ => True

/-- A call is safe when it returns, every moment that it passes fits, and its assertions hold. It
returns only if it misses no payload, writes to no slot outside a table, takes no count below zero,
and ends all its loops. -/
structure Safe {Store Id Content Memory : Type} [Arena Store Id Content]
    (call : Call Id Content Memory) (allocator : Allocator) (map : Map Id) (store : Store) :
    Prop where
  returns : ∃ outcome, call.perform allocator map store = .ok outcome
  fits : ∀ moment, call.Passes allocator map store moment → moment.Fits
  asserts : call.Asserts allocator map store

end Call

namespace Table

/-- A shaped table addresses its slots. -/
theorem Shaped.addresses {Id : Type} {table : Table Id} (shaped : table.Shaped) :
    table.Addresses := by
  intro allocated hash
  exact shaped.slotFor_lt (table.isAllocated_iff.1 allocated) hash

/-- So does every table that is alike. -/
theorem Alike.addresses {Id : Type} {first second : Table Id} (alike : first.Alike second)
    (addresses : first.Addresses) : second.Addresses := by
  intro allocated hash
  rw [isAllocated_iff, alike.capacity, ← isAllocated_iff] at allocated
  rw [alike.slotFor, alike.capacity]
  exact addresses allocated hash

/-- A table has at most as many slots as half a word can name. -/
theorem Shaped.capacity_le {Id : Type} {table : Table Id} (shaped : table.Shaped) :
    table.capacity ≤ 2 ^ 63 := by
  rcases shaped with rfl | ⟨valid, _⟩
  · exact Nat.zero_le _
  · exact valid.le_half

end Table

namespace Rehash.OnTrack

variable {Store Id Content : Type} [Arena Store Id Content] {rehash : Rehash Id} {store : Store}

/-- On a small arena a rehash that is on track fits. -/
theorem fits (track : rehash.OnTrack store) (small : Arena.FewerThan store (2 ^ 63)) :
    rehash.moment.Fits := by
  obtain ⟨⟨newer, older, sound⟩, cursor⟩ := track
  have word : 2 ^ 63 ≤ wordLimit := by decide
  have size := sound.size_lt small
  have slots := sound.pair.soundSource.shaped.capacity_le
  constructor
  · simp only [moment, List.map_cons, List.map_nil, List.sum_cons, List.sum_nil, Nat.add_zero]
    exact (Nat.le_of_lt size).trans word
  · exact (cursor.trans slots).trans word
  · simp only [moment, List.forall_mem_cons]
    exact ⟨sound.pair.soundDestination.shaped.addresses, sound.pair.soundSource.shaped.addresses,
      nofun⟩

/-- An episode starts on track. -/
theorem start (track : rehash.OnTrack store) (inactive : rehash.isActive = false)
    {allocator : Allocator} {requested : Nat} {fresh : Table Id}
    (made : Table.allocate allocator requested = .ok fresh) :
    (rehash.start fresh).1.OnTrack store := by
  obtain ⟨⟨newer, older, sound⟩, _⟩ := track
  obtain ⟨blank, _, positive, _⟩ := Table.sound_of_allocate made store
  obtain ⟨started, _⟩ := sound.start inactive blank positive
  exact ⟨⟨_, _, started⟩, Nat.zero_le _⟩

/-- A growth stays on track, whether it starts an episode or not. -/
theorem growIfFull (track : rehash.OnTrack store) (config : Config) (allocator : Allocator) :
    (Map.growIfFull rehash config allocator).1.OnTrack store := by
  rw [Map.growIfFull, Rehash.grow]
  split
  · split <;> rename_i active
    · exact track
    · split <;> rename_i made
      · exact track.start (Bool.eq_false_of_not_eq_true active) made
      · exact track
  · exact track

end Rehash.OnTrack

namespace Moment.Fits

variable {Id : Type}

/-- It does not matter in which order the tables are shown. -/
theorem perm {tables others : List (Table Id)} {cursor : Nat} (fits : Fits ⟨tables, cursor⟩)
    (same : tables.Perm others) : Fits ⟨others, cursor⟩ where
  counts := (same.map Table.count).sum_eq ▸ fits.counts
  cursor := fits.cursor
  slots table member := fits.slots table (same.mem_iff.2 member)

/-- Tables beside a third one still fit when one of them is poured into the other. -/
theorem pours {Store Content : Type} [Arena Store Id Content]
    {aside source destination rest filled : Table Id} {store linked : Store} {cursor : Nat}
    (fits : Fits ⟨[aside, source, destination], cursor⟩)
    (pours : source.Pours destination store rest filled linked) :
    Fits ⟨[aside, rest, filled], cursor⟩ := by
  obtain ⟨alikeSource, alikeDestination, total⟩ := pours.counts
  obtain ⟨counts, cursor, slots⟩ := fits
  simp only [List.map_cons, List.map_nil, List.sum_cons, List.sum_nil, List.forall_mem_cons]
    at counts slots
  obtain ⟨slotsAside, slotsSource, slotsDestination, _⟩ := slots
  constructor
  · simp only [List.map_cons, List.map_nil, List.sum_cons, List.sum_nil]
    omega
  · exact cursor
  · simp only [List.forall_mem_cons]
    exact ⟨slotsAside, alikeSource.addresses slotsSource,
      alikeDestination.addresses slotsDestination, nofun⟩

end Moment.Fits

namespace Map

/-- A map that is on track stays on track when it advances. -/
theorem onTrack_advance {Store Id Content : Type} [Arena Store Id Content] [LawfulArena Store]
    {map : Map Id} {store : Store} (track : map.rehash.OnTrack store)
    {outcome : Outcome (Map Id) Store Nat} (answered : map.advance store = .ok outcome) :
    outcome.state.rehash.OnTrack outcome.store ∧ Arena.SamePayloads store outcome.store := by
  obtain ⟨rehash, config⟩ := map
  obtain ⟨stepped, made, last⟩ := exists_of_bind_eq_ok answered
  obtain rfl := Except.ok.inj last
  exact track.step made

namespace Links

/-- A map that links a set is on track. -/
theorem onTrack {Store Id Content : Type} [Arena Store Id Content] [DecidableEq Id] {map : Map Id}
    {store : Store} {linked : Finset Id} (links : map.Links store linked) : map.rehash.OnTrack store := by
  obtain ⟨_, ⟨newer, older, sound, _⟩, _⟩ := links
  exact sound.tables.onTrack sound.settled

/-- The linked payloads are in the arena. -/
theorem present {Store Id Content : Type} [Arena Store Id Content] [DecidableEq Id] {map : Map Id}
    {store : Store} {linked : Finset Id} (links : map.Links store linked) {id : Id}
    (member : id ∈ linked) : (Arena.node? store id).isSome := by
  obtain ⟨_, ⟨newer, older, sound, same⟩, rfl⟩ := links
  rw [List.mem_toFinset, ← same.mem_iff] at member
  exact sound.tables.present member

variable {Store Id Content Memory : Type} [Arena Store Id Content] [LawfulArena Store]
  [DecidableEq Id] {map : Map Id} {store : Store} {linked : Finset Id}

/-- It stays on track when a payload joins. -/
theorem onTrack_joined (links : map.Links store linked) {allocator : Allocator} {id : Id}
    (present : (Arena.node? store id).isSome) (fresh : id ∉ linked) {first joined : Table Id}
    {after : Store} (made : map.firstTable allocator = .ok first)
    (inserted : first.insert store id = .ok (joined, after)) :
    Rehash.OnTrack ⟨joined, map.rehash.older, map.rehash.cursor⟩ after ∧
      Arena.SamePayloads store after := by
  have cursor := links.onTrack.cursor
  obtain ⟨listed, ⟨newer, older, sound, same⟩, rfl⟩ := links
  obtain ⟨tables, ids, valid, _⟩ := firstTable_sound sound made
  have absent : id ∉ Rehash.ids ⟨first, map.rehash.older, map.rehash.cursor⟩ newer older := by
    rw [ids, same.mem_iff, ← List.mem_toFinset]
    exact fresh
  obtain ⟨grown, final, pushed, answered, soundJoined, _, _, _, rewires⟩ :=
    tables.insert valid.pos present absent
  obtain ⟨rfl, rfl⟩ := Prod.mk.inj (Except.ok.inj (answered.symm.trans inserted))
  exact ⟨⟨⟨pushed, older, soundJoined⟩, cursor⟩, rewires.payloads⟩

/-- It is on track where a legal call starts its step. -/
theorem onTrack_start (links : map.Links store linked) {call : Call Id Content Memory}
    (legal : call.Legal linked store) {allocator : Allocator} {start : Map Id} {after : Store}
    {grown : List Event} (starts : call.Starts allocator map store start after grown) :
    start.rehash.OnTrack after ∧ Arena.SamePayloads store after := by
  cases call with
  | insert id =>
      obtain ⟨first, joined, made, inserted, grows, _⟩ := starts
      obtain ⟨track, payloads⟩ := links.onTrack_joined legal.1 legal.2 made inserted
      have onward := track.growIfFull map.config allocator
      rw [grows] at onward
      exact ⟨onward, payloads⟩
  | lookup query memory | delete query memory =>
      obtain ⟨rfl, rfl, _⟩ := starts
      exact ⟨links.onTrack, .refl _⟩
  | _ => exact starts.elim

/-- It is on track where a resize starts an episode. -/
theorem onTrack_restart (links : map.Links store linked) {target capacity : Nat}
    (goal : map.resizeGoal target = .ok capacity) {allocator : Allocator} {fresh : Table Id}
    (made : Table.allocate allocator capacity = .ok fresh)
    {drained : Outcome (Rehash Id) Store Nat} (answered : map.rehash.drain store = .ok drained) :
    (drained.state.start fresh).1.OnTrack drained.store ∧
      Arena.SamePayloads store drained.store := by
  obtain ⟨onward, payloads⟩ := links.onTrack.step answered
  obtain ⟨_, ⟨newer, older, sound, _⟩, _⟩ := links
  obtain ⟨ended, same, inactive, _⟩ := sound.drain (older_count_le_of_goal goal)
  obtain rfl := Except.ok.inj (same.symm.trans answered)
  exact ⟨onward.start inactive made, payloads⟩

omit [LawfulArena Store] in
/-- On a small arena both tables fit beside a fresh one. -/
theorem fits_beside (links : map.Links store linked) (small : Arena.FewerThan store (2 ^ 63))
    {allocator : Allocator} {capacity : Nat} {fresh : Table Id}
    (made : Table.allocate allocator capacity = .ok fresh) :
    Moment.Fits ⟨[map.rehash.newer, map.rehash.older, fresh], 0⟩ := by
  obtain ⟨counts, _, slots⟩ := links.onTrack.fits small
  obtain ⟨blank, _, _, empty⟩ := Table.sound_of_allocate made store
  simp only [Rehash.moment, List.forall_mem_cons] at counts slots
  constructor
  · simpa [empty] using counts
  · exact Nat.zero_le _
  · simp only [List.forall_mem_cons]
    exact ⟨slots.1, slots.2.1, blank.shaped.addresses, nofun⟩

/-- Every moment that a legal call on a small arena passes fits. -/
theorem fits (links : map.Links store linked) (small : Arena.FewerThan store (2 ^ 63))
    {call : Call Id Content Memory} (legal : call.Legal linked store) {allocator : Allocator}
    {moment : Moment Id} (passes : call.Passes allocator map store moment) : moment.Fits := by
  cases passes with
  | begun => exact links.onTrack.fits small
  | joined made inserted =>
      obtain ⟨track, payloads⟩ := links.onTrack_joined legal.1 legal.2 made inserted
      exact track.fits (payloads.fewerThan small)
  | scanned starts scans =>
      obtain ⟨track, payloads⟩ := links.onTrack_start legal starts
      obtain ⟨onward, moved⟩ := track.scans scans
      exact onward.fits ((payloads.trans moved).fewerThan small)
  | advanced starts answered =>
      obtain ⟨track, payloads⟩ := links.onTrack_start legal starts
      obtain ⟨onward, moved⟩ := onTrack_advance track answered
      exact onward.fits ((payloads.trans moved).fewerThan small)
  | drained goal scans =>
      obtain ⟨onward, moved⟩ := links.onTrack.scans scans
      exact onward.fits (moved.fewerThan small)
  | restarted goal made answered scans =>
      obtain ⟨track, payloads⟩ := links.onTrack_restart goal made answered
      obtain ⟨onward, moved⟩ := track.scans scans
      exact onward.fits ((payloads.trans moved).fewerThan small)
  | emptied made pours => exact (links.fits_beside small made).pours pours
  | gathered made first pours =>
      have emptied := (links.fits_beside small made).pours (.of_transfer first)
      exact (emptied.perm (.swap _ _ _)).pours pours
  | ended answered =>
      have performed := links.answered legal answered
      exact performed.links.onTrack.fits (performed.payloads.fewerThan small)

/-- Both tables count nothing any more when all their payloads have been transferred. -/
theorem count_transferred (links : map.Links store linked) {allocator : Allocator}
    {capacity : Nat} {fresh emptied half rest full : Table Id} {between final : Store}
    (made : Table.allocate allocator capacity = .ok fresh)
    (first : map.rehash.older.transfer fresh store = .ok (emptied, half, between))
    (second : map.rehash.newer.transfer half between = .ok (rest, full, final)) :
    emptied.count = 0 ∧ rest.count = 0 := by
  obtain ⟨_, ⟨newer, older, sound, _⟩, _⟩ := links
  obtain ⟨blank, _, allocated, empty⟩ := Table.sound_of_allocate made store
  obtain ⟨_, _, _, _, _, _, sameFirst, sameSecond, received⟩ :=
    sound.tables.gather blank allocated
  obtain ⟨rfl, rfl, rfl⟩ := by simpa using Except.ok.inj (sameFirst.symm.trans first)
  obtain ⟨rfl, rfl, rfl⟩ := by simpa using Except.ok.inj (sameSecond.symm.trans second)
  have arrived := received.count blank allocated
  rw [List.length_append, ← sound.tables.pair.soundSource.counted,
    ← sound.tables.pair.soundDestination.counted] at arrived
  obtain ⟨_, _, left⟩ := (Table.Pours.of_transfer first).counts
  obtain ⟨_, _, last⟩ := (Table.Pours.of_transfer second).counts
  omega

/-- The assertions of every call hold. -/
theorem asserts (links : map.Links store linked) (call : Call Id Content Memory)
    (allocator : Allocator) : call.Asserts allocator map store := by
  cases call with
  | resize target =>
      intro capacity drained goal answered
      obtain ⟨_, ⟨newer, older, sound, _⟩, _⟩ := links
      obtain ⟨ended, same, inactive, _⟩ := sound.drain (older_count_le_of_goal goal)
      obtain rfl := Except.ok.inj (same.symm.trans answered)
      exact inactive
  | resizeAtOnce target =>
      intro capacity fresh emptied half between rest full final made first second
      exact links.count_transferred made first second
  | _ => trivial

end Links

end Map

/-- After any run every further legal call is safe, and a traversal can be stopped after any number
of visits. -/
theorem Run.safe {Store Id Content Memory : Type} [Arena Store Id Content] [LawfulArena Store]
    [DecidableEq Id] {origin map : Map Id} {arena store : Store}
    {history : History Store Id Content Memory} (run : Run origin arena history map store) :
    ∀ edited, Arena.Careful history.linked store edited → Arena.FewerThan edited (2 ^ 63) →
      (∀ (call : Call Id Content Memory) (allocator : Allocator),
        call.Legal history.linked edited → call.Safe allocator map edited) ∧
      ∀ number, ∃ answers after,
        Traversal.visits edited number (Traversal.start map) = .ok (answers, after) := by
  intro edited careful small
  have links := run.links.1.congr careful
  constructor
  · intro call allocator legal
    obtain ⟨outcome, returned, _⟩ := links.answer allocator legal
    constructor
    · exact ⟨outcome, returned⟩
    · exact fun _ => links.fits small legal
    · exact links.asserts call allocator
  · intro number
    obtain ⟨_, ⟨newer, older, sound, _⟩, _⟩ := links
    have ahead := Traversal.Ahead.start sound.tables
    obtain ⟨items, _, ids, nodes⟩ := ahead.lists
    obtain ⟨after, visited, _⟩ := (ids.symm ▸ ahead).visits nodes number
    exact ⟨_, after, visited⟩

/-- A caller that adds a payload to an indexed arena leaves the others as they are. -/
theorem IndexedArena.careful_add {Content : Type} {store : IndexedArena Content}
    {linked : Finset Nat} (present : ∀ id ∈ linked, (Arena.node? store id).isSome)
    (node : Node Nat Content) : Arena.Careful linked store (store.add node) := by
  intro id member
  have inside : id < store.size := by simpa [Arena.node?] using present id member
  simp [Arena.link?, Arena.node?, add, Array.getElem?_push_lt, inside]

/-- In the middle of an episode a deletion is safe after a fresh payload has come into the arena. -/
theorem Run.safe_midway :
    ∃ (history : History (IndexedArena Char) Nat Char Unit) (map : Map Nat)
      (store : IndexedArena Char),
      Run (Map.empty ⟨1, 1, 1⟩) #[⟨.detached 3, 'a'⟩, ⟨.detached 4, 'b'⟩] history map store ∧
        map.isRehashing = true ∧
        (Call.delete (.code 3 (Matcher.ofPredicate (· == 'a'))) ()).Safe .addressSpace map
          (store.add ⟨.detached 5, 'c'⟩) := by
  have start : Run (Map.empty ⟨1, 1, 1⟩)
      (#[⟨.detached 3, 'a'⟩, ⟨.detached 4, 'b'⟩] : IndexedArena Char)
      ([] : History _ Nat Char Unit) _ _ :=
    .start (.ofConfig ⟨1, 1, 1⟩ rfl) (Arena.fewerThan_of_size (by decide))
  have first := start.next (.insert 0) .addressSpace ⟨rfl, by decide⟩ rfl
  have second := first.next (.insert 1) .addressSpace ⟨rfl, by decide⟩ rfl
  have careful := IndexedArena.careful_add (fun _ => second.links.1.present) ⟨.detached 5, 'c'⟩
  have further := second.safe _ careful (Arena.fewerThan_of_size (by decide))
  exact ⟨_, _, _, second, rfl, further.1 _ _ trivial⟩

end IncrementalMap
