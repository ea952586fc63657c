/-
This file proves that the operations of a rehash lose and double nothing, in any order.
-/

import IncrementalMap.Proofs.Rehash.Passage
import IncrementalMap.Proofs.Run.Invariant
import IncrementalMap.Proofs.Run.Reachable
import IncrementalMap.Proofs.Table.Chains

namespace IncrementalMap

/-- A ledger keeps account of a rehash: of the payloads that a detachment has returned and that have
not come back, of the tables that were handed back, and of every payload that was ever inserted. -/
structure Ledger (Store Id : Type) where
  rehash : Rehash Id
  store : Store
  loose : List Id
  returned : List (Table Id)
  inserted : Finset Id

/-- Every slot, and the place behind every listed payload, divides one chain in two. -/
theorem Layout.place {Id : Type} (layout : Layout Id) {capacity : Nat} {position : Position Id}
    (listed : ∀ id, position = .after id → id ∈ layout.ids capacity) :
    ∃ slot front rest, position = .following slot front ∧ layout slot = front ++ rest := by
  cases position with
  | head slot => exact ⟨slot, [], layout slot, rfl, rfl⟩
  | after id =>
      obtain ⟨slot, _, member⟩ := Layout.mem_ids.1 (listed id rfl)
      obtain ⟨front, rest, splits⟩ := List.append_of_mem member
      exact ⟨slot, front ++ [id], rest, by simp, by simp [splits]⟩

namespace Rehash

/-- These are the operations of a rehash, without the map around it. -/
inductive Operation (Id : Type) where
  | insert (id : Id)
  | start (fresh : Table Id)
  | grow (allocator : Allocator) (target : Nat)
  | step (work : Nat)
  | drain
  | release
  | detach (side : Side) (position : Position Id)
  | abandon

namespace Operation

variable {Store Id Content : Type} [Arena Store Id Content]

/-- Each operation changes the rehash and is entered in the ledger. -/
def perform [DecidableEq Id] (operation : Operation Id) (ledger : Ledger Store Id) :
    Except (Fault Id) (Ledger Store Id) :=
  match operation with
  | .insert id => do
      let (newer, store) ← ledger.rehash.newer.insert ledger.store id
      pure { ledger with
        rehash := { ledger.rehash with newer }
        store
        loose := ledger.loose.erase id
        inserted := Insert.insert id ledger.inserted }
  | .start fresh => pure { ledger with rehash := (ledger.rehash.start fresh).1 }
  | .grow allocator target =>
      pure { ledger with rehash := (ledger.rehash.grow allocator target).2.1 }
  | .step work => do
      let ⟨_, rehash, store, _⟩ ← ledger.rehash.step ledger.store work
      pure { ledger with rehash, store }
  | .drain => do
      let ⟨_, rehash, store, _⟩ ← ledger.rehash.drain ledger.store
      pure { ledger with rehash, store }
  | .release => pure { ledger with rehash := ledger.rehash.release.1 }
  | .detach side position => do
      let (id, rehash, store) ← ledger.rehash.detach ledger.store side position
      pure { ledger with rehash, store, loose := id.toList ++ ledger.loose }
  | .abandon =>
      let (older, rehash) := ledger.rehash.abandon
      pure { ledger with rehash, returned := older :: ledger.returned }

/-- A payload of the arena may be inserted while no table reaches it and the newer one is allocated.
An episode may be started on a freshly allocated table while none runs. A detachment names a slot, or
a payload of the same table. -/
def Legal (operation : Operation Id) (ledger : Ledger Store Id) : Prop :=
  match operation with
  | .insert id => ledger.rehash.newer.isAllocated = true ∧
      (Arena.node? ledger.store id).isSome ∧
      ∀ table ∈ ledger.rehash.newer :: ledger.rehash.older :: ledger.returned,
        ¬table.Reaches ledger.store id
  | .start fresh => ledger.rehash.isActive = false ∧
      ∃ allocator requested, Table.allocate allocator requested = .ok fresh
  | .detach side (.after id) => (ledger.rehash.table side).Reaches ledger.store id
  | _ => True

end Operation

namespace Sound

variable {Store Id Content : Type} [Arena Store Id Content] {rehash : Rehash Id} {store : Store}
  {newer older : Layout Id}

/-- There is nothing to detach behind the end of a chain. -/
theorem detach_end (sound : rehash.Sound store newer older) (side : Side) (slot : Nat) :
    rehash.detach store side (.following slot (side.layout newer older slot)) =
      .ok (none, rehash, store) := by
  obtain ⟨newerTable, olderTable, cursor⟩ := rehash
  cases side with
  | newer =>
      have detached := sound.pair.soundDestination.detach_end slot
      dsimp only at detached
      simp only [Rehash.detach, Side.layout, detached, ok_bind]
      rfl
  | older =>
      have detached := sound.pair.soundSource.detach_end slot
      dsimp only at detached
      simp only [Rehash.detach, Side.layout, detached, ok_bind]
      rfl

end Sound

/-- A step drains a rehash when it has moved the first payloads of the older table, as many as the
work allows, and left the others in their order. The episode goes on exactly while some are left. -/
structure Drains {Store Id Content : Type} [Arena Store Id Content] (rehash : Rehash Id)
    (store : Store) (work : Nat) (outcome : Outcome (Rehash Id) Store Nat) : Prop where
  moved : outcome.result = min work rehash.older.count
  ordered : ∃ first gone left last, rehash.newer.Lists store first ∧
    rehash.older.Lists store (gone ++ left) ∧ gone.length = outcome.result ∧
    outcome.state.newer.Lists outcome.store last ∧ last.Perm (gone ++ first) ∧
    outcome.state.older.Lists outcome.store left
  slots : rehash.newer.Alike outcome.state.newer
  running : outcome.state.isActive = true ↔ rehash.isActive = true ∧ work < rehash.older.count
  onward : outcome.state.isActive = true →
    rehash.older.Alike outcome.state.older ∧ rehash.cursor ≤ outcome.state.cursor
  silent : rehash.isActive = false → outcome = ⟨0, rehash, store, []⟩

/-- A step of a sound rehash drains it. -/
theorem Stepped.drains {Store Id Content : Type} [Arena Store Id Content] [LawfulArena Store]
    {rehash : Rehash Id} {store : Store} {newer older drained : Layout Id} {work : Nat}
    {outcome : Outcome (Rehash Id) Store Nat}
    (stepped : rehash.Stepped store newer older work outcome drained)
    (sound : rehash.Sound store newer older) : rehash.Drains store work outcome := by
  have running : outcome.state.isActive = true ↔
      rehash.isActive = true ∧ work < rehash.older.count := by
    constructor
    · intro still
      exact (stepped.onward still).1
    · rintro ⟨active, more⟩
      rw [isActive_iff, (stepped.running more).1.capacity, ← isActive_iff]
      exact active
  have count : ((older.ids rehash.older.capacity).take work).length = outcome.result := by
    rw [stepped.moved, List.length_take, sound.pair.soundSource.counted]
  have listed := sound.pair.soundSource.lists
  rw [← List.take_append_drop work (older.ids rehash.older.capacity)] at listed
  have left := stepped.sound.pair.soundSource.lists
  rw [stepped.left] at left
  constructor
  · exact stepped.moved
  · exact ⟨_, _, _, _, sound.pair.soundDestination.lists, listed, count,
      stepped.sound.pair.soundDestination.lists, stepped.newer_ids sound, left⟩
  · exact stepped.alike
  · exact running
  · intro still
    exact (stepped.onward still).2
  · exact stepped.silent

end Rehash

namespace Ledger

variable {Store Id Content : Type} [Arena Store Id Content]

/-- A ledger is reached from a newer table without payloads, which need not be allocated, by legal
operations. -/
inductive Reached [DecidableEq Id] : Ledger Store Id → Prop where
  | bare (store : Store) : Reached ⟨.idle .unallocated, store, [], [], ∅⟩
  | opened (allocator : Allocator) (requested : Nat) {fresh : Table Id}
      (allocated : Table.allocate allocator requested = .ok fresh) (store : Store) :
      Reached ⟨.idle fresh, store, [], [], ∅⟩
  | operated {ledger after : Ledger Store Id} (earlier : Reached ledger)
      (operation : Rehash.Operation Id) (legal : operation.Legal ledger)
      (performed : operation.perform ledger = .ok after) : Reached after

/-- The account lists the payloads of the newer table, of the older one, those that were detached,
and those of the tables that were handed back. -/
def account (ledger : Ledger Store Id) (newer older : Layout Id) (handed : List (List Id)) :
    List Id :=
  ledger.rehash.ids newer older ++ (ledger.loose ++ handed.flatten)

/-- A balanced ledger accounts for each payload that was ever inserted, and for each of them once.
Both tables are consistent, and nothing is left behind the cursor. -/
structure Balanced (ledger : Ledger Store Id) (newer older : Layout Id)
    (handed : List (List Id)) : Prop where
  newerConsistent : ledger.rehash.newer.Consistent ledger.store newer
  olderConsistent : ledger.rehash.older.Consistent ledger.store older
  returned : List.Forall₂ (fun table ids => table.Lists ledger.store ids) ledger.returned handed
  distinct : (ledger.account newer older handed).Nodup
  complete : ∀ id, id ∈ ledger.account newer older handed ↔ id ∈ ledger.inserted
  cursor : ledger.rehash.cursor ≤ ledger.rehash.older.capacity
  cleared : ∀ slot, slot < ledger.rehash.cursor → ledger.rehash.older.head? slot = none

/-- A sound ledger is balanced, and its tables are sound. -/
structure Sound (ledger : Ledger Store Id) (newer older : Layout Id) (handed : List (List Id)) :
    Prop where
  tables : ledger.rehash.Sound ledger.store newer older
  cursor : ledger.rehash.cursor ≤ ledger.rehash.older.capacity
  returned : List.Forall₂ (fun table ids => ∃ layout : Layout Id,
    table.Sound ledger.store layout ∧ layout.ids table.capacity = ids) ledger.returned handed
  distinct : (ledger.account newer older handed).Nodup
  complete : ∀ id, id ∈ ledger.account newer older handed ↔ id ∈ ledger.inserted

namespace Sound

variable {ledger : Ledger Store Id} {newer older : Layout Id} {handed : List (List Id)}

theorem balanced [LawfulArena Store] (sound : ledger.Sound newer older handed) :
    ledger.Balanced newer older handed where
  newerConsistent := sound.tables.pair.soundDestination.consistent
  olderConsistent := sound.tables.pair.soundSource.consistent
  returned := by
    apply sound.returned.imp
    rintro table ids ⟨layout, soundTable, rfl⟩
    exact soundTable.lists
  distinct := sound.distinct
  complete := sound.complete
  cursor := sound.cursor
  cleared slot below :=
    sound.tables.pair.soundSource.head?_of_nil (sound.tables.cleared slot below)

/-- A payload of the account that is in neither table is not touched by what happens to them. -/
theorem apart (sound : ledger.Sound newer older handed) {id : Id}
    (member : id ∈ ledger.rehash.ids newer older) : id ∉ handed.flatten := fun again =>
  List.disjoint_of_nodup_append sound.distinct member (List.mem_append_right _ again)

/-- The tables that were handed back keep their payloads when only others are rewired. -/
theorem rewire (sound : ledger.Sound newer older handed) {touched : Set Id} {after : Store}
    (rewires : Arena.Rewires touched ledger.store after)
    (apart : ∀ id ∈ handed.flatten, id ∉ touched) :
    List.Forall₂ (fun table ids => ∃ layout : Layout Id,
      table.Sound after layout ∧ layout.ids table.capacity = ids) ledger.returned handed := by
  have inside : ∀ ids ∈ handed, ∀ id ∈ ids, id ∉ touched := fun ids listed id member =>
    apart id (List.mem_flatten.2 ⟨ids, listed, member⟩)
  have shown := sound.returned
  clear sound apart
  generalize ledger.returned = tables at shown ⊢
  induction shown with
  | nil => exact .nil
  | @cons table ids tables others shown _ inductionHypothesis =>
      obtain ⟨layout, soundTable, rfl⟩ := shown
      have kept := soundTable.rewire rewires (inside _ List.mem_cons_self)
      exact .cons ⟨layout, kept, rfl⟩ (inductionHypothesis fun ids listed =>
        inside ids (List.mem_cons_of_mem _ listed))

/-- A ledger stays sound when its account is only put in another order. -/
theorem carry (sound : ledger.Sound newer older handed) {rehash : Rehash Id} {store : Store}
    {loose : List Id} {newerAfter olderAfter : Layout Id} {touched : Set Id}
    (tables : rehash.Sound store newerAfter olderAfter)
    (cursor : rehash.cursor ≤ rehash.older.capacity)
    (rewires : Arena.Rewires touched ledger.store store)
    (inside : ∀ id ∈ touched, id ∈ ledger.rehash.ids newer older)
    (same : (rehash.ids newerAfter olderAfter ++ loose).Perm
      (ledger.rehash.ids newer older ++ ledger.loose)) :
    Sound ⟨rehash, store, loose, ledger.returned, ledger.inserted⟩ newerAfter olderAfter
      handed := by
  have account : (account ⟨rehash, store, loose, ledger.returned, ledger.inserted⟩ newerAfter
      olderAfter handed).Perm (ledger.account newer older handed) := by
    rw [Ledger.account, Ledger.account, ← List.append_assoc, ← List.append_assoc]
    exact same.append_right _
  constructor
  · exact tables
  · exact cursor
  · exact sound.rewire rewires fun id listed moved => sound.apart (inside id moved) listed
  · exact account.nodup_iff.2 sound.distinct
  · intro id
    rw [account.mem_iff]
    exact sound.complete id

/-- An insertion takes a payload into the newer table, whether it is new or comes back. -/
theorem insert [LawfulArena Store] [DecidableEq Id] (sound : ledger.Sound newer older handed)
    (allocated : 0 < ledger.rehash.newer.capacity) {id : Id}
    (present : (Arena.node? ledger.store id).isSome)
    (outside : id ∉ ledger.rehash.ids newer older) (kept : id ∉ handed.flatten) :
    ∃ grown linked pushed, ledger.rehash.newer.insert ledger.store id = .ok (grown, linked) ∧
      Sound ⟨{ ledger.rehash with newer := grown }, linked, ledger.loose.erase id, ledger.returned,
        Insert.insert id ledger.inserted⟩ pushed older handed := by
  obtain ⟨grown, linked, pushed, inserted, tables, listed, _, _, rewires⟩ :=
    sound.tables.insert allocated present outside
  -- The payload moves to the front of the account, whether or not it was loose.
  have account : (Ledger.account ⟨{ ledger.rehash with newer := grown }, linked,
      ledger.loose.erase id, ledger.returned, Insert.insert id ledger.inserted⟩ pushed older
      handed).Perm (id :: (ledger.account newer older handed).erase id) := by
    have rest : (ledger.account newer older handed).erase id =
        ledger.rehash.ids newer older ++ (ledger.loose.erase id ++ handed.flatten) := by
      rw [Ledger.account, List.erase_append_right _ outside, List.erase_append]
      split <;> rename_i loose
      · rfl
      · rw [List.erase_of_not_mem kept, List.erase_of_not_mem loose]
    rw [rest]
    exact listed.append_right _
  refine ⟨grown, linked, pushed, inserted, ?_⟩
  constructor
  · exact tables
  · exact sound.cursor
  · apply sound.rewire rewires
    intro other member same
    exact kept (Set.mem_singleton_iff.1 same ▸ member)
  · rw [account.nodup_iff, List.nodup_cons]
    exact ⟨sound.distinct.not_mem_erase, sound.distinct.erase id⟩
  · intro other
    rw [account.mem_iff, List.mem_cons, sound.distinct.mem_erase_iff, sound.complete,
      Finset.mem_insert]
    tauto

/-- An episode that is abandoned hands its older table over to the account. -/
theorem abandon (sound : ledger.Sound newer older handed) :
    Sound ⟨.idle ledger.rehash.newer, ledger.store, ledger.loose,
      ledger.rehash.older :: ledger.returned, ledger.inserted⟩ newer Layout.blank
      (older.ids ledger.rehash.older.capacity :: handed) := by
  have account : (Ledger.account ⟨.idle ledger.rehash.newer, ledger.store, ledger.loose,
      ledger.rehash.older :: ledger.returned, ledger.inserted⟩ newer Layout.blank
      (older.ids ledger.rehash.older.capacity :: handed)).Perm
        (ledger.account newer older handed) := by
    simp only [Ledger.account, Rehash.ids, Layout.ids_blank, List.append_nil, List.flatten_cons,
      Rehash.newer_idle, List.append_assoc]
    apply List.Perm.append_left
    rw [← List.append_assoc, ← List.append_assoc]
    exact List.perm_append_comm.append_right _
  constructor
  · exact .idle sound.tables.pair.soundDestination
  · exact Nat.zero_le _
  · exact .cons ⟨older, sound.tables.pair.soundSource, rfl⟩ sound.returned
  · exact account.nodup_iff.2 sound.distinct
  · intro id
    rw [account.mem_iff]
    exact sound.complete id

/-- A step only moves payloads from one table to the other. -/
theorem step [LawfulArena Store] (sound : ledger.Sound newer older handed) (work : Nat) :
    ∃ outcome poured drained, ledger.rehash.step ledger.store work = .ok outcome ∧
      Sound { ledger with rehash := outcome.state, store := outcome.store } poured drained handed := by
  obtain ⟨outcome, drained, answered, stepped⟩ := sound.tables.step work
  have track : ledger.rehash.OnTrack ledger.store := ⟨⟨newer, older, sound.tables⟩, sound.cursor⟩
  have onward := (track.step answered).1.cursor
  have same := (stepped.ids sound.tables).append_right ledger.loose
  exact ⟨outcome, _, drained, answered, sound.carry stepped.sound onward stepped.rewires
    (fun id moved => List.mem_append_right _ (List.mem_of_mem_take moved)) same⟩

/-- An episode that starts only renames the tables. -/
theorem start (sound : ledger.Sound newer older handed)
    (inactive : ledger.rehash.isActive = false) {allocator : Allocator} {requested : Nat}
    {fresh : Table Id} (allocated : Table.allocate allocator requested = .ok fresh) :
    Sound { ledger with rehash := (ledger.rehash.start fresh).1 } Layout.blank newer handed := by
  obtain ⟨blank, _, positive, _⟩ := Table.sound_of_allocate allocated ledger.store
  obtain ⟨started, same⟩ := sound.tables.start inactive blank positive
  exact sound.carry started (Nat.zero_le _) (.refl ∅ ledger.store) (by simp)
    (.of_eq (congrArg (· ++ ledger.loose) same))

/-- A growth starts an episode or changes nothing. -/
theorem grow (sound : ledger.Sound newer older handed) (allocator : Allocator) (target : Nat) :
    ∃ newer older,
      Sound { ledger with rehash := (ledger.rehash.grow allocator target).2.1 } newer older handed := by
  rw [Rehash.grow]
  split <;> rename_i active
  · exact ⟨newer, older, sound⟩
  · rcases made : (Table.allocate allocator target : Except MapError (Table Id)) with error | fresh
    · exact ⟨newer, older, sound⟩
    · exact ⟨_, _, sound.start (by simpa using active) made⟩

/-- A release gives up an empty table only. -/
theorem release (sound : ledger.Sound newer older handed) :
    ∃ older, Sound { ledger with rehash := ledger.rehash.release.1 } newer older handed := by
  obtain ⟨drained, tables, left, newerKept⟩ := sound.tables.release
  have track : ledger.rehash.OnTrack ledger.store := ⟨⟨newer, older, sound.tables⟩, sound.cursor⟩
  have same : ledger.rehash.release.1.ids newer drained = ledger.rehash.ids newer older := by
    rw [Rehash.ids, left, newerKept, Rehash.ids]
  exact ⟨drained, sound.carry tables track.release.cursor (.refl ∅ ledger.store) (by simp)
    (.of_eq (congrArg (· ++ ledger.loose) same))⟩

/-- A detachment takes a payload out of one table into the account of loose payloads. -/
theorem detach [LawfulArena Store] (sound : ledger.Sound newer older handed) (side : Side)
    {position : Position Id}
    (listed : ∀ id, position = .after id →
      id ∈ (side.layout newer older).ids (ledger.rehash.table side).capacity) :
    ∃ found after unlinked newerAfter olderAfter,
      ledger.rehash.detach ledger.store side position = .ok (found, after, unlinked) ∧
      Sound ⟨after, unlinked, found.toList ++ ledger.loose, ledger.returned, ledger.inserted⟩
        newerAfter olderAfter handed := by
  obtain ⟨slot, front, rest, rfl, splits⟩ := Layout.place _ listed
  cases rest with
  | nil =>
      have detached := sound.tables.detach_end side slot
      rw [splits, List.append_nil] at detached
      exact ⟨none, ledger.rehash, ledger.store, newer, older, detached, sound⟩
  | cons id rest =>
      obtain ⟨after, unlinked, newerAfter, olderAfter, answered, detached⟩ :=
        sound.tables.detach splits
      have cursor : after.cursor ≤ after.older.capacity := by
        rw [detached.cursor, detached.alikeOlder.capacity]
        exact sound.cursor
      have inside : ∀ other ∈ {moved | moved = id ∨ front.getLast? = some moved},
          other ∈ ledger.rehash.ids newer older := by
        intro other touched
        have near : other ∈ front ++ id :: rest := Table.mem_of_touched touched
        rw [← splits] at near
        cases side with
        | newer =>
            exact List.mem_append_left _ (sound.tables.pair.soundDestination.mem_ids_of_mem near)
        | older =>
            exact List.mem_append_right _ (sound.tables.pair.soundSource.mem_ids_of_mem near)
      have same := (List.perm_middle.trans (detached.ids.symm.append_right ledger.loose))
      exact ⟨some id, after, unlinked, newerAfter, olderAfter, answered,
        sound.carry detached.sound cursor detached.rewires inside same⟩

/-- A payload that no table reaches is not among those of the tables that were handed back. -/
theorem not_mem_handed [LawfulArena Store] (sound : ledger.Sound newer older handed) {id : Id}
    (outside : ∀ table ∈ ledger.returned, ¬table.Reaches ledger.store id) :
    id ∉ handed.flatten := by
  have shown := sound.balanced.returned
  clear sound
  generalize ledger.returned = tables at shown outside
  induction shown with
  | nil => simp
  | @cons table ids tables others lists _ inductionHypothesis =>
      rw [List.flatten_cons, List.mem_append, not_or]
      constructor
      · intro member
        exact outside table List.mem_cons_self ⟨ids, lists, member⟩
      · apply inductionHypothesis
        intro other member
        exact outside other (List.mem_cons_of_mem _ member)

/-- A payload that a side reaches is in its layout. -/
theorem mem_of_reaches [LawfulArena Store] (sound : ledger.Sound newer older handed) {side : Side}
    {id : Id} (reaches : (ledger.rehash.table side).Reaches ledger.store id) :
    id ∈ (side.layout newer older).ids (ledger.rehash.table side).capacity := by
  cases side with
  | newer => exact sound.tables.pair.soundDestination.reaches_iff.1 reaches
  | older => exact sound.tables.pair.soundSource.reaches_iff.1 reaches

/-- Every legal operation on a sound ledger returns and leaves it sound. -/
theorem perform [LawfulArena Store] [DecidableEq Id] (sound : ledger.Sound newer older handed)
    {operation : Rehash.Operation Id} (legal : operation.Legal ledger) :
    ∃ after, operation.perform ledger = .ok after ∧
      ∃ newer older handed, after.Sound newer older handed := by
  cases operation with
  | insert id =>
      obtain ⟨allocated, present, outside⟩ := legal
      have notNewer : id ∉ newer.ids ledger.rehash.newer.capacity := fun member =>
        outside _ (by simp) (sound.tables.pair.soundDestination.reaches_iff.2 member)
      have notOlder : id ∉ older.ids ledger.rehash.older.capacity := fun member =>
        outside _ (by simp) (sound.tables.pair.soundSource.reaches_iff.2 member)
      have notHanded := sound.not_mem_handed fun table member => outside table (by simp [member])
      rw [Table.isAllocated_iff] at allocated
      obtain ⟨grown, linked, pushed, inserted, soundAfter⟩ := sound.insert allocated present
        (by simp [Rehash.ids, notNewer, notOlder]) notHanded
      refine ⟨_, ?_, pushed, older, handed, soundAfter⟩
      rw [Rehash.Operation.perform, inserted, ok_bind]
      rfl
  | start fresh =>
      obtain ⟨inactive, allocator, requested, allocated⟩ := legal
      exact ⟨_, rfl, _, _, _, sound.start inactive allocated⟩
  | grow allocator target =>
      obtain ⟨newer, older, soundAfter⟩ := sound.grow allocator target
      exact ⟨_, rfl, newer, older, handed, soundAfter⟩
  | step work =>
      obtain ⟨outcome, poured, drained, answered, soundAfter⟩ := sound.step work
      refine ⟨_, ?_, poured, drained, handed, soundAfter⟩
      rw [Rehash.Operation.perform, answered, ok_bind]
      rfl
  | drain =>
      obtain ⟨outcome, poured, drained, answered, soundAfter⟩ := sound.step wordLimit
      refine ⟨_, ?_, poured, drained, handed, soundAfter⟩
      rw [Rehash.Operation.perform, Rehash.drain, answered, ok_bind]
      rfl
  | release =>
      obtain ⟨left, soundAfter⟩ := sound.release
      exact ⟨_, rfl, newer, left, handed, soundAfter⟩
  | detach side position =>
      obtain ⟨found, after, unlinked, newerAfter, olderAfter, answered, soundAfter⟩ :=
        sound.detach side fun id (placed : position = .after id) => by
          subst placed
          exact sound.mem_of_reaches legal
      refine ⟨_, ?_, newerAfter, olderAfter, handed, soundAfter⟩
      rw [Rehash.Operation.perform, answered, ok_bind]
      rfl
  | abandon => exact ⟨_, rfl, _, _, _, sound.abandon⟩

end Sound

namespace Reached

variable {ledger : Ledger Store Id}

/-- A reached ledger is sound. -/
theorem sound [LawfulArena Store] [DecidableEq Id] (reached : ledger.Reached) :
    ∃ newer older handed, ledger.Sound newer older handed := by
  induction reached with
  | bare store =>
      exact ⟨_, _, [], .idle (.unallocated store), Nat.zero_le _, .nil, by simp [account, Rehash.ids],
        by simp [account, Rehash.ids]⟩
  | opened allocator requested allocated store =>
      obtain ⟨blank, _⟩ := Table.sound_of_allocate allocated store
      exact ⟨_, _, [], .idle blank, Nat.zero_le _, .nil, by simp [account, Rehash.ids],
        by simp [account, Rehash.ids]⟩
  | operated earlier operation legal performed inductionHypothesis =>
      obtain ⟨newer, older, handed, sound⟩ := inductionHypothesis
      obtain ⟨after, returned, kept⟩ := sound.perform legal
      rwa [Except.ok.inj (performed.symm.trans returned)]

/-- A reached ledger is balanced, every further legal operation returns and leaves it balanced, and a
step of any work drains the older table by as many payloads as the work allows. -/
theorem balances [LawfulArena Store] [DecidableEq Id] (reached : ledger.Reached) :
    (∃ newer older handed, ledger.Balanced newer older handed) ∧
      (∀ operation : Rehash.Operation Id, operation.Legal ledger →
        ∃ after, operation.perform ledger = .ok after ∧
          ∃ newer older handed, after.Balanced newer older handed) ∧
      ∀ work, ∃ outcome, ledger.rehash.step ledger.store work = .ok outcome ∧
        ledger.rehash.Drains ledger.store work outcome := by
  obtain ⟨newer, older, handed, sound⟩ := reached.sound
  refine ⟨⟨newer, older, handed, sound.balanced⟩, ?_, ?_⟩
  · intro operation legal
    obtain ⟨after, performed, newer, older, handed, soundAfter⟩ := sound.perform legal
    exact ⟨after, performed, newer, older, handed, soundAfter.balanced⟩
  · intro work
    obtain ⟨outcome, drained, answered, stepped⟩ := sound.tables.step work
    exact ⟨outcome, answered, stepped.drains sound.tables⟩

/-- The account is kept when a payload is detached from the middle of a chain, the episode is
abandoned, and the payload comes back. -/
theorem balances_abandoned :
    ∃ ledger : Ledger (IndexedArena Char) Nat, ledger.Reached ∧ ledger.returned.length = 1 ∧
      ledger.inserted = {0, 2, 1} ∧ ∃ newer older handed, ledger.Balanced newer older handed := by
  have start : Reached ⟨.idle ⟨#[none], 0, 0⟩, IndexedArena.three, [], [], ∅⟩ :=
    .opened .addressSpace 1 rfl _
  have first : Reached ⟨.idle ⟨#[some 0], 0, 1⟩, IndexedArena.three, [], [], {0}⟩ :=
    start.operated (.insert 0) ⟨rfl, rfl, by decide⟩ rfl
  have second : Reached ⟨.idle ⟨#[some 1], 0, 2⟩,
      (#[⟨.detached 3, 'a'⟩, ⟨⟨4, some 0⟩, 'b'⟩, ⟨.detached 5, 'c'⟩] : IndexedArena Char), [], [],
      {1, 0}⟩ :=
    first.operated (.insert 1) ⟨rfl, rfl, by decide⟩ rfl
  have third : Reached ⟨.idle ⟨#[some 2], 0, 3⟩,
      (#[⟨.detached 3, 'a'⟩, ⟨⟨4, some 0⟩, 'b'⟩, ⟨⟨5, some 1⟩, 'c'⟩] : IndexedArena Char), [], [],
      {2, 1, 0}⟩ :=
    second.operated (.insert 2) ⟨rfl, rfl, by decide⟩ rfl
  have grown : Reached ⟨⟨⟨#[none, none], 1, 0⟩, ⟨#[some 2], 0, 3⟩, 0⟩,
      (#[⟨.detached 3, 'a'⟩, ⟨⟨4, some 0⟩, 'b'⟩, ⟨⟨5, some 1⟩, 'c'⟩] : IndexedArena Char), [], [],
      {2, 1, 0}⟩ :=
    third.operated (.grow .addressSpace 2) trivial rfl
  have stepped : Reached ⟨⟨⟨#[none, some 2], 1, 1⟩, ⟨#[some 1], 0, 2⟩, 0⟩,
      (#[⟨.detached 3, 'a'⟩, ⟨⟨4, some 0⟩, 'b'⟩, ⟨.detached 5, 'c'⟩] : IndexedArena Char), [], [],
      {2, 1, 0}⟩ :=
    grown.operated (.step 1) trivial rfl
  have cut : Reached ⟨⟨⟨#[none, some 2], 1, 1⟩, ⟨#[some 1], 0, 1⟩, 0⟩, IndexedArena.three, [0], [],
      {2, 1, 0}⟩ :=
    stepped.operated (.detach .older (.after 1)) (show Table.Reaches _ _ _ by decide) rfl
  have abandoned : Reached ⟨.idle ⟨#[none, some 2], 1, 1⟩, IndexedArena.three, [0],
      [⟨#[some 1], 0, 1⟩], {2, 1, 0}⟩ :=
    cut.operated .abandon trivial rfl
  have again := abandoned.operated (.insert 0) ⟨rfl, rfl, by decide⟩ rfl
  exact ⟨_, again, rfl, by decide, again.balances.1⟩

end Reached

end Ledger

end IncrementalMap
