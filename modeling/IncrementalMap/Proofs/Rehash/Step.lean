/-
This file proves what one step of an episode does to the two tables.
-/

import IncrementalMap.Proofs.Rehash.Scan

namespace IncrementalMap.Rehash

/-- These are the payloads of both tables, those of the newer table first. -/
def ids {Id : Type} (rehash : Rehash Id) (newer older : Layout Id) : List Id :=
  newer.ids rehash.newer.capacity ++ older.ids rehash.older.capacity

/-- A rehash is settled when an episode runs only while payloads are left to move. -/
def Settled {Id : Type} (rehash : Rehash Id) : Prop :=
  rehash = idle rehash.newer ∨ 0 < rehash.older.capacity ∧ 0 < rehash.older.count

/-- At the end of an episode the newer table shows this layout. -/
def destined {Store Id Content : Type} [Arena Store Id Content] (rehash : Rehash Id)
    (store : Store) (newer older : Layout Id) : Layout Id :=
  newer.pour (rehash.newer.home store) (older.ids rehash.older.capacity)

/-- The newer table shows its layout already when nothing is left to move. -/
@[simp] theorem destined_blank {Store Id Content : Type} [Arena Store Id Content]
    (rehash : Rehash Id) (store : Store) (newer : Layout Id) :
    rehash.destined store newer Layout.blank = newer := by
  simp [destined]

/-- A step has moved the first payloads of the older table and has given the table up when it is
empty. Without an episode it has changed nothing. -/
structure Stepped {Store Id Content : Type} [Arena Store Id Content] (rehash : Rehash Id)
    (store : Store) (newer older : Layout Id) (work : Nat)
    (outcome : Outcome (Rehash Id) Store Nat) (drained : Layout Id) : Prop where
  moved : outcome.result = min work rehash.older.count
  sound : outcome.state.Sound outcome.store
    (newer.pour (rehash.newer.home store) ((older.ids rehash.older.capacity).take work)) drained
  left : drained.ids outcome.state.older.capacity = (older.ids rehash.older.capacity).drop work
  alike : rehash.newer.Alike outcome.state.newer
  rewires : Arena.Rewires {id | id ∈ (older.ids rehash.older.capacity).take work} store
    outcome.store
  running : work < rehash.older.count →
    rehash.older.Alike outcome.state.older ∧ rehash.cursor ≤ outcome.state.cursor
  finished : rehash.isActive = true → rehash.older.count ≤ work →
    outcome.state = idle outcome.state.newer
  silent : rehash.isActive = false → outcome = ⟨0, rehash, store, []⟩
  events : rehash.isActive = true → ∃ cursor,
    outcome.events =
      .migrationStep outcome.result cursor (rehash.older.count - outcome.result) ::
        if rehash.older.count ≤ work then [.migrationFinished rehash.older.capacity] else []

theorem isActive_iff {Id : Type} (rehash : Rehash Id) :
    rehash.isActive = true ↔ 0 < rehash.older.capacity := rehash.older.isAllocated_iff

theorem isActive_eq_false_iff {Id : Type} (rehash : Rehash Id) :
    rehash.isActive = false ↔ rehash.older.capacity = 0 := by
  rw [← Bool.not_eq_true, isActive_iff, Nat.pos_iff_ne_zero, not_not]

@[simp] theorem isActive_idle {Id : Type} (newer : Table Id) : (idle newer).isActive = false := rfl

@[simp] theorem older_idle {Id : Type} (newer : Table Id) :
    (idle newer).older = Table.unallocated := rfl

@[simp] theorem newer_idle {Id : Type} (newer : Table Id) : (idle newer).newer = newer := rfl

/-- Without an episode a step does nothing. -/
theorem step_of_inactive {Store Id Content : Type} [Arena Store Id Content] {rehash : Rehash Id}
    (inactive : rehash.isActive = false) (store : Store) (work : Nat) :
    rehash.step store work = .ok ⟨0, rehash, store, []⟩ := by
  simp [step, inactive, pure, Except.pure]

namespace Sound

/-- A sound table is a sound rehash of its own. -/
theorem idle {Store Id Content : Type} [Arena Store Id Content] {table : Table Id} {store : Store}
    {layout : Layout Id} (sound : table.Sound store layout) :
    (Rehash.idle table).Sound store layout Layout.blank where
  pair := ⟨.unallocated store, sound, by simp⟩
  cleared _ _ := rfl
  together allocated := by simp at allocated

/-- No payload is listed twice in the two tables. -/
theorem nodup {Store Id Content : Type} [Arena Store Id Content] {rehash : Rehash Id}
    {store : Store} {newer older : Layout Id} (sound : rehash.Sound store newer older) :
    (rehash.ids newer older).Nodup :=
  List.nodup_append.2 ⟨sound.pair.soundDestination.nodup, sound.pair.soundSource.nodup,
    fun _ left other right same => sound.pair.apart other right (same ▸ left)⟩

/-- The size counts the payloads of both tables. -/
theorem size_eq {Store Id Content : Type} [Arena Store Id Content] {rehash : Rehash Id}
    {store : Store} {newer older : Layout Id} (sound : rehash.Sound store newer older) :
    rehash.size = (rehash.ids newer older).length := by
  rw [size, sound.pair.soundDestination.counted, sound.pair.soundSource.counted, ids,
    List.length_append]

theorem present {Store Id Content : Type} [Arena Store Id Content] {rehash : Rehash Id}
    {store : Store} {newer older : Layout Id} (sound : rehash.Sound store newer older) {id : Id}
    (member : id ∈ rehash.ids newer older) : (Arena.node? store id).isSome := by
  rcases List.mem_append.1 member with left | right
  · exact sound.pair.soundDestination.present left
  · exact sound.pair.soundSource.present right

/-- A small arena has room for a small map only. -/
theorem size_lt {Store Id Content : Type} [Arena Store Id Content] {rehash : Rehash Id}
    {store : Store} {newer older : Layout Id} (sound : rehash.Sound store newer older) {bound : Nat}
    (small : Arena.FewerThan store bound) : rehash.size < bound := by
  rw [sound.size_eq]
  exact small _ sound.nodup fun id => sound.present

/-- A sound rehash depends on the links of its own payloads only. -/
theorem congr {Store Id Content : Type} [Arena Store Id Content] {rehash : Rehash Id}
    {before after : Store} {newer older : Layout Id} (sound : rehash.Sound before newer older)
    (same : ∀ id ∈ rehash.ids newer older, Arena.link? after id = Arena.link? before id) :
    rehash.Sound after newer older where
  pair := ⟨sound.pair.soundSource.congr fun id member => same id (List.mem_append_right _ member),
    sound.pair.soundDestination.congr fun id member => same id (List.mem_append_left _ member),
    sound.pair.apart⟩
  cleared := sound.cleared
  together := sound.together

/-- Giving up an empty older table keeps both layouts as they are. -/
theorem release {Store Id Content : Type} [Arena Store Id Content] {rehash : Rehash Id}
    {store : Store} {newer older : Layout Id} (sound : rehash.Sound store newer older) :
    ∃ drained, rehash.release.1.Sound store newer drained ∧
      drained.ids rehash.release.1.older.capacity = older.ids rehash.older.capacity ∧
      rehash.release.1.newer = rehash.newer := by
  unfold Rehash.release
  split <;> rename_i ended
  · simp only [Bool.and_eq_true, Table.isEmpty, beq_iff_eq] at ended
    have none : older.ids rehash.older.capacity = [] := by
      rw [← List.length_eq_zero_iff, ← sound.pair.soundSource.counted]
      exact ended.2
    exact ⟨Layout.blank, .idle sound.pair.soundDestination, by rw [Layout.ids_blank, none], rfl⟩
  · exact ⟨older, sound, rfl, rfl⟩

/-- A step always has an answer. -/
theorem step {Store Id Content : Type} [Arena Store Id Content] [LawfulArena Store]
    {rehash : Rehash Id} {store : Store} {newer older : Layout Id}
    (sound : rehash.Sound store newer older) (work : Nat) :
    ∃ outcome drained, rehash.step store work = .ok outcome ∧
      rehash.Stepped store newer older work outcome drained := by
  cases active : rehash.isActive with
  | false =>
      have none := rehash.isActive_eq_false_iff.1 active
      have count := sound.pair.soundSource.count_eq_zero none
      refine ⟨_, older, step_of_inactive active store work, ?_⟩
      constructor
      · simp [count]
      · simpa [none] using sound
      · simp [none]
      · exact .refl _
      · exact .refl _ store
      · simp [count]
      · simp [active]
      · exact fun _ => rfl
      · simp [active]
  | true =>
      obtain ⟨after, linked, drained, scanned, moved⟩ :=
        sound.scanUpTo work 0 (rehash.scanLimit work) (by simp [scanLimit])
      rw [Nat.zero_add, Nat.sub_zero] at scanned
      rw [Nat.sub_zero] at moved
      have running : after.isActive = true := by
        rw [isActive_iff, moved.alikeOlder.capacity, ← isActive_iff]
        exact active
      have count : after.older.count = rehash.older.count - work := by
        rw [moved.sound.pair.soundSource.counted, moved.alikeOlder.capacity, moved.left,
          List.length_drop, sound.pair.soundSource.counted]
      have stepped : rehash.step store work = .ok ⟨min work rehash.older.count, after.release.1,
          linked, .migrationStep (min work rehash.older.count) after.cursor after.older.count ::
            after.release.2⟩ := by
        simp [Rehash.step, active, scanned, bind, Except.bind, pure, Except.pure]
      obtain ⟨rest, soundRest, left, newerRest⟩ := moved.sound.release
      refine ⟨_, rest, stepped, ?_⟩
      constructor
      · rfl
      · exact soundRest
      · rw [left, moved.alikeOlder.capacity, moved.left]
      · exact newerRest ▸ moved.alikeNewer
      · exact moved.rewires
      · intro more
        have kept : after.release = (after, []) := by
          simp [Rehash.release, running, Table.isEmpty, count]
          omega
        rw [kept]
        exact ⟨moved.alikeOlder, moved.cursor_le⟩
      · intro _ enough
        simp [Rehash.release, running, Table.isEmpty, count, Nat.sub_eq_zero_of_le enough]
      · simp [active]
      · intro _
        have left : rehash.older.count - work =
            rehash.older.count - min work rehash.older.count := by omega
        exists after.cursor
        simp only [count, Rehash.release, running, Table.isEmpty, Bool.true_and, beq_iff_eq,
          Nat.sub_eq_zero_iff_le, moved.alikeOlder.capacity]
        rw [left]
        split <;> rfl

end Sound

/-- Giving up an empty older table settles a rehash whose cursor is reset between episodes. -/
theorem settled_release {Id : Type} {rehash : Rehash Id}
    (resting : rehash.isActive = false → rehash = idle rehash.newer) :
    rehash.release.1.Settled := by
  unfold release
  split <;> rename_i ended
  · exact Or.inl rfl
  · cases active : rehash.isActive with
    | false => exact Or.inl (resting active)
    | true =>
        simp only [active, Bool.true_and, Table.isEmpty, beq_iff_eq] at ended
        exact Or.inr ⟨rehash.isActive_iff.1 active, Nat.pos_of_ne_zero ended⟩

theorem Settled.resting {Id : Type} {rehash : Rehash Id} (settled : rehash.Settled)
    (inactive : rehash.isActive = false) : rehash = idle rehash.newer := by
  rcases settled with idle | ⟨allocated, _⟩
  · exact idle
  · rw [isActive_eq_false_iff] at inactive
    omega

/-- The home of a payload of the older table is a slot of the newer one. -/
theorem Sound.home_lt {Store Id Content : Type} [Arena Store Id Content] {rehash : Rehash Id}
    {store : Store} {newer older : Layout Id} (sound : rehash.Sound store newer older) {id : Id}
    (member : id ∈ older.ids rehash.older.capacity) :
    rehash.newer.home store id < rehash.newer.capacity := by
  obtain ⟨slot, inRange, _⟩ := Layout.mem_ids.1 member
  exact Table.home_lt sound.pair.soundDestination.shaped
    (sound.together (Nat.zero_lt_of_lt inRange)) store id

/-- The layout at the end of the episode has the payloads of both tables. -/
theorem Sound.ids_destined {Store Id Content : Type} [Arena Store Id Content] {rehash : Rehash Id}
    {store : Store} {newer older : Layout Id} (sound : rehash.Sound store newer older) :
    ((rehash.destined store newer older).ids rehash.newer.capacity).Perm
      (rehash.ids newer older) :=
  (newer.ids_pour fun _ => sound.home_lt).trans List.perm_append_comm

namespace Stepped

/-- The newer table gains the payloads that are moved. -/
theorem newer_ids {Store Id Content : Type} [Arena Store Id Content] {rehash : Rehash Id}
    {store : Store} {newer older drained : Layout Id} {work : Nat}
    {outcome : Outcome (Rehash Id) Store Nat}
    (stepped : rehash.Stepped store newer older work outcome drained)
    (sound : rehash.Sound store newer older) :
    (Layout.ids (newer.pour (rehash.newer.home store)
      ((older.ids rehash.older.capacity).take work)) outcome.state.newer.capacity).Perm
        ((older.ids rehash.older.capacity).take work ++ newer.ids rehash.newer.capacity) := by
  rw [stepped.alike.capacity]
  apply newer.ids_pour
  intro id member
  exact sound.home_lt (List.mem_of_mem_take member)

/-- A step neither loses nor doubles a payload. -/
theorem ids {Store Id Content : Type} [Arena Store Id Content] {rehash : Rehash Id}
    {store : Store} {newer older drained : Layout Id} {work : Nat}
    {outcome : Outcome (Rehash Id) Store Nat}
    (stepped : rehash.Stepped store newer older work outcome drained)
    (sound : rehash.Sound store newer older) :
    (outcome.state.ids (newer.pour (rehash.newer.home store)
      ((older.ids rehash.older.capacity).take work)) drained).Perm (rehash.ids newer older) := by
  have moved :=
    (stepped.newer_ids sound).append_right ((older.ids rehash.older.capacity).drop work)
  rw [Rehash.ids, stepped.left]
  apply moved.trans
  rw [Rehash.ids, ← List.take_append_drop work (older.ids rehash.older.capacity),
    ← List.append_assoc, List.take_append_drop]
  exact List.perm_append_comm.append_right _

/-- A step keeps the layout at the end of the episode, wherever it stops. -/
theorem destined {Store Id Content : Type} [Arena Store Id Content] {rehash : Rehash Id}
    {store : Store} {newer older drained : Layout Id} {work : Nat}
    {outcome : Outcome (Rehash Id) Store Nat}
    (stepped : rehash.Stepped store newer older work outcome drained) :
    outcome.state.destined outcome.store
        (newer.pour (rehash.newer.home store) ((older.ids rehash.older.capacity).take work)) drained =
      rehash.destined store newer older := by
  have home : outcome.state.newer.home outcome.store = rehash.newer.home store :=
    funext (stepped.alike.home stepped.rewires.payloads)
  rw [Rehash.destined, home, stepped.left, ← Layout.pour_append, List.take_append_drop,
    Rehash.destined]

/-- The older table loses the payloads that are moved. -/
theorem older_count {Store Id Content : Type} [Arena Store Id Content] {rehash : Rehash Id}
    {store : Store} {newer older drained : Layout Id} {work : Nat}
    {outcome : Outcome (Rehash Id) Store Nat}
    (stepped : rehash.Stepped store newer older work outcome drained)
    (sound : rehash.Sound store newer older) :
    outcome.state.older.count = rehash.older.count - work := by
  rw [stepped.sound.pair.soundSource.counted, stepped.left, List.length_drop,
    sound.pair.soundSource.counted]

/-- A step keeps the size. -/
theorem size_eq {Store Id Content : Type} [Arena Store Id Content] {rehash : Rehash Id}
    {store : Store} {newer older drained : Layout Id} {work : Nat}
    {outcome : Outcome (Rehash Id) Store Nat}
    (stepped : rehash.Stepped store newer older work outcome drained)
    (sound : rehash.Sound store newer older) : outcome.state.size = rehash.size := by
  rw [stepped.sound.size_eq, (stepped.ids sound).length_eq, sound.size_eq]

/-- The newer table counts the payloads that are moved. -/
theorem newer_count {Store Id Content : Type} [Arena Store Id Content] {rehash : Rehash Id}
    {store : Store} {newer older drained : Layout Id} {work : Nat}
    {outcome : Outcome (Rehash Id) Store Nat}
    (stepped : rehash.Stepped store newer older work outcome drained)
    (sound : rehash.Sound store newer older) :
    outcome.state.newer.count = rehash.newer.count + min work rehash.older.count := by
  have total := stepped.size_eq sound
  have fewer := stepped.older_count sound
  rw [size, size] at total
  omega

/-- An episode that goes on after a step keeps the slots of the older table, and its cursor has not
gone back. -/
theorem onward {Store Id Content : Type} [Arena Store Id Content] {rehash : Rehash Id}
    {store : Store} {newer older drained : Layout Id} {work : Nat}
    {outcome : Outcome (Rehash Id) Store Nat}
    (stepped : rehash.Stepped store newer older work outcome drained)
    (still : outcome.state.isActive = true) :
    (rehash.isActive = true ∧ work < rehash.older.count) ∧
      rehash.older.Alike outcome.state.older ∧ rehash.cursor ≤ outcome.state.cursor := by
  cases active : rehash.isActive with
  | false =>
      rw [stepped.silent active, active] at still
      exact nomatch still
  | true =>
      by_cases enough : rehash.older.count ≤ work
      · rw [stepped.finished active enough, isActive_idle] at still
        exact nomatch still
      · have more := Nat.lt_of_not_le enough
        exact ⟨⟨rfl, more⟩, stepped.running more⟩

/-- A step settles a rehash whose cursor is reset between episodes. -/
theorem settled {Store Id Content : Type} [Arena Store Id Content] {rehash : Rehash Id}
    {store : Store} {newer older drained : Layout Id} {work : Nat}
    {outcome : Outcome (Rehash Id) Store Nat}
    (stepped : rehash.Stepped store newer older work outcome drained)
    (sound : rehash.Sound store newer older)
    (resting : rehash.isActive = false → rehash = idle rehash.newer) :
    outcome.state.Settled := by
  cases active : rehash.isActive with
  | false =>
      rw [stepped.silent active]
      exact Or.inl (resting active)
  | true =>
      by_cases enough : rehash.older.count ≤ work
      · exact Or.inl (stepped.finished active enough)
      · have more := Nat.lt_of_not_le enough
        apply Or.inr
        constructor
        · rw [(stepped.running more).1.capacity]
          exact rehash.isActive_iff.1 active
        · rw [stepped.older_count sound]
          omega

end Stepped

end IncrementalMap.Rehash
