/-
This file proves that scans move the payloads of the older table in their order.
-/

import IncrementalMap.Proofs.Table.Transfer
import IncrementalMap.Rehash.Basic

namespace IncrementalMap.Rehash

/-- A sound rehash has two sound tables without a common payload, and nothing is left behind the
cursor. The older table needs a newer one to drain into. -/
structure Sound {Store Id Content : Type} [Arena Store Id Content] (rehash : Rehash Id)
    (store : Store) (newer older : Layout Id) : Prop where
  pair : Table.SoundPair rehash.older rehash.newer store older newer
  cleared : ∀ slot, slot < rehash.cursor → older slot = []
  together : 0 < rehash.older.capacity → 0 < rehash.newer.capacity

/-- A rehash has moved an amount of payloads when the first ids of the older table, or all if they
are fewer, were poured into the newer one and the others stayed in their order. -/
structure Moved {Store Id Content : Type} [Arena Store Id Content] (rehash : Rehash Id)
    (store : Store) (newer older : Layout Id) (amount : Nat) (after : Rehash Id) (linked : Store)
    (drained : Layout Id) : Prop where
  sound : after.Sound linked
    (newer.pour (rehash.newer.home store) ((older.ids rehash.older.capacity).take amount)) drained
  left : drained.ids rehash.older.capacity = (older.ids rehash.older.capacity).drop amount
  alikeNewer : rehash.newer.Alike after.newer
  alikeOlder : rehash.older.Alike after.older
  cursor_le : rehash.cursor ≤ after.cursor
  rewires : Arena.Rewires {id | id ∈ (older.ids rehash.older.capacity).take amount} store linked

namespace Sound

/-- A slot from the cursor on has a chain while payloads are left in the older table. -/
theorem ahead {Store Id Content : Type} [Arena Store Id Content] {rehash : Rehash Id}
    {store : Store} {newer older : Layout Id} (sound : rehash.Sound store newer older)
    (left : rehash.older.count ≠ 0) : ∃ slot, rehash.cursor ≤ slot ∧ older slot ≠ [] := by
  by_contra! beyond
  have none := Layout.ids_eq_nil fun slot (_ : slot < rehash.older.capacity) =>
    (Nat.lt_or_ge slot rehash.cursor).elim (sound.cleared slot) (beyond slot)
  rw [sound.pair.soundSource.counted, none] at left
  exact left rfl

/-- The cursor stands inside the older table while payloads are left there. -/
theorem cursor_lt {Store Id Content : Type} [Arena Store Id Content] {rehash : Rehash Id}
    {store : Store} {newer older : Layout Id} (sound : rehash.Sound store newer older)
    (left : rehash.older.count ≠ 0) : rehash.cursor < rehash.older.capacity := by
  obtain ⟨slot, before, holds⟩ := sound.ahead left
  exact Nat.lt_of_le_of_lt before (sound.pair.soundSource.lt_of_ne_nil holds)

/-- A scan of an empty slot passes it. -/
theorem scan_empty {Store Id Content : Type} [Arena Store Id Content] {rehash : Rehash Id}
    {store : Store} {newer older : Layout Id} (sound : rehash.Sound store newer older)
    (empty : older rehash.cursor = []) :
    rehash.scan store = .ok (none, { rehash with cursor := rehash.cursor + 1 }, store) ∧
      Sound { rehash with cursor := rehash.cursor + 1 } store newer older := by
  have detached := empty ▸ sound.pair.soundSource.detach_end rehash.cursor
  rw [Position.following_nil] at detached
  have cleared : ∀ slot, slot < rehash.cursor + 1 → older slot = [] := by
    intro slot below
    rcases Nat.lt_succ_iff_lt_or_eq.1 below with earlier | rfl
    · exact sound.cleared slot earlier
    · exact empty
  have scanned : rehash.scan store =
      .ok (none, { rehash with cursor := rehash.cursor + 1 }, store) := by
    obtain ⟨newer, older, cursor⟩ := rehash
    simp [scan, detached, bind, Except.bind, pure, Except.pure]
  exact ⟨scanned, sound.pair, cleared, sound.together⟩

/-- A scan of another slot moves its first payload to the newer table. -/
theorem scan_first {Store Id Content : Type} [Arena Store Id Content] [LawfulArena Store]
    {rehash : Rehash Id} {store : Store} {newer older : Layout Id}
    (sound : rehash.Sound store newer older) {id : Id} {rest : List Id}
    (first : older rehash.cursor = id :: rest) :
    ∃ grown cut linked, rehash.scan store = .ok (some id, ⟨grown, cut, rehash.cursor⟩, linked) ∧
      Sound ⟨grown, cut, rehash.cursor⟩ linked (newer.push (rehash.newer.home store id) id)
        (Function.update older rehash.cursor rest) ∧
      rehash.newer.Alike grown ∧ rehash.older.Alike cut ∧ Arena.Rewires {id} store linked := by
  have leads : id ∈ older rehash.cursor := by simp [first]
  have inRange := sound.pair.soundSource.lt_of_mem leads
  obtain ⟨cut, unlinked, grown, linked, detached, inserted, moved, alikeCut, alikeGrown,
    rewires⟩ := sound.pair.move (sound.together (Nat.zero_lt_of_lt inRange)) first
  have scanned : rehash.scan store = .ok (some id, ⟨grown, cut, rehash.cursor⟩, linked) := by
    obtain ⟨newer, older, cursor⟩ := rehash
    simp [scan, detached, inserted, bind, Except.bind, pure, Except.pure]
  have cleared : ∀ slot, slot < rehash.cursor →
      Function.update older rehash.cursor rest slot = [] := by
    intro slot below
    rw [Function.update_of_ne (Nat.ne_of_lt below)]
    exact sound.cleared slot below
  have together : 0 < cut.capacity → 0 < grown.capacity := by
    rw [alikeCut.capacity, alikeGrown.capacity]
    exact sound.together
  exact ⟨grown, cut, linked, scanned, ⟨moved, cleared, together⟩, alikeGrown, alikeCut, rewires⟩

end Sound

namespace Moved

/-- Nothing moves when the amount is zero or the older table is empty. -/
theorem nothing {Store Id Content : Type} [Arena Store Id Content] {rehash : Rehash Id}
    {store : Store} {newer older : Layout Id} (sound : rehash.Sound store newer older)
    {amount : Nat} (stopped : min amount rehash.older.count = 0) :
    rehash.Moved store newer older amount rehash store older := by
  have counted := sound.pair.soundSource.counted
  have taken : (older.ids rehash.older.capacity).take amount = [] := by
    rw [List.take_eq_nil_iff, ← List.length_eq_zero_iff, ← counted]
    omega
  have left : (older.ids rehash.older.capacity).drop amount = older.ids rehash.older.capacity := by
    conv_rhs => rw [← List.take_append_drop amount (older.ids rehash.older.capacity), taken]
    rfl
  have unchanged : rehash.Sound store (newer.pour (rehash.newer.home store)
      ((older.ids rehash.older.capacity).take amount)) older := by
    rw [taken, Layout.pour_nil]
    exact sound
  exact ⟨unchanged, left.symm, .refl _, .refl _, Nat.le_refl _, .refl _ _⟩

/-- Passing an empty slot moves nothing. -/
theorem pass {Store Id Content : Type} [Arena Store Id Content] {rehash after : Rehash Id}
    {store linked : Store} {newer older drained : Layout Id} {amount : Nat}
    (moved : Moved { rehash with cursor := rehash.cursor + 1 } store newer older amount after
      linked drained) :
    rehash.Moved store newer older amount after linked drained :=
  ⟨moved.sound, moved.left, moved.alikeNewer, moved.alikeOlder, Nat.le_of_succ_le moved.cursor_le,
    moved.rewires⟩

/-- The first payload moves before the others. -/
theorem cons {Store Id Content : Type} [Arena Store Id Content] {rehash after : Rehash Id}
    {store between linked : Store} {newer older drained : Layout Id}
    (sound : rehash.Sound store newer older) (left : rehash.older.count ≠ 0) {id : Id}
    {rest : List Id} (first : older rehash.cursor = id :: rest) {grown cut : Table Id}
    (alikeGrown : rehash.newer.Alike grown) (alikeCut : rehash.older.Alike cut)
    (rewires : Arena.Rewires {id} store between) {amount : Nat}
    (moved : Moved ⟨grown, cut, rehash.cursor⟩ between
      (newer.push (rehash.newer.home store id) id) (Function.update older rehash.cursor rest)
      amount after linked drained) :
    rehash.Moved store newer older (amount + 1) after linked drained := by
  have ids := Layout.ids_first (sound.cursor_lt left) sound.cleared first
  have home : grown.home between = rehash.newer.home store :=
    funext (alikeGrown.home rewires.payloads)
  obtain ⟨soundAfter, drop, alikeNewer, alikeOlder, cursor, rewired⟩ := moved
  simp only [alikeCut.capacity, home] at soundAfter drop rewired
  constructor
  · rw [ids, List.take_succ_cons, Layout.pour_cons]
    exact soundAfter
  · rw [ids, List.drop_succ_cons]
    exact drop
  · exact alikeGrown.trans alikeNewer
  · exact alikeCut.trans alikeOlder
  · exact cursor
  · rw [ids, List.take_succ_cons]
    exact (rewires.mono (by simp)).trans
      (rewired.mono fun other member => List.mem_cons_of_mem _ member)

end Moved

/-- The scans of one step move payloads up to the work that is left, and never reach the limit on
their number. -/
theorem Sound.scanUpTo {Store Id Content : Type} [Arena Store Id Content] [LawfulArena Store]
    {rehash : Rehash Id} {store : Store} {newer older : Layout Id}
    (sound : rehash.Sound store newer older) (work moved limit : Nat)
    (enough : min (work - moved) rehash.older.count +
      (rehash.older.capacity - rehash.cursor) ≤ limit) :
    ∃ after linked drained,
      Rehash.scanUpTo work limit moved rehash store =
        .ok (moved + min (work - moved) rehash.older.count, after, linked) ∧
      rehash.Moved store newer older (work - moved) after linked drained := by
  induction limit generalizing moved rehash store newer older with
  | zero =>
      have stopped : ¬ (moved < work ∧ rehash.older.count ≠ 0) := by omega
      have none : min (work - moved) rehash.older.count = 0 := by omega
      rw [Rehash.scanUpTo, if_neg stopped, none]
      exact ⟨rehash, store, older, rfl, .nothing sound none⟩
  | succ limit inductionHypothesis =>
      by_cases busy : moved < work ∧ rehash.older.count ≠ 0
      · have inRange := sound.cursor_lt busy.2
        rw [Rehash.scanUpTo, if_pos busy]
        cases chain : older rehash.cursor with
        | nil =>
            obtain ⟨scanned, soundNext⟩ := sound.scan_empty chain
            obtain ⟨after, linked, drained, rest, done⟩ :=
              inductionHypothesis soundNext moved (by simp only; omega)
            exact ⟨after, linked, drained, by simpa [scanned, bind, Except.bind] using rest,
              done.pass⟩
        | cons id rest =>
            obtain ⟨grown, cut, between, scanned, soundNext, alikeGrown, alikeCut, rewires⟩ :=
              sound.scan_first chain
            have fewer : cut.count + 1 = rehash.older.count := by
              rw [sound.pair.soundSource.counted, Layout.ids_first inRange sound.cleared chain,
                soundNext.pair.soundSource.counted, alikeCut.capacity, List.length_cons]
            obtain ⟨after, linked, drained, rest, done⟩ :=
              inductionHypothesis soundNext (moved + 1)
                (by simp only [alikeCut.capacity]; omega)
            have amount : work - moved = work - (moved + 1) + 1 := by omega
            have total : moved + 1 + min (work - (moved + 1)) cut.count =
                moved + min (work - moved) rehash.older.count := by omega
            rw [total] at rest
            exact ⟨after, linked, drained, by simpa [scanned, bind, Except.bind] using rest,
              amount ▸ .cons sound busy.2 chain alikeGrown alikeCut rewires done⟩
      · have none : min (work - moved) rehash.older.count = 0 := by omega
        rw [Rehash.scanUpTo, if_neg busy, none]
        exact ⟨rehash, store, older, rfl, .nothing sound none⟩

end IncrementalMap.Rehash
