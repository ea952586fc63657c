/-
This file proves which payloads one step takes out of the older table, and where they all end up.
-/

import IncrementalMap.Proofs.Rehash.Step
import IncrementalMap.Proofs.Table.Handover

namespace IncrementalMap

namespace Layout

variable {Id : Type}

/-- The first payloads leave their slots, and the others stay in theirs. -/
def drop (layout : Layout Id) (amount : Nat) : Layout Id :=
  fun slot => (layout slot).drop (amount - (layout.ids slot).length)

/-- The ids that are left are those behind the first ones. -/
theorem ids_drop (layout : Layout Id) (amount capacity : Nat) :
    (layout.drop amount).ids capacity = (layout.ids capacity).drop amount := by
  induction capacity with
  | zero => simp
  | succ capacity inductionHypothesis =>
      rw [ids_succ, ids_succ, inductionHypothesis, List.drop_append]
      rfl

/-- When each id has one home, a slot finds its chain again among all ids. -/
theorem filter_ids {layout : Layout Id} {home : Id → Nat}
    (homes : ∀ slot, ∀ id ∈ layout slot, home id = slot) (slot capacity : Nat) :
    (layout.ids capacity).filter (fun id => home id = slot) =
      if slot < capacity then layout slot else [] := by
  induction capacity with
  | zero => simp
  | succ capacity inductionHypothesis =>
      have last : (layout capacity).filter (fun id => home id = slot) =
          if capacity = slot then layout slot else [] := by
        split <;> rename_i here
        · subst here
          rw [List.filter_eq_self]
          intro id member
          simpa using homes capacity id member
        · rw [List.filter_eq_nil_iff]
          intro id member
          simpa [homes capacity id member] using here
      rw [ids_succ, List.filter_append, inductionHypothesis, last]
      rcases Nat.lt_trichotomy slot capacity with below | rfl | above
      · rw [if_pos below, if_neg (Nat.ne_of_gt below), if_pos (Nat.lt_succ_of_lt below),
          List.append_nil]
      · rw [if_neg (Nat.lt_irrefl slot), if_pos rfl, if_pos (Nat.lt_succ_self slot),
          List.nil_append]
      · rw [if_neg (Nat.not_lt_of_gt above), if_neg (Nat.ne_of_lt above),
          if_neg (Nat.not_lt_of_le above), List.append_nil]

end Layout

/-- A slot holds those payloads of its table that are at home there, in their order. -/
theorem Table.Sound.slot_eq {Store Id Content : Type} [Arena Store Id Content] {table : Table Id}
    {store : Store} {layout : Layout Id} (sound : table.Sound store layout) (slot : Nat) :
    layout slot = (layout.ids table.capacity).filter fun id => table.home store id = slot := by
  rw [Layout.filter_ids sound.homes]
  split <;> rename_i inRange
  · rfl
  · exact sound.outside (Nat.le_of_not_lt inRange)

namespace Rehash

variable {Store Id Content : Type} [Arena Store Id Content] {rehash : Rehash Id} {store : Store}
  {newer older drained : Layout Id} {work : Nat} {outcome : Outcome (Rehash Id) Store Nat}

/-- The payloads that a step leaves in the older table are still in their slots. -/
theorem Stepped.drained_eq
    (stepped : rehash.Stepped store newer older work outcome drained)
    (sound : rehash.Sound store newer older) : drained = older.drop work := by
  have before := sound.pair.soundSource
  have homes : ∀ slot, ∀ id ∈ older.drop work slot, rehash.older.home store id = slot :=
    fun slot id member => before.homes slot id (List.mem_of_mem_drop member)
  have kept : ∀ id ∈ (older.ids rehash.older.capacity).drop work,
      outcome.state.older.home outcome.store id = rehash.older.home store id := by
    intro id left
    have more : work < rehash.older.count := by
      rw [before.counted, ← Nat.sub_pos_iff_lt, ← List.length_drop]
      exact List.length_pos_of_mem left
    exact (stepped.running more).1.home stepped.rewires.payloads id
  funext slot
  calc drained slot
      = ((older.ids rehash.older.capacity).drop work).filter
          fun id => outcome.state.older.home outcome.store id = slot := by
        rw [stepped.sound.pair.soundSource.slot_eq slot, stepped.left]
    _ = ((older.drop work).ids rehash.older.capacity).filter
          fun id => rehash.older.home store id = slot := by
        rw [older.ids_drop]
        exact List.filter_congr fun id left => by rw [kept id left]
    _ = older.drop work slot := by
        rw [Layout.filter_ids homes]
        split <;> rename_i inRange
        · rfl
        · rw [Layout.drop, before.outside (Nat.le_of_not_lt inRange), List.drop_nil]

/-- A step takes a portion when it moves as many of the first payloads of the older table as its
work allows. In the newer table each slot gets those that are at home there, the last one first, in
front of its own, and in the older table the others stay where they were. The older table is given
up when nothing is left in it, and not before. -/
structure TakesPortion (rehash : Rehash Id) (store : Store) (newer older : Layout Id) (work : Nat)
    (outcome : Outcome (Rehash Id) Store Nat) : Prop where
  moved : outcome.result = min work (older.ids rehash.older.capacity).length
  alikeNewer : rehash.newer.Alike outcome.state.newer
  soundNewer : outcome.state.newer.Sound outcome.store fun slot =>
    (((older.ids rehash.older.capacity).take work).filter
      fun id => rehash.newer.home store id = slot).reverse ++ newer slot
  alikeOlder : (older.ids rehash.older.capacity).drop work ≠ [] →
    rehash.older.Alike outcome.state.older
  soundOlder : outcome.state.older.Sound outcome.store (older.drop work)
  lists : outcome.state.older.Lists outcome.store ((older.ids rehash.older.capacity).drop work)
  ended : outcome.state.older = Table.unallocated ∧ outcome.state.cursor = 0 ↔
    (older.ids rehash.older.capacity).drop work = []
  rewires : Arena.Rewires {id | id ∈ (older.ids rehash.older.capacity).take work} store
    outcome.store

/-- Every step of an episode has an answer and takes its portion. -/
theorem Sound.takes_portion [LawfulArena Store] (sound : rehash.Sound store newer older)
    (active : rehash.isActive = true) (work : Nat) :
    ∃ outcome, rehash.step store work = .ok outcome ∧
      rehash.TakesPortion store newer older work outcome := by
  obtain ⟨outcome, drained, answered, stepped⟩ := sound.step work
  obtain rfl := stepped.drained_eq sound
  have counted := sound.pair.soundSource.counted
  have gone : (older.ids rehash.older.capacity).drop work = [] ↔ rehash.older.count ≤ work := by
    rw [List.drop_eq_nil_iff, counted]
  have lists := stepped.sound.pair.soundSource.lists
  rw [stepped.left] at lists
  refine ⟨outcome, answered, ?_⟩
  constructor
  · rw [stepped.moved, counted]
  · exact stepped.alike
  · exact stepped.sound.pair.soundDestination
  · rw [ne_eq, gone, Nat.not_le]
    exact fun more => (stepped.running more).1
  · exact stepped.sound.pair.soundSource
  · exact lists
  · rw [gone]
    constructor
    · rintro ⟨bare, _⟩
      apply Nat.le_of_not_lt
      intro more
      have allocated := rehash.isActive_iff.1 active
      rw [← (stepped.running more).1.capacity, bare] at allocated
      exact absurd allocated (Nat.lt_irrefl 0)
    · intro enough
      rw [stepped.finished active enough]
      exact ⟨rfl, rfl⟩
  · exact stepped.rewires

/-- This rehash is in the middle of an episode from four slots into two. -/
def halving : Rehash Nat := ⟨.two, .four, 1⟩

/-- Nothing is left in the first of the four slots. -/
theorem sound_halving : halving.Sound IndexedArena.five Layout.two Layout.four where
  pair := .four_two
  cleared := by decide
  together := by decide

/-- Three of the four payloads go over, and the last one stays behind. -/
theorem Sound.takes_portion_halving :
    halving.Sound IndexedArena.five Layout.two Layout.four ∧ halving.isActive = true ∧
      ∃ outcome, halving.step IndexedArena.five 3 = .ok outcome ∧
        halving.TakesPortion IndexedArena.five Layout.two Layout.four 3 outcome ∧
        outcome.result = 3 ∧ outcome.state.older.Lists outcome.store [3] := by
  obtain ⟨outcome, answered, portion⟩ := sound_halving.takes_portion rfl 3
  exact ⟨sound_halving, rfl, outcome, answered, portion, portion.moved, portion.lists⟩

end Rehash

end IncrementalMap
