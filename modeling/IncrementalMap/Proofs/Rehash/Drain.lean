/-
This file proves that draining or gathering two tables leaves all payloads in one of them.
-/

import IncrementalMap.Proofs.Rehash.Gauge

namespace IncrementalMap

namespace Table

/-- A table receives payloads when each of them comes to the front of its home, one after the
other. -/
structure Receives {Store Id Content : Type} [Arena Store Id Content] (table : Table Id)
    (store : Store) (layout : Layout Id) (arrivals : List Id) (full : Table Id) (final : Store) :
    Prop where
  sound : full.Sound final (layout.pour (table.home store) arrivals)
  alike : table.Alike full
  payloads : Arena.SamePayloads store final

namespace Receives

/-- Payloads that are received in two parts are received in a row. -/
theorem trans {Store Id Content : Type} [Arena Store Id Content] {table half full : Table Id}
    {store linked final : Store} {layout : Layout Id} {first second : List Id}
    (left : table.Receives store layout first half linked)
    (right : half.Receives linked (layout.pour (table.home store) first) second full final) :
    table.Receives store layout (first ++ second) full final := by
  have home : half.home linked = table.home store := funext (left.alike.home left.payloads)
  have sound := right.sound
  rw [home, ← Layout.pour_append] at sound
  exact ⟨sound, left.alike.trans right.alike, left.payloads.trans right.payloads⟩

/-- The payloads that are received join those that were there. -/
theorem ids {Store Id Content : Type} [Arena Store Id Content] {table full : Table Id}
    {store final : Store} {layout : Layout Id} {arrivals : List Id}
    (receives : table.Receives store layout arrivals full final)
    (inRange : ∀ id ∈ arrivals, table.home store id < table.capacity) :
    (Layout.ids (layout.pour (table.home store) arrivals) full.capacity).Perm
      (arrivals ++ layout.ids table.capacity) := by
  rw [receives.alike.capacity]
  exact layout.ids_pour inRange

/-- A table counts the payloads that it receives. -/
theorem count {Store Id Content : Type} [Arena Store Id Content] {table full : Table Id}
    {store final : Store} {layout : Layout Id} {arrivals : List Id}
    (receives : table.Receives store layout arrivals full final)
    (sound : table.Sound store layout) (allocated : 0 < table.capacity) :
    full.count = arrivals.length + table.count := by
  have listed := receives.ids fun id _ => home_lt sound.shaped allocated store id
  rw [receives.sound.counted, listed.length_eq, List.length_append, sound.counted]

end Receives

end Table

namespace Rehash

/-- The older table is transferred before the newer one, and the fresh table receives both. -/
theorem Sound.gather {Store Id Content : Type} [Arena Store Id Content] [LawfulArena Store]
    {rehash : Rehash Id} {store : Store} {newer older : Layout Id}
    (sound : rehash.Sound store newer older) {fresh : Table Id}
    (blank : fresh.Sound store Layout.blank) (allocated : 0 < fresh.capacity) :
    ∃ emptied half linked rest full final,
      rehash.older.transfer fresh store = .ok (emptied, half, linked) ∧
      rehash.newer.transfer half linked = .ok (rest, full, final) ∧
      fresh.Receives store Layout.blank
        (older.ids rehash.older.capacity ++ newer.ids rehash.newer.capacity) full final := by
  have apart : Table.SoundPair rehash.older fresh store older Layout.blank :=
    ⟨sound.pair.soundSource, blank, by simp⟩
  obtain ⟨emptied, half, linked, transferred, paired, _, alikeHalf, rewires⟩ :=
    apart.transfer allocated
  have received : fresh.Receives store Layout.blank (older.ids rehash.older.capacity) half linked :=
    ⟨paired.soundDestination, alikeHalf, rewires.payloads⟩
  have listed := received.ids fun id _ => Table.home_lt blank.shaped allocated store id
  rw [Layout.ids_blank, List.append_nil] at listed
  have remaining : Table.SoundPair rehash.newer half linked newer
      (Layout.blank.pour (fresh.home store) (older.ids rehash.older.capacity)) := by
    constructor
    · apply sound.pair.soundDestination.rewire rewires
      intro id member moved
      exact sound.pair.apart id moved member
    · exact paired.soundDestination
    · intro id member moved
      exact sound.pair.apart id (listed.mem_iff.1 moved) member
  obtain ⟨rest, full, final, finished, done, _, alikeFull, rewired⟩ :=
    remaining.transfer (alikeHalf.capacity ▸ allocated)
  exact ⟨emptied, half, linked, rest, full, final, transferred, finished,
    received.trans ⟨done.soundDestination, alikeFull, rewired.payloads⟩⟩

/-- Draining a map that a word can count ends the episode, and the newer table receives the payloads
of the older one. -/
theorem Sound.drain {Store Id Content : Type} [Arena Store Id Content] [LawfulArena Store]
    {rehash : Rehash Id} {store : Store} {newer older : Layout Id}
    (sound : rehash.Sound store newer older) (settled : rehash.Settled)
    (enough : rehash.older.count ≤ wordLimit) :
    ∃ outcome, rehash.drain store = .ok outcome ∧
      outcome.state = Rehash.idle outcome.state.newer ∧
      rehash.newer.Receives store newer (older.ids rehash.older.capacity) outcome.state.newer
        outcome.store ∧
      outcome.state.gauge = rehash.gauge.drain := by
  obtain ⟨outcome, drained, answered, stepped⟩ := sound.step wordLimit
  have ended : outcome.state = Rehash.idle outcome.state.newer := by
    cases active : rehash.isActive with
    | false =>
        rw [stepped.silent active]
        exact settled.resting active
    | true => exact stepped.finished active enough
  have all : (older.ids rehash.older.capacity).take wordLimit = older.ids rehash.older.capacity :=
    List.take_of_length_le (sound.pair.soundSource.counted ▸ enough)
  have full := stepped.sound.pair.soundDestination
  rw [all] at full
  have gauge : outcome.state.gauge = rehash.gauge.drain := by
    have few : rehash.gauge.older ≤ wordLimit := enough
    rw [stepped.gauge sound, Gauge.step, if_pos few]
    rfl
  exact ⟨outcome, answered, ended, ⟨full, stepped.alike, stepped.rewires.payloads⟩, gauge⟩

end Rehash

end IncrementalMap
