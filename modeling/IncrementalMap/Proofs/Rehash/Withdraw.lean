/-
This file proves what is left of two tables when one payload is withdrawn from them.
-/

import IncrementalMap.Proofs.Rehash.Gauge
import IncrementalMap.Proofs.Table.Chains

namespace IncrementalMap.Rehash

variable {Store Id Content : Type} [Arena Store Id Content]

/-- A payload is withdrawn when it is cut out of the chain of its side. The last payload of the older
table takes the episode along. -/
inductive Withdraws (rehash : Rehash Id) (store : Store) (newer older : Layout Id) (id : Id) :
    Side → Rehash Id → Store → List Event → Prop where
  | newer {slot : Nat} {front rest : List Id} {cut : Rehash Id} {unlinked : Store}
      (splits : newer slot = front ++ id :: rest)
      (answered : rehash.detach store .newer (.following slot front) = .ok (some id, cut, unlinked))
      (detached : rehash.Detached store newer older .newer front id cut unlinked
        (Function.update newer slot (front ++ rest)) older) :
      Withdraws rehash store newer older id .newer cut unlinked []
  | older {slot : Nat} {front rest : List Id} {cut : Rehash Id} {unlinked : Store}
      (splits : older slot = front ++ id :: rest)
      (answered : rehash.detach store .older (.following slot front) = .ok (some id, cut, unlinked))
      (detached : rehash.Detached store newer older .older front id cut unlinked newer
        (Function.update older slot (front ++ rest))) :
      Withdraws rehash store newer older id .older cut.release.1 unlinked cut.release.2

/-- These are the payloads before which a chain shows a payload. -/
def Leads (store : Store) (id before : Id) : Prop :=
  (Arena.node? store before).map (fun node => node.link.next) = some (some id)

/-- The last payload of the front of a chain leads to the next one. -/
theorem leads_of_chain {store : Store} {head : Option Id} {front rest : List Id} {id before : Id}
    (chain : Chain store head (front ++ id :: rest)) (last : front.getLast? = some before) :
    Leads store id before := by
  obtain ⟨front, rfl⟩ := List.getLast?_eq_some_iff.1 last
  rw [List.append_assoc, List.singleton_append] at chain
  obtain ⟨node, found, tail⟩ := chain.node
  have next : node.link.next = some id := by
    cases chained : node.link.next <;> rw [chained] at tail <;> cases tail
    rfl
  rw [Leads, found, Option.map_some, next]

namespace Withdraws

variable {rehash after : Rehash Id} {store unlinked : Store} {newer older : Layout Id} {id : Id}
  {side : Side} {released : List Event}

/-- A withdrawal leaves a sound rehash with the other payloads. -/
theorem sound (withdraws : rehash.Withdraws store newer older id side after unlinked released) :
    ∃ newerAfter olderAfter, after.Sound unlinked newerAfter olderAfter ∧
      (rehash.ids newer older).Perm (id :: after.ids newerAfter olderAfter) := by
  cases withdraws with
  | newer splits answered detached => exact ⟨_, _, detached.sound, detached.ids⟩
  | older splits answered detached =>
      obtain ⟨emptied, soundRest, sameOlder, sameNewer⟩ := detached.sound.release
      have ids := detached.ids
      rw [Rehash.ids, Rehash.ids, ← sameOlder, ← sameNewer] at ids
      exact ⟨_, emptied, soundRest, ids⟩

/-- The other payloads of both tables keep their order. -/
theorem ordered [DecidableEq Id]
    (withdraws : rehash.Withdraws store newer older id side after unlinked released)
    (sound : rehash.Sound store newer older) :
    ∃ newerAfter olderAfter, after.Sound unlinked newerAfter olderAfter ∧
      newerAfter.ids after.newer.capacity = (newer.ids rehash.newer.capacity).erase id ∧
      olderAfter.ids after.older.capacity = (older.ids rehash.older.capacity).erase id := by
  cases withdraws with
  | newer splits answered detached =>
      have leads := sound.pair.soundDestination.lt_of_mem (Layout.mem_of_splits splits)
      have member := sound.pair.soundDestination.mem_ids_of_mem (Layout.mem_of_splits splits)
      have absent : id ∉ older.ids rehash.older.capacity := fun again =>
        sound.pair.apart id again member
      refine ⟨_, older, detached.sound, ?_, ?_⟩
      · rw [detached.alikeNewer.capacity]
        exact Layout.ids_erase leads sound.pair.soundDestination.nodup splits
      · rw [detached.alikeOlder.capacity, List.erase_of_not_mem absent]
  | older splits answered detached =>
      have leads := sound.pair.soundSource.lt_of_mem (Layout.mem_of_splits splits)
      have member := sound.pair.soundSource.mem_ids_of_mem (Layout.mem_of_splits splits)
      have absent : id ∉ newer.ids rehash.newer.capacity := fun again =>
        sound.pair.apart id member again
      obtain ⟨emptied, soundRest, sameOlder, sameNewer⟩ := detached.sound.release
      refine ⟨newer, emptied, soundRest, ?_, ?_⟩
      · rw [sameNewer, detached.alikeNewer.capacity, List.erase_of_not_mem absent]
      · rw [sameOlder, detached.alikeOlder.capacity]
        exact Layout.ids_erase leads sound.pair.soundSource.nodup splits

/-- A withdrawal writes the payload and the one that leads to it. -/
theorem rewires (withdraws : rehash.Withdraws store newer older id side after unlinked released)
    (sound : rehash.Sound store newer older) :
    ∃ before : Option Id, Arena.Rewires {moved | moved = id ∨ before = some moved} store unlinked ∧
      ∀ last, before = some last → Leads store id last ∧ last ∈ rehash.ids newer older := by
  cases withdraws with
  | @newer slot front rest cut _ splits answered detached =>
      refine ⟨front.getLast?, detached.rewires, ?_⟩
      intro last touched
      have listed : last ∈ front ++ id :: rest := Table.mem_of_touched (.inr touched)
      rw [← splits] at listed
      exact ⟨leads_of_chain (splits ▸ sound.pair.soundDestination.chains slot) touched,
        List.mem_append_left _ (sound.pair.soundDestination.mem_ids_of_mem listed)⟩
  | @older slot front rest cut _ splits answered detached =>
      refine ⟨front.getLast?, detached.rewires, ?_⟩
      intro last touched
      have listed : last ∈ front ++ id :: rest := Table.mem_of_touched (.inr touched)
      rw [← splits] at listed
      exact ⟨leads_of_chain (splits ▸ sound.pair.soundSource.chains slot) touched,
        List.mem_append_right _ (sound.pair.soundSource.mem_ids_of_mem listed)⟩

/-- A withdrawn payload has no successor. -/
theorem detached (withdraws : rehash.Withdraws store newer older id side after unlinked released) :
    (Arena.node? unlinked id).map (fun node => node.link.next) = some none := by
  cases withdraws with
  | newer splits answered detached => exact detached.unlinked
  | older splits answered detached => exact detached.unlinked

/-- A withdrawal keeps a rehash settled. -/
theorem settled (withdraws : rehash.Withdraws store newer older id side after unlinked released)
    (sound : rehash.Sound store newer older) (settled : rehash.Settled) : after.Settled := by
  cases withdraws with
  | newer splits answered detached => exact detached.settled settled
  | older splits answered detached =>
      have allocated := Nat.zero_lt_of_lt (sound.pair.soundSource.lt_of_mem
        (Layout.mem_of_splits splits))
      apply settled_release
      intro inactive
      rw [isActive_eq_false_iff, detached.alikeOlder.capacity] at inactive
      omega

/-- A withdrawal moves the gauge of its side. -/
theorem gauge (withdraws : rehash.Withdraws store newer older id side after unlinked released)
    (sound : rehash.Sound store newer older) :
    0 < rehash.gauge.count side ∧ after.gauge = rehash.gauge.detach side ∧
      released = rehash.gauge.releases (some side) := by
  cases withdraws with
  | newer splits answered detached =>
      obtain ⟨counted, moves⟩ := detached.gauge_newer sound
      exact ⟨counted, moves, rfl⟩
  | older splits answered detached =>
      have allocated := Nat.zero_lt_of_lt (sound.pair.soundSource.lt_of_mem
        (Layout.mem_of_splits splits))
      exact detached.gauge_older sound allocated

/-- The older table reaches a payload that is withdrawn from it, and no other. -/
theorem reaches_older_iff [LawfulArena Store]
    (withdraws : rehash.Withdraws store newer older id side after unlinked released)
    (sound : rehash.Sound store newer older) : rehash.older.Reaches store id ↔ side = .older := by
  rw [sound.pair.soundSource.reaches_iff]
  cases withdraws with
  | newer splits answered detached =>
      have member := sound.pair.soundDestination.mem_ids_of_mem (Layout.mem_of_splits splits)
      exact iff_of_false (fun again => sound.pair.apart id again member) nofun
  | older splits answered detached =>
      have member := sound.pair.soundSource.mem_ids_of_mem (Layout.mem_of_splits splits)
      exact iff_of_true member rfl

/-- A withdrawal leaves the slots and the cursor of an episode that goes on. -/
theorem running (withdraws : rehash.Withdraws store newer older id side after unlinked released)
    (still : after.isActive = true) :
    rehash.newer.Alike after.newer ∧ rehash.older.Alike after.older ∧
      after.cursor = rehash.cursor := by
  cases withdraws with
  | newer splits answered detached =>
      exact ⟨detached.alikeNewer, detached.alikeOlder, detached.cursor⟩
  | @older slot front rest cut _ splits answered detached =>
      have kept : cut.release.1 = cut := by
        rw [release] at still ⊢
        split <;> rename_i ended
        · rw [if_pos ended, isActive_idle] at still
          cases still
        · rfl
      rw [kept]
      exact ⟨detached.alikeNewer, detached.alikeOlder, detached.cursor⟩

end Withdraws

/-- A payload that a search has found can be withdrawn. -/
theorem Sound.withdraw [LawfulArena Store] {rehash : Rehash Id} {store : Store}
    {newer older : Layout Id} (sound : rehash.Sound store newer older) {side : Side} {slot : Nat}
    {front rest : List Id} {id : Id}
    (splits : side.layout newer older slot = front ++ id :: rest) :
    ∃ cut unlinked,
      rehash.detach store side (.following slot front) = .ok (some id, cut, unlinked) ∧
      match side with
      | .newer => rehash.Withdraws store newer older id .newer cut unlinked []
      | .older => rehash.Withdraws store newer older id .older cut.release.1 unlinked
          cut.release.2 := by
  cases side with
  | newer =>
      obtain ⟨cut, unlinked, answered, detached⟩ := sound.detach_newer splits
      exact ⟨cut, unlinked, answered, .newer splits answered detached⟩
  | older =>
      obtain ⟨cut, unlinked, answered, detached⟩ := sound.detach_older splits
      exact ⟨cut, unlinked, answered, .older splits answered detached⟩

end IncrementalMap.Rehash
