/-
This file proves that a search and a detachment see the two tables as one.
-/

import IncrementalMap.Proofs.Answer
import IncrementalMap.Proofs.Rehash.Step
import IncrementalMap.Proofs.Table.Asked
import IncrementalMap.Rehash.Find

namespace IncrementalMap

/-- The side selects one of two layouts. -/
def Side.layout {Id : Type} (side : Side) (newer older : Layout Id) : Layout Id :=
  match side with
  | .newer => newer
  | .older => older

namespace Rehash

/-- These are the payloads that a search for a hash code meets, in this order. -/
def reach {Store Id Content : Type} [Arena Store Id Content] (rehash : Rehash Id) (store : Store)
    (newer older : Layout Id) (hash : UInt64) : List (Id × Content) :=
  Arena.candidates store hash
    (newer (rehash.newer.slotFor hash) ++ older (rehash.older.slotFor hash))

/-- A place finds a payload when it is the position right before it in the chain of its side. -/
def Finds {Id : Type} (rehash : Rehash Id) (newer older : Layout Id) (hash : UInt64) :
    Option Id → Option (Side × Position Id) → Prop
  | none, place => place = none
  | some id, place => ∃ side front rest,
      Side.layout side newer older ((rehash.table side).slotFor hash) = front ++ id :: rest ∧
        place = some (side, .following ((rehash.table side).slotFor hash) front)

/-- A search asks about payloads of the older table when the newer one has nothing to give. -/
def asked {Store Id Content Memory : Type} [Arena Store Id Content] (rehash : Rehash Id)
    (store : Store) (hash : UInt64) (matcher : Matcher Content Memory) (memory : Memory) :
    List (Id × Content) :=
  rehash.newer.asked store hash matcher memory ++
    match rehash.newer.lookup store hash matcher memory with
    | .ok (none, left) => rehash.older.asked store hash matcher left
    | _ => []

/-- A payload of the newer table ends the search. -/
theorem find_of_some {Store Id Content Memory : Type} [Arena Store Id Content]
    {rehash : Rehash Id} {store : Store} {hash : UInt64} {matcher : Matcher Content Memory}
    {memory left : Memory} {position : Position Id}
    (first : rehash.newer.lookup store hash matcher memory = .ok (some position, left)) :
    rehash.find store hash matcher memory = .ok (some (.newer, position), left) := by
  unfold find
  rw [first, ok_bind]
  rfl

/-- The older table is searched when the newer one has nothing to give. -/
theorem find_of_none {Store Id Content Memory : Type} [Arena Store Id Content]
    {rehash : Rehash Id} {store : Store} {hash : UInt64} {matcher : Matcher Content Memory}
    {memory between left : Memory} {place : Option (Position Id)}
    (first : rehash.newer.lookup store hash matcher memory = .ok (none, between))
    (second : rehash.older.lookup store hash matcher between = .ok (place, left)) :
    rehash.find store hash matcher memory =
      .ok (place.map fun position => (.older, position), left) := by
  unfold find
  rw [first, ok_bind]
  dsimp only
  rw [second, ok_bind]
  rfl

namespace Sound

/-- The reach of a hash code holds exactly the payloads of both tables that have it. -/
theorem mem_reach {Store Id Content : Type} [Arena Store Id Content] {rehash : Rehash Id}
    {store : Store} {newer older : Layout Id} (sound : rehash.Sound store newer older)
    {hash : UInt64} {id : Id} {content : Content} :
    (id, content) ∈ rehash.reach store newer older hash ↔ id ∈ rehash.ids newer older ∧
      ∃ node, Arena.node? store id = some node ∧ node.link.hash = hash ∧
        node.content = content := by
  rw [reach, Arena.mem_candidates, ids, List.mem_append, List.mem_append]
  apply and_congr_left
  rintro ⟨node, found, code, _⟩
  rw [sound.pair.soundDestination.mem_ids, sound.pair.soundSource.mem_ids,
    Table.home_of_node? _ found, Table.home_of_node? _ found, code]

/-- A search chooses among the payloads that it meets. -/
theorem find {Store Id Content Memory : Type} [Arena Store Id Content] [LawfulArena Store]
    {rehash : Rehash Id} {store : Store} {newer older : Layout Id}
    (sound : rehash.Sound store newer older) (hash : UInt64) (matcher : Matcher Content Memory)
    (memory : Memory) :
    ∃ place, rehash.find store hash matcher memory =
        .ok (place, (matcher.choose (rehash.reach store newer older hash) memory).2) ∧
      rehash.Finds newer older hash
        (matcher.choose (rehash.reach store newer older hash) memory).1 place := by
  obtain ⟨first, searched, finds⟩ := sound.pair.soundDestination.lookup hash matcher memory
  rw [reach, Arena.candidates_append, Matcher.choose_append]
  rcases chosen : matcher.choose (Arena.candidates store hash
    (newer (rehash.newer.slotFor hash))) memory with ⟨_ | id, left⟩
  · rw [chosen] at searched finds
    obtain ⟨second, searchedOlder, findsOlder⟩ := sound.pair.soundSource.lookup hash matcher left
    obtain rfl : first = none := finds
    rw [find_of_none searched searchedOlder]
    dsimp only
    rcases chosenOlder : matcher.choose (Arena.candidates store hash
      (older (rehash.older.slotFor hash))) left with ⟨_ | id, last⟩
    · rw [chosenOlder] at findsOlder
      obtain rfl : second = none := findsOlder
      exact ⟨_, rfl, rfl⟩
    · rw [chosenOlder] at findsOlder
      obtain ⟨front, rest, splits, rfl⟩ := findsOlder
      exact ⟨_, rfl, .older, front, rest, splits, rfl⟩
  · rw [chosen] at searched finds
    obtain ⟨front, rest, splits, rfl⟩ := finds
    exact ⟨_, find_of_some searched, .newer, front, rest, splits, rfl⟩

/-- A search asks about the payloads of its reach. -/
theorem asked_eq {Store Id Content Memory : Type} [Arena Store Id Content] [LawfulArena Store]
    {rehash : Rehash Id} {store : Store} {newer older : Layout Id}
    (sound : rehash.Sound store newer older) (hash : UInt64) (matcher : Matcher Content Memory)
    (memory : Memory) : rehash.asked store hash matcher memory =
      matcher.asked (rehash.reach store newer older hash) memory := by
  obtain ⟨place, searched, finds⟩ := sound.pair.soundDestination.lookup hash matcher memory
  rw [asked, reach, Arena.candidates_append, Matcher.asked_append,
    sound.pair.soundDestination.asked_eq, searched]
  rcases chosen : matcher.choose (Arena.candidates store hash
    (newer (rehash.newer.slotFor hash))) memory with ⟨_ | id, left⟩
  · rw [chosen] at finds
    obtain rfl : place = none := finds
    exact congrArg _ (sound.pair.soundSource.asked_eq hash matcher left)
  · rw [chosen] at finds
    obtain ⟨front, rest, _, rfl⟩ := finds
    rfl

/-- The position that a search found points at the payload. -/
theorem target {Store Id Content : Type} [Arena Store Id Content] {rehash : Rehash Id}
    {store : Store} {newer older : Layout Id} (sound : rehash.Sound store newer older) {side : Side}
    {slot : Nat} {front rest : List Id} {id : Id}
    (splits : side.layout newer older slot = front ++ id :: rest) :
    (rehash.table side).target store (.following slot front) = .ok (some id) := by
  cases side with
  | newer =>
      have chain := sound.pair.soundDestination.chains slot
      rw [show newer slot = front ++ id :: rest from splits] at chain
      exact Table.target_following chain
  | older =>
      have chain := sound.pair.soundSource.chains slot
      rw [show older slot = front ++ id :: rest from splits] at chain
      exact Table.target_following chain

end Sound

/-- A matcher is only asked about payloads of the arena. -/
theorem present_of_asked {Store Id Content Memory : Type} [Arena Store Id Content]
    {rehash : Rehash Id} {store : Store} {hash : UInt64} {matcher : Matcher Content Memory}
    {memory : Memory} {candidate : Id × Content}
    (member : candidate ∈ rehash.asked store hash matcher memory) :
    (Arena.node? store candidate.1).isSome := by
  rcases List.mem_append.1 member with newest | oldest
  · exact Table.present_of_askedFrom newest
  · split at oldest
    · exact Table.present_of_askedFrom oldest
    · exact absurd oldest List.not_mem_nil

/-- A payload has been cut out of the chain of its side, and the other side is as before. -/
structure Detached {Store Id Content : Type} [Arena Store Id Content] (rehash : Rehash Id)
    (store : Store) (newer older : Layout Id) (side : Side) (front : List Id) (id : Id)
    (after : Rehash Id) (unlinked : Store) (newerAfter olderAfter : Layout Id) : Prop where
  sound : after.Sound unlinked newerAfter olderAfter
  ids : (rehash.ids newer older).Perm (id :: after.ids newerAfter olderAfter)
  alikeNewer : rehash.newer.Alike after.newer
  alikeOlder : rehash.older.Alike after.older
  cursor : after.cursor = rehash.cursor
  kept : ∀ other, other ≠ side → after.table other = rehash.table other
  rewires : Arena.Rewires {moved | moved = id ∨ front.getLast? = some moved} store unlinked
  unlinked : (Arena.node? unlinked id).map (fun node => node.link.next) = some none

namespace Sound

variable {Store Id Content : Type} [Arena Store Id Content] [LawfulArena Store] {rehash : Rehash Id}
  {store : Store} {newer older : Layout Id} {slot : Nat} {front rest : List Id} {id : Id}

/-- A detachment from the newer table cuts the payload out of one of its chains. -/
theorem detach_newer (sound : rehash.Sound store newer older)
    (splits : newer slot = front ++ id :: rest) :
    ∃ after unlinked,
      rehash.detach store .newer (.following slot front) = .ok (some id, after, unlinked) ∧
      rehash.Detached store newer older .newer front id after unlinked
        (Function.update newer slot (front ++ rest)) older := by
  obtain ⟨newerTable, olderTable, cursor⟩ := rehash
  obtain ⟨⟨soundOlder, soundNewer, apart⟩, cleared, together⟩ := sound
  have leads : id ∈ newer slot := by simp [splits]
  obtain ⟨cut, unlinked, detached, soundCut, alike, rewires, ended⟩ := soundNewer.detach splits
  have shrinks := Layout.ids_cut (soundNewer.lt_of_mem leads) splits
  have answered : Rehash.detach ⟨newerTable, olderTable, cursor⟩ store .newer
      (.following slot front) = .ok (some id, ⟨cut, olderTable, cursor⟩, unlinked) := by
    simp [Rehash.detach, detached, bind, Except.bind, pure, Except.pure]
  have soundLeft := soundOlder.rewire rewires fun other member moved =>
    apart other member (soundNewer.mem_ids_of_mem (splits ▸ Table.mem_of_touched moved))
  refine ⟨_, unlinked, answered, ⟨⟨soundLeft, soundCut, ?_⟩, cleared, ?_⟩, ?_, alike, .refl _, rfl,
    ?_, rewires, ended⟩
  · intro other member left
    rw [alike.capacity] at left
    exact apart other member (shrinks.mem_iff.2 (List.mem_cons_of_mem _ left))
  · simpa only [alike.capacity] using together
  · simpa [ids, alike.capacity] using shrinks.append_right _
  · intro other differ
    cases other with
    | newer => exact absurd rfl differ
    | older => rfl

/-- A detachment from the older table cuts the payload out of one of its chains, none of which lies
behind the cursor. -/
theorem detach_older (sound : rehash.Sound store newer older)
    (splits : older slot = front ++ id :: rest) :
    ∃ after unlinked,
      rehash.detach store .older (.following slot front) = .ok (some id, after, unlinked) ∧
      rehash.Detached store newer older .older front id after unlinked newer
        (Function.update older slot (front ++ rest)) := by
  obtain ⟨newerTable, olderTable, cursor⟩ := rehash
  obtain ⟨⟨soundOlder, soundNewer, apart⟩, cleared, together⟩ := sound
  have leads : id ∈ older slot := by simp [splits]
  obtain ⟨cut, unlinked, detached, soundCut, alike, rewires, ended⟩ := soundOlder.detach splits
  have shrinks := Layout.ids_cut (soundOlder.lt_of_mem leads) splits
  have answered : Rehash.detach ⟨newerTable, olderTable, cursor⟩ store .older
      (.following slot front) = .ok (some id, ⟨newerTable, cut, cursor⟩, unlinked) := by
    simp [Rehash.detach, detached, bind, Except.bind, pure, Except.pure]
  have soundKept := soundNewer.rewire rewires fun other member moved =>
    apart other (soundOlder.mem_ids_of_mem (splits ▸ Table.mem_of_touched moved)) member
  refine ⟨_, unlinked, answered, ⟨⟨soundCut, soundKept, ?_⟩, ?_, ?_⟩, ?_, .refl _, alike, rfl, ?_,
    rewires, ended⟩
  · intro other left
    rw [alike.capacity] at left
    exact apart other (shrinks.mem_iff.2 (List.mem_cons_of_mem _ left))
  · intro below passed
    have differ : below ≠ slot := by
      rintro rfl
      simp [cleared below passed] at splits
    rw [Function.update_of_ne differ]
    exact cleared below passed
  · simpa only [alike.capacity] using together
  · simpa [ids, alike.capacity] using (shrinks.append_left _).trans List.perm_middle
  · intro other differ
    cases other with
    | newer => rfl
    | older => exact absurd rfl differ

/-- A detachment from either side keeps a rehash sound. -/
theorem detach (sound : rehash.Sound store newer older) {side : Side}
    (splits : side.layout newer older slot = front ++ id :: rest) :
    ∃ after unlinked newerAfter olderAfter,
      rehash.detach store side (.following slot front) = .ok (some id, after, unlinked) ∧
      rehash.Detached store newer older side front id after unlinked newerAfter olderAfter := by
  cases side with
  | newer =>
      obtain ⟨after, unlinked, answered, detached⟩ := sound.detach_newer splits
      exact ⟨after, unlinked, _, _, answered, detached⟩
  | older =>
      obtain ⟨after, unlinked, answered, detached⟩ := sound.detach_older splits
      exact ⟨after, unlinked, _, _, answered, detached⟩

end Sound

end Rehash

end IncrementalMap
