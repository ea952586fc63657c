/-
This file proves that a table behaves like an array of lists.
-/

import IncrementalMap.Arena.Indexed
import IncrementalMap.Proofs.Table.Search
import IncrementalMap.Proofs.Table.Update

namespace IncrementalMap

variable {Store Id Content : Type} [Arena Store Id Content]

/-- A payload fits a search when it has the wanted hash code and an accepted content. -/
def Arena.fits (store : Store) (hash : UInt64) (accepts : Content → Bool) (id : Id) : Bool :=
  match Arena.node? store id with
  | some node => decide (node.link.hash = hash) && accepts node.content
  | none => false

/-- A predicate chooses the first payload that fits, and it never minds its memory. -/
theorem Matcher.choose_ofPredicate {Memory : Type} (store : Store) (hash : UInt64)
    (accepts : Content → Bool) {ids : List Id}
    (present : ∀ id ∈ ids, (Arena.node? store id).isSome) (memory : Memory) :
    (Matcher.ofPredicate accepts).choose (Arena.candidates store hash ids) memory =
      (ids.find? (Arena.fits store hash accepts), memory) := by
  induction ids with
  | nil => rfl
  | cons id rest inductionHypothesis =>
      obtain ⟨node, found⟩ := Option.isSome_iff_exists.1 (present id List.mem_cons_self)
      have later := inductionHypothesis fun other member =>
        present other (List.mem_cons_of_mem _ member)
      rw [Arena.candidates_cons found]
      by_cases code : node.link.hash = hash
      · cases accepted : accepts node.content <;>
          simp [Matcher.choose, Matcher.ofPredicate, Arena.fits, found, code, accepted, ← later]
      · simp [Arena.fits, found, code, later]

namespace Table

/-- A table that loses a payload keeps the rest of its lists and counts one payload less. The
payload has no successor left, and no link changes but its own and the one before it. -/
structure Loses (table : Table Id) (store : Store) (layout : Layout Id) (slot : Nat)
    (front : List Id) (id : Id) (rest : List Id) (cut : Table Id) (unlinked : Store) : Prop where
  sound : cut.Sound unlinked (Function.update layout slot (front ++ rest))
  alike : table.Alike cut
  count : cut.count + 1 = table.count
  emptied : (Arena.link? unlinked id).map Link.next = some none
  rewires : Arena.Rewires {moved | moved = id ∨ front.getLast? = some moved} store unlinked

/-- A position that divides a list points at the first payload behind it. A detachment there takes
this payload out of the list, and changes nothing when there is none. -/
structure Divides (table : Table Id) (store : Store) (layout : Layout Id) (position : Position Id)
    (slot : Nat) (front rest : List Id) : Prop where
  splits : layout slot = front ++ rest
  target : table.target store position = .ok rest.head?
  last : rest = [] → table.detach store position = .ok (none, table, store)
  detach : ∀ id left, rest = id :: left → ∃ cut unlinked,
    table.detach store position = .ok (some id, cut, unlinked) ∧
      table.Loses store layout slot front id left cut unlinked

/-- A table refines an array of lists when its operations do to the lists what they are named for:
an insertion puts a payload in front, a lookup finds the first payload that fits, and a position
divides the list of its slot before the first payload or behind its own. -/
structure RefinesLists (table : Table Id) (store : Store) (layout : Layout Id) : Prop where
  insert : ∀ id node, Arena.node? store id = some node → id ∉ layout.ids table.capacity →
    ∃ grown linked, table.insert store id = .ok (grown, linked) ∧
      grown.Sound linked (layout.push (table.slotFor node.link.hash) id) ∧ table.Alike grown ∧
      grown.count = table.count + 1 ∧ Arena.Rewires {id} store linked
  lookup : ∀ {Memory : Type} (hash : UInt64) (accepts : Content → Bool) (memory : Memory),
    match (layout (table.slotFor hash)).find? (Arena.fits store hash accepts) with
    | none => table.lookup store hash (.ofPredicate accepts) memory = .ok (none, memory)
    | some id => ∃ position front rest,
        table.lookup store hash (.ofPredicate accepts) memory = .ok (some position, memory) ∧
          table.Divides store layout position (table.slotFor hash) front (id :: rest)
  heads : ∀ slot, table.Divides store layout (.head slot) slot [] (layout slot)
  followers : ∀ slot front id rest, layout slot = front ++ id :: rest →
    table.Divides store layout (.after id) slot (front ++ [id]) rest

namespace Sound

variable [LawfulArena Store] {table : Table Id} {store : Store} {layout : Layout Id}

/-- The place behind a part of a list divides the list there. -/
theorem divides (sound : table.Sound store layout) {slot : Nat} {front rest : List Id}
    (splits : layout slot = front ++ rest) :
    table.Divides store layout (.following slot front) slot front rest where
  splits := splits
  target := target_following (splits ▸ sound.chains slot)
  last := by
    rintro rfl
    rw [List.append_nil] at splits
    rw [← splits]
    exact sound.detach_end slot
  detach id left := by
    rintro rfl
    obtain ⟨cut, unlinked, detached, soundCut, alike, rewires, emptied⟩ := sound.detach splits
    have counted : cut.count + 1 = table.count := by
      rcases detach_cases detached with ⟨none, _, _⟩ | ⟨_, _, _, counted⟩
      · exact nomatch none
      · exact counted
    refine ⟨cut, unlinked, detached, soundCut, alike, counted, ?_, rewires⟩
    rw [Arena.link?, Option.map_map]
    exact emptied

/-- A lookup by a predicate finds the place right before the first payload that fits. -/
theorem lookup_ofPredicate {Memory : Type} (sound : table.Sound store layout) (hash : UInt64)
    (accepts : Content → Bool) (memory : Memory) :
    ∃ place, table.lookup store hash (.ofPredicate accepts) memory = .ok (place, memory) ∧
      Position.Finds (table.slotFor hash) (layout (table.slotFor hash))
        ((layout (table.slotFor hash)).find? (Arena.fits store hash accepts)) place := by
  have chosen := Matcher.choose_ofPredicate store hash accepts
    (sound.chains (table.slotFor hash)).present memory
  have found := sound.lookup hash (.ofPredicate accepts) memory
  rwa [chosen] at found

/-- An allocated table whose chains are in order refines the array of the lists that they carry:
each of its operations has an answer and does what its name says to one list, and every other list
stays as it was. -/
theorem refines_lists (sound : table.Sound store layout) (allocated : table.isAllocated = true) :
    table.RefinesLists store layout where
  insert id node found fresh := by
    have present : (Arena.node? store id).isSome := by simp [found]
    obtain ⟨grown, linked, inserted, soundGrown, alike, rewires⟩ :=
      sound.insert (table.isAllocated_iff.1 allocated) present fresh
    rw [table.home_of_node? found] at soundGrown
    exact ⟨grown, linked, inserted, soundGrown, alike, (alike_of_insert inserted).2, rewires⟩
  lookup hash accepts memory := by
    obtain ⟨place, looked, finds⟩ := sound.lookup_ofPredicate hash accepts memory
    cases first : (layout (table.slotFor hash)).find? (Arena.fits store hash accepts) with
    | none =>
        rw [first] at finds
        exact finds ▸ looked
    | some id =>
        rw [first] at finds
        obtain ⟨front, rest, splits, rfl⟩ := finds
        exact ⟨_, front, rest, looked, sound.divides splits⟩
  heads slot := by
    have whole : layout slot = [] ++ layout slot := rfl
    have divides := sound.divides whole
    rwa [Position.following_nil] at divides
  followers slot front id rest splits := by
    have behind : layout slot = (front ++ [id]) ++ rest := by simp [splits]
    have divides := sound.divides behind
    rwa [Position.following_concat] at divides

/-- Three payloads with different hash codes share the second slot of this table. -/
theorem refines_lists_collided :
    let store : IndexedArena Char := #[⟨.detached 1, 'a'⟩, ⟨⟨5, some 0⟩, 'b'⟩, ⟨⟨9, some 1⟩, 'c'⟩,
      ⟨.detached 2, 'd'⟩, ⟨.detached 5, 'e'⟩]
    let table : Table Nat := ⟨#[none, some 2, some 3, none], 3, 4⟩
    let layout : Layout Nat
      | 1 => [2, 1, 0]
      | 2 => [3]
      | _ => []
    table.Sound store layout ∧ table.isAllocated = true ∧ table.RefinesLists store layout := by
  intro store table layout
  have sound : table.Sound store layout := {
    shaped := .inr ⟨by decide, rfl⟩
    chains := fun
      | 0 => .nil
      | 1 => .cons rfl (.cons rfl (.cons rfl .nil))
      | 2 => .cons rfl .nil
      | 3 => .nil
      | slot + 4 => .nil
    homes := fun
      | 0 => by decide
      | 1 => by decide
      | 2 => by decide
      | 3 => by decide
      | slot + 4 => by simp [layout]
    counted := rfl }
  exact ⟨sound, rfl, sound.refines_lists rfl⟩

end Sound

end Table

end IncrementalMap
