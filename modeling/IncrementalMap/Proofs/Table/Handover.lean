/-
This file proves that a transfer empties one table into the other, in order and in full.
-/

import IncrementalMap.Arena.Indexed
import IncrementalMap.Proofs.Table.Chains
import IncrementalMap.Proofs.Table.Transfer

namespace IncrementalMap

namespace Table

variable {Store Id Content : Type} [Arena Store Id Content]

/-- A sound table without a payload has nothing but empty slots. -/
theorem Sound.eq_of_blank {table : Table Id} {store : Store}
    (sound : table.Sound store Layout.blank) :
    table = ⟨Array.replicate table.capacity none, table.mask, 0⟩ := by
  have count : table.count = 0 := by
    rw [sound.counted, Layout.ids_blank, List.length_nil]
  have slots : table.slots = Array.replicate table.capacity none := by
    apply Array.ext
    · simp [capacity]
    · intro slot inRange _
      have empty : table.head? slot = none := (sound.chains slot).head_eq
      rw [Array.getElem_replicate]
      simpa [head?, inRange] using empty
  rw [← slots, ← count]

/-- A table hands its payloads over when it keeps its slots and nothing in them, and the other table
counts the payloads of both. Each slot of the other table gets the payloads that are at home there,
the last one first, in front of those that it had, and no other link changes. -/
structure HandsOver (source destination : Table Id) (store : Store) (leaving arriving : Layout Id)
    (emptied filled : Table Id) (linked : Store) : Prop where
  emptied : emptied = ⟨Array.replicate source.capacity none, source.mask, 0⟩
  alike : destination.Alike filled
  count : filled.count = source.count + destination.count
  chains : ∀ slot, Chain linked (filled.head? slot)
    (((leaving.ids source.capacity).filter fun id => destination.home store id = slot).reverse ++
      arriving slot)
  rewires : Arena.Rewires {id | id ∈ leaving.ids source.capacity} store linked

/-- A transfer into an allocated table always ends, and it hands all payloads over. -/
theorem SoundPair.hands_over [LawfulArena Store] {source destination : Table Id} {store : Store}
    {leaving arriving : Layout Id} (pair : SoundPair source destination store leaving arriving)
    (allocated : destination.isAllocated = true) :
    ∃ emptied filled linked,
      source.transfer destination store = .ok (emptied, filled, linked) ∧
      source.HandsOver destination store leaving arriving emptied filled linked := by
  obtain ⟨emptied, filled, linked, transferred, done, alikeEmptied, alikeFilled, rewires⟩ :=
    pair.transfer (destination.isAllocated_iff.1 allocated)
  have bare := done.soundSource.eq_of_blank
  rw [alikeEmptied.capacity, alikeEmptied.mask] at bare
  have none : emptied.count = 0 := congrArg Table.count bare
  have total := (Pours.of_transfer transferred).counts.2.2
  rw [none, Nat.zero_add] at total
  exact ⟨emptied, filled, linked, transferred, bare, alikeFilled, total,
    done.soundDestination.chains, rewires⟩

end Table

/-- The hash codes of this arena collide in tables of two or four slots. -/
def IndexedArena.five : IndexedArena Char :=
  #[⟨.detached 1, 'a'⟩, ⟨⟨5, some 0⟩, 'b'⟩, ⟨⟨9, some 1⟩, 'c'⟩, ⟨.detached 2, 'd'⟩,
    ⟨.detached 6, 'e'⟩]

/-- Among four slots one has three payloads and one has a single one. -/
def Layout.four : Layout Nat
  | 1 => [2, 1, 0]
  | 2 => [3]
  | _ => []

/-- Among two slots one has a single payload. -/
def Layout.two : Layout Nat
  | 0 => [4]
  | _ => []

namespace Table

/-- This table shows the layout of four slots. -/
def four : Table Nat := ⟨#[none, some 2, some 3, none], 3, 4⟩

/-- This table shows the layout of two slots. -/
def two : Table Nat := ⟨#[some 4, none], 1, 1⟩

namespace SoundPair

/-- The two tables share the payloads of the arena out among them. -/
theorem four_two : SoundPair four two IndexedArena.five Layout.four Layout.two where
  soundSource := {
    shaped := .inr ⟨by decide, rfl⟩
    chains := fun
      | 0 => .nil
      | 1 => .cons rfl (.cons rfl (.cons rfl .nil))
      | 2 => .cons rfl .nil
      | 3 => .nil
      | slot + 4 => .nil
    homes := fun
      | 0 => by decide
      | 1 => by decide
      | 2 => by decide
      | 3 => by decide
      | slot + 4 => by simp [Layout.four]
    counted := rfl }
  soundDestination := {
    shaped := .inr ⟨by decide, rfl⟩
    chains := fun
      | 0 => .cons rfl .nil
      | 1 => .nil
      | slot + 2 => .nil
    homes := fun
      | 0 => by decide
      | 1 => by decide
      | slot + 2 => by simp [Layout.two]
    counted := rfl }
  apart := by decide

/-- The payloads of four slots go over into two, where one payload is at home already. -/
theorem hands_over_halved :
    SoundPair four two IndexedArena.five Layout.four Layout.two ∧ two.isAllocated = true ∧
      ∃ emptied filled linked,
        four.transfer two IndexedArena.five = .ok (emptied, filled, linked) ∧
        four.HandsOver two IndexedArena.five Layout.four Layout.two emptied filled linked ∧
        filled.count = 5 ∧ Chain linked (filled.head? 0) [3, 4] ∧
        Chain linked (filled.head? 1) [0, 1, 2] := by
  obtain ⟨emptied, filled, linked, transferred, handed⟩ := four_two.hands_over rfl
  have first : ((Layout.four.ids four.capacity).filter fun id =>
      two.home IndexedArena.five id = 0).reverse ++ Layout.two 0 = [3, 4] := by decide
  have second : ((Layout.four.ids four.capacity).filter fun id =>
      two.home IndexedArena.five id = 1).reverse ++ Layout.two 1 = [0, 1, 2] := by decide
  exact ⟨four_two, rfl, emptied, filled, linked, transferred, handed, handed.count,
    first ▸ handed.chains 0, second ▸ handed.chains 1⟩

end SoundPair

end Table

end IncrementalMap
