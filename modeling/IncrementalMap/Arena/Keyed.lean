/-
This file holds an arena whose payloads keep their numbers while others leave.
-/

import IncrementalMap.Arena.Basic

namespace IncrementalMap

/-- A keyed arena numbers its payloads in order of creation and never uses a number again. -/
structure KeyedArena (Content : Type) where
  places : Array (Option (Node Nat Content))
  deriving DecidableEq

namespace KeyedArena

instance {Content : Type} : Arena (KeyedArena Content) Nat Content where
  node? store id := store.places[id]?.join
  relink store id next :=
    ⟨store.places.modify id fun place => place.map fun node => node.withNext next⟩
  size store := store.places.size

instance {Content : Type} : LawfulArena (KeyedArena Content) where
  node?_relink_self store id next := by
    simp only [Arena.node?, Arena.relink, Array.getElem?_modify]
    cases store.places[id]? <;> simp
  node?_relink_other store id other next differ := by
    simp [Arena.node?, Arena.relink, Array.getElem?_modify, Ne.symm differ]
  size_relink store id next := by simp [Arena.size, Arena.relink]
  length_le_size store ids distinct present :=
    length_le_of_nodup_of_lt distinct fun id member => by
      have held := present id member
      apply Decidable.byContradiction
      intro outside
      simp [Arena.node?, Array.getElem?_eq_none (Nat.le_of_not_lt outside)] at held

/-- An empty arena has given out no number. -/
def empty {Content : Type} : KeyedArena Content := ⟨#[]⟩

/-- A new payload takes the next number. -/
def add {Content : Type} (store : KeyedArena Content) (node : Node Nat Content) :
    KeyedArena Content :=
  ⟨store.places.push (some node)⟩

/-- A removed payload leaves its place empty. -/
def erase {Content : Type} (store : KeyedArena Content) (id : Nat) : KeyedArena Content :=
  ⟨store.places.setIfInBounds id none⟩

end KeyedArena

end IncrementalMap
