/-
This file makes an array of nodes an arena, with positions as ids.
-/

import IncrementalMap.Arena.Basic

namespace IncrementalMap

/-- An indexed arena names each payload by its position. -/
abbrev IndexedArena (Content : Type) := Array (Node Nat Content)

namespace IndexedArena

instance {Content : Type} : Arena (IndexedArena Content) Nat Content where
  node? store id := store[id]?
  relink store id next := store.modify id fun node => node.withNext next
  size store := store.size

instance {Content : Type} : LawfulArena (IndexedArena Content) where
  node?_relink_self store id next := by
    simp [Arena.node?, Arena.relink, Array.getElem?_modify]
  node?_relink_other store id other next differ := by
    simp [Arena.node?, Arena.relink, Array.getElem?_modify, Ne.symm differ]
  size_relink store id next := by simp [Arena.size, Arena.relink]
  length_le_size store ids distinct present :=
    length_le_of_nodup_of_lt distinct fun id member => by
      simpa [Arena.node?, Arena.size] using present id member

/-- A new payload goes to the end. -/
def add {Content : Type} (store : IndexedArena Content) (node : Node Nat Content) :
    IndexedArena Content :=
  store.push node

/-- A cut keeps the first payloads. -/
def truncate {Content : Type} (store : IndexedArena Content) (kept : Nat) :
    IndexedArena Content :=
  store.take kept

end IndexedArena

end IncrementalMap
