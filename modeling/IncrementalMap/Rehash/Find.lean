/-
This file finds and removes payloads while they are spread over two tables.
-/

import IncrementalMap.Rehash.Basic
import IncrementalMap.Table.Lookup

namespace IncrementalMap

/-- A side names one of the two tables of a rehash. -/
inductive Side where
  | newer
  | older
  deriving DecidableEq

namespace Rehash

/-- The side selects its table. -/
def table {Id : Type} (rehash : Rehash Id) : Side → Table Id
  | .newer => rehash.newer
  | .older => rehash.older

/-- The newer table is searched first, and the matcher keeps its memory for the older one. -/
def find {Store Id Content Memory : Type} [Arena Store Id Content] (rehash : Rehash Id)
    (store : Store) (hash : UInt64) (matcher : Matcher Content Memory) (memory : Memory) :
    Except (Fault Id) (Option (Side × Position Id) × Memory) := do
  match ← rehash.newer.lookup store hash matcher memory with
  | (some position, memory) => pure (some (.newer, position), memory)
  | (none, memory) =>
      let (position, memory) ← rehash.older.lookup store hash matcher memory
      pure (position.map fun position => (.older, position), memory)

/-- The payload leaves the table of its side. -/
def detach {Store Id Content : Type} [Arena Store Id Content] :
    Rehash Id → Store → Side → Position Id → Except (Fault Id) (Option Id × Rehash Id × Store)
  | ⟨newer, older, cursor⟩, store, .newer, position => do
      let (id, newer, store) ← newer.detach store position
      pure (id, ⟨newer, older, cursor⟩, store)
  | ⟨newer, older, cursor⟩, store, .older, position => do
      let (id, older, store) ← older.detach store position
      pure (id, ⟨newer, older, cursor⟩, store)

end Rehash

end IncrementalMap
