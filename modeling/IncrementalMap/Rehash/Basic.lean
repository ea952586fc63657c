/-
This file drains an older table into a newer one, a bounded number of payloads at a time.
-/

import IncrementalMap.Event
import IncrementalMap.Table.Basic

namespace IncrementalMap

/-- A rehash has a newer table, an older one that is being drained, and the slot it has reached. -/
structure Rehash (Id : Type) where
  newer : Table Id
  older : Table Id
  cursor : Nat
  deriving DecidableEq

/-- The progress of an episode tells where the cursor stands and what is left. -/
structure Progress where
  cursor : Nat
  olderCapacity : Nat
  remaining : Nat
  deriving DecidableEq

namespace Rehash

/-- No episode runs on a table of its own. -/
def idle {Id : Type} (newer : Table Id) : Rehash Id := ⟨newer, Table.unallocated, 0⟩

/-- An episode runs exactly while the older table is allocated. -/
def isActive {Id : Type} (rehash : Rehash Id) : Bool := rehash.older.isAllocated

/-- The payloads of both tables count. -/
def size {Id : Type} (rehash : Rehash Id) : Nat := rehash.newer.count + rehash.older.count

/-- There is progress to report only while an episode runs. -/
def progress? {Id : Type} (rehash : Rehash Id) : Option Progress :=
  if rehash.isActive then
    some ⟨rehash.cursor, rehash.older.capacity, rehash.older.count⟩
  else
    none

/-- The newer table becomes the older one, and a fresh table takes its place. -/
def start {Id : Type} (rehash : Rehash Id) (fresh : Table Id) : Rehash Id × List Event :=
  (⟨fresh, rehash.newer, 0⟩,
    [.migrationStarted rehash.newer.capacity fresh.capacity rehash.newer.count])

/-- Growth starts an episode unless one runs or memory is short, and a shortage changes nothing. -/
def grow {Id : Type} (rehash : Rehash Id) (allocator : Allocator) (target : Nat) :
    Bool × Rehash Id × List Event :=
  if rehash.isActive then
    (false, rehash, [])
  else
    match Table.allocate allocator target with
    | .ok fresh => (true, rehash.start fresh)
    | .error error =>
        (false, rehash, [.growthDeferred rehash.newer.capacity rehash.newer.count error])

/-- An older table that holds nothing is given up, and the episode ends. -/
def release {Id : Type} (rehash : Rehash Id) : Rehash Id × List Event :=
  if rehash.isActive && rehash.older.isEmpty then
    (idle rehash.newer, [.migrationFinished rehash.older.capacity])
  else
    (rehash, [])

/-- One scan moves the first payload of the slot under the cursor, or passes an empty slot. -/
def scan {Store Id Content : Type} [Arena Store Id Content] :
    Rehash Id → Store → Except (Fault Id) (Option Id × Rehash Id × Store)
  | ⟨newer, older, cursor⟩, store => do
      match ← older.detach store (.head cursor) with
      | (some id, older, store) =>
          let (newer, store) ← newer.insert store id
          pure (some id, ⟨newer, older, cursor⟩, store)
      | (none, older, store) => pure (none, ⟨newer, older, cursor + 1⟩, store)

/-- The scans go on until the work is done or the older table is empty. -/
def scanUpTo {Store Id Content : Type} [Arena Store Id Content] (work : Nat) :
    Nat → Nat → Rehash Id → Store → Except (Fault Id) (Nat × Rehash Id × Store)
  | limit, moved, rehash, store =>
      if moved < work ∧ rehash.older.count ≠ 0 then
        match limit with
        | 0 => throw .endless
        | limit + 1 => do
            match ← rehash.scan store with
            | (some _, rehash, store) => scanUpTo work limit (moved + 1) rehash store
            | (none, rehash, store) => scanUpTo work limit moved rehash store
      else
        pure (moved, rehash, store)

/-- Each scan moves a payload or the cursor, so more scans than this would run past the table. -/
def scanLimit {Id : Type} (rehash : Rehash Id) (work : Nat) : Nat :=
  min work rehash.older.count + (rehash.older.capacity - rehash.cursor)

/-- A step moves at most the given number of payloads and ends the episode when nothing is left. -/
def step {Store Id Content : Type} [Arena Store Id Content] (rehash : Rehash Id) (store : Store)
    (work : Nat) : Except (Fault Id) (Outcome (Rehash Id) Store Nat) :=
  if rehash.isActive then do
    let (moved, rehash, store) ← scanUpTo work (rehash.scanLimit work) 0 rehash store
    let stepped := Event.migrationStep moved rehash.cursor rehash.older.count
    let (rehash, released) := rehash.release
    pure ⟨moved, rehash, store, stepped :: released⟩
  else
    pure ⟨0, rehash, store, []⟩

/-- Draining is a step with all the work that a word can name. -/
def drain {Store Id Content : Type} [Arena Store Id Content] (rehash : Rehash Id)
    (store : Store) : Except (Fault Id) (Outcome (Rehash Id) Store Nat) :=
  rehash.step store wordLimit

/-- The episode is abandoned, and the older table is handed back as it stands. -/
def abandon {Id : Type} (rehash : Rehash Id) : Table Id × Rehash Id :=
  (rehash.older, idle rehash.newer)

end Rehash

end IncrementalMap
