/-
This file holds the map and the calls that each carry a running episode one step further.
-/

import IncrementalMap.Config
import IncrementalMap.Rehash.Find

namespace IncrementalMap

/-- A map is a rehash together with the settings of its growth. -/
structure Map (Id : Type) where
  rehash : Rehash Id
  config : Config
  deriving DecidableEq

namespace Map

/-- A new map has allocated nothing. -/
def empty {Id : Type} (config : Config) : Map Id := ⟨Rehash.idle Table.unallocated, config⟩

/-- The settings are checked before the map exists. -/
def ofConfig {Id : Type} (config : Config) : Except MapError (Map Id) := do
  config.validate
  pure (empty config)

/-- This is the number of payloads in both tables. -/
def size {Id : Type} (map : Map Id) : Nat := map.rehash.size

/-- A map is empty when neither table counts a payload. -/
def isEmpty {Id : Type} (map : Map Id) : Bool := map.size == 0

/-- The newer table gives the capacity. -/
def capacity {Id : Type} (map : Map Id) : Nat := map.rehash.newer.capacity

/-- The map is rehashing while an episode runs. -/
def isRehashing {Id : Type} (map : Map Id) : Bool := map.rehash.isActive

/-- A reservation sizes the first table and has no effect on a later one. -/
def reserve {Id : Type} (map : Map Id) (allocator : Allocator) (requested : Nat) :
    Except MapError (Map Id × List Event) :=
  if map.rehash.newer.isAllocated then
    .ok (map, [])
  else do
    let fresh ← Table.allocate allocator requested
    pure ({ map with rehash := { map.rehash with newer := fresh } }, [.reserved fresh.capacity])

/-- The reserved capacity takes the place of the initial one. -/
def ofCapacity {Id : Type} (allocator : Allocator) (requested : Nat) (config : Config) :
    Except MapError (Map Id) := do
  let map ← ofConfig config
  let (map, _) ← map.reserve allocator requested
  pure map

/-- Each call carries a running episode forward by the configured work. -/
def advance {Store Id Content : Type} [Arena Store Id Content] :
    Map Id → Store → Except (Fault Id) (Outcome (Map Id) Store Nat)
  | ⟨rehash, config⟩, store => do
      let ⟨moved, rehash, store, events⟩ ← rehash.step store config.migrationWork
      pure ⟨moved, ⟨rehash, config⟩, store, events⟩

/-- The lookup advances first and then gives the payload that the matcher accepts, together with
the last memory of the matcher. -/
def lookup {Store Id Content Memory : Type} [Arena Store Id Content] (map : Map Id)
    (store : Store) (hash : UInt64) (matcher : Matcher Content Memory) (memory : Memory) :
    Except (Fault Id) (Outcome (Map Id) Store (Option Id × Memory)) := do
  let ⟨_, map, store, events⟩ ← map.advance store
  match ← map.rehash.find store hash matcher memory with
  | (none, memory) => pure ⟨(none, memory), map, store, events⟩
  | (some (side, position), memory) =>
      let id ← (map.rehash.table side).target store position
      pure ⟨(id, memory), map, store, events⟩

/-- The deletion advances first, detaches the payload that the matcher accepts, and ends an episode
whose last payload it took. -/
def delete {Store Id Content Memory : Type} [Arena Store Id Content] (map : Map Id)
    (store : Store) (hash : UInt64) (matcher : Matcher Content Memory) (memory : Memory) :
    Except (Fault Id) (Outcome (Map Id) Store (Option Id × Memory)) := do
  let ⟨_, ⟨rehash, config⟩, store, events⟩ ← map.advance store
  match ← rehash.find store hash matcher memory with
  | (none, memory) => pure ⟨(none, memory), ⟨rehash, config⟩, store, events⟩
  | (some (.newer, position), memory) =>
      let (id, rehash, store) ← rehash.detach store .newer position
      pure ⟨(id, memory), ⟨rehash, config⟩, store, events⟩
  | (some (.older, position), memory) =>
      let (id, rehash, store) ← rehash.detach store .older position
      let (rehash, released) := rehash.release
      pure ⟨(id, memory), ⟨rehash, config⟩, store, events ++ released⟩

/-- A probe node outside the arena gives the hash code, and its content goes to the matcher. -/
def lookupProbe {Store Id Content Memory : Type} [Arena Store Id Content] (map : Map Id)
    (store : Store) (probe : Node Id Content) (matcher : Content → Matcher Content Memory)
    (memory : Memory) : Except (Fault Id) (Outcome (Map Id) Store (Option Id × Memory)) :=
  map.lookup store probe.link.hash (matcher probe.content) memory

/-- The payload that a probe node describes is deleted. -/
def deleteProbe {Store Id Content Memory : Type} [Arena Store Id Content] (map : Map Id)
    (store : Store) (probe : Node Id Content) (matcher : Content → Matcher Content Memory)
    (memory : Memory) : Except (Fault Id) (Outcome (Map Id) Store (Option Id × Memory)) :=
  map.delete store probe.link.hash (matcher probe.content) memory

/-- The first insertion allocates a table of the initial capacity. -/
def firstTable {Id : Type} (map : Map Id) (allocator : Allocator) :
    Except MapError (Table Id) :=
  if map.rehash.newer.isAllocated then
    .ok map.rehash.newer
  else
    Table.allocate allocator map.config.initialCapacity

/-- A full newer table asks for twice its capacity, unless an episode runs. -/
def growIfFull {Id : Type} (rehash : Rehash Id) (config : Config) (allocator : Allocator) :
    Rehash Id × List Event :=
  if !rehash.isActive && config.fullAt rehash.newer.capacity ≤ rehash.newer.count then
    (rehash.grow allocator (saturate (rehash.newer.capacity * 2))).2
  else
    (rehash, [])

/-- The insertion links the payload into the newer table, starts a growth that is due, and
advances. Only the first table can fail to be allocated, and then nothing is linked. -/
def insert {Store Id Content : Type} [Arena Store Id Content] (map : Map Id) (store : Store)
    (allocator : Allocator) (id : Id) :
    Except (Fault Id) (Outcome (Map Id) Store (Except MapError Unit)) :=
  match map.firstTable allocator with
  | .error error => pure ⟨.error error, map, store, []⟩
  | .ok newer => do
      let ⟨⟨_, older, cursor⟩, config⟩ := map
      let (newer, store) ← newer.insert store id
      let (rehash, grown) := growIfFull ⟨newer, older, cursor⟩ config allocator
      let ⟨_, map, store, events⟩ ← advance ⟨rehash, config⟩ store
      pure ⟨.ok (), map, store, grown ++ events⟩

/-- Clearing gives up both tables and leaves every payload as it is. -/
def clear {Id : Type} (map : Map Id) : Map Id × List Event :=
  (empty map.config,
    if map.rehash.newer.isAllocated || map.isRehashing then [.clear map.size] else [])

end Map

end IncrementalMap
