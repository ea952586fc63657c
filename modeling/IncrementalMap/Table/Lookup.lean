/-
This file searches one chain of a table for a payload.
-/

import IncrementalMap.Table.Basic

namespace IncrementalMap

/-- A matcher accepts or rejects a candidate and may remember the candidates that it has seen. It is
shown the content and not the link, which tells it nothing: every candidate has the hash code that the
search asks for, and only the map reads successors. -/
abbrev Matcher (Content Memory : Type) := Content → Memory → Bool × Memory

/-- A predicate is a matcher that leaves every memory as it is. -/
def Matcher.ofPredicate {Content Memory : Type} (accepts : Content → Bool) :
    Matcher Content Memory :=
  fun content memory => (accepts content, memory)

namespace Table

/-- The search walks a chain, asks the matcher about equal hash codes only, and stops when the
matcher accepts. -/
def search {Store Id Content Memory : Type} [Arena Store Id Content] (store : Store)
    (hash : UInt64) (matcher : Matcher Content Memory) :
    Nat → Position Id → Option Id → Memory → Except (Fault Id) (Option (Position Id) × Memory)
  | _, _, none, memory => pure (none, memory)
  | 0, _, some _, _ => throw .endless
  | limit + 1, position, some id, memory => do
      let node ← Arena.fetch store id
      let (accepted, memory) :=
        if node.link.hash = hash then matcher node.content memory else (false, memory)
      if accepted then
        pure (some position, memory)
      else
        search store hash matcher limit (.after id) node.link.next memory

/-- A matcher with a memory may accept on a later round of a chain that closes on itself, so a
search goes on for more steps than a caller can wait for. -/
def searchLimit {Store Id Content : Type} [Arena Store Id Content] (store : Store) : Nat :=
  Arena.walkLimit store + (1 <<< 62)

theorem walkLimit_le_searchLimit {Store Id Content : Type} [Arena Store Id Content]
    (store : Store) : Arena.walkLimit store ≤ searchLimit store := Nat.le_add_right _ _

/-- The lookup finds the position that points at the first accepted payload of the slot. -/
def lookup {Store Id Content Memory : Type} [Arena Store Id Content] (table : Table Id)
    (store : Store) (hash : UInt64) (matcher : Matcher Content Memory) (memory : Memory) :
    Except (Fault Id) (Option (Position Id) × Memory) :=
  let slot := table.slotFor hash
  search store hash matcher (searchLimit store) (.head slot) (table.head? slot) memory

end Table

end IncrementalMap
