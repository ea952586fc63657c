/-
This file relates two stores that differ in payloads which one of them has lost, and in successors
which nobody follows.
-/

import IncrementalMap.Proofs.Answer
import IncrementalMap.Proofs.Rewiring

namespace IncrementalMap

namespace Arena

/-- The second store mirrors the first one in some payloads when these lead to each other only, and
have the same links in both unless the second store has lost them. The successors of all other
payloads may differ. The first store has changed the kept payloads only since its origin. -/
structure Mirrors {Store Id Content : Type} [Arena Store Id Content] (kept lost : Set Id)
    (origin first second : Store) : Prop where
  payloads : ∀ id, id ∉ lost → (node? second id).map (fun node => node.withNext none) =
    (node? first id).map (fun node => node.withNext none)
  lacks : ∀ id ∈ lost, node? second id = none
  links : ∀ id ∈ kept, id ∉ lost → link? second id = link? first id
  closed : ∀ id ∈ kept, ∀ node, node? first id = some node →
    ∀ next, node.link.next = some next → next ∈ kept
  frame : Rewires kept origin first

/-- A relinked payload keeps its hash code and gets the given successor. -/
theorem link?_relink_self {Store Id Content : Type} [Arena Store Id Content] [LawfulArena Store]
    (store : Store) (id : Id) (next : Option Id) :
    link? (relink store id next) id = (link? store id).map (·.withNext next) := by
  rw [link?, link?, LawfulArena.node?_relink_self, Option.map_map, Option.map_map]
  rfl

/-- A payload that two stores hold alike has the same hash code in both, whatever its successors
are. -/
theorem link?_withNext {Store Id Content : Type} [Arena Store Id Content] {first second : Store}
    {id : Id} (same : (node? second id).map (fun node => node.withNext none) =
      (node? first id).map (fun node => node.withNext none)) (next : Option Id) :
    (link? second id).map (·.withNext next) = (link? first id).map (·.withNext next) := by
  have links := congrArg (Option.map fun node => node.link.withNext next) same
  rw [Option.map_map, Option.map_map] at links
  rw [link?, link?, Option.map_map, Option.map_map]
  exact links

namespace Mirrors

variable {Store Id Content : Type} [Arena Store Id Content] {kept lost : Set Id}
  {origin first second : Store}

/-- The stores that have lost nothing hold the same payloads. -/
theorem samePayloads (mirrors : Mirrors kept ∅ origin first second) : SamePayloads first second :=
  fun id => mirrors.payloads id (Set.notMem_empty id)

/-- A kept payload that was not lost is the same node in both stores. -/
theorem node (mirrors : Mirrors kept lost origin first second) {id : Id} (member : id ∈ kept)
    (present : id ∉ lost) : node? second id = node? first id := by
  have links := mirrors.links id member present
  have same := mirrors.payloads id present
  cases found : node? first id with
  | none => simpa [link?, found] using links
  | some node =>
      cases other : node? second id with
      | none => simp [link?, found, other] at links
      | some moved =>
          have link : moved.link = node.link := by simpa [link?, found, other] using links
          rw [found, other] at same
          have content : moved.content = node.content := by
            simpa using congrArg (Option.map Node.content) same
          rw [show moved = node from congrArg₂ Node.mk link content]

/-- A kept payload is fetched from both stores alike, unless it was lost. -/
theorem fetch (mirrors : Mirrors kept lost origin first second) {id : Id} (member : id ∈ kept) :
    Corresponds (kept ∩ lost) (fun node other => other = node ∧ node? first id = some node)
      (Arena.fetch first id) (Arena.fetch second id) := by
  by_cases absent : id ∈ lost
  · rw [fetch_of_node?_eq_none (mirrors.lacks id absent)]
    exact .missing (Set.mem_inter member absent) _
  · have same := mirrors.node member absent
    cases found : node? first id with
    | none =>
        rw [fetch_of_node?_eq_none found, fetch_of_node?_eq_none (same.trans found)]
        exact .failure _
    | some node =>
        rw [fetch_of_node? found, fetch_of_node? (same.trans found)]
        exact .value ⟨rfl, rfl⟩

/-- Any other payload is fetched with the same hash code, unless it was lost. -/
theorem fetch_hash (mirrors : Mirrors kept lost origin first second) (id : Id) :
    Corresponds (insert id kept ∩ lost) (fun node other => other.link.hash = node.link.hash)
      (Arena.fetch first id) (Arena.fetch second id) := by
  by_cases absent : id ∈ lost
  · rw [fetch_of_node?_eq_none (mirrors.lacks id absent)]
    exact .missing (Set.mem_inter (Set.mem_insert id kept) absent) _
  · have same := mirrors.payloads id absent
    cases found : node? first id with
    | none =>
        rw [found, Option.map_none, Option.map_eq_none_iff] at same
        rw [fetch_of_node?_eq_none found, fetch_of_node?_eq_none same]
        exact .failure _
    | some node =>
        rw [found, Option.map_some, Option.map_eq_some_iff] at same
        obtain ⟨moved, present, cleared⟩ := same
        rw [fetch_of_node? found, fetch_of_node? present]
        exact .value (congrArg (fun node => node.link.hash) cleared)

/-- A payload that is given a kept successor is kept from then on, whatever its successor was. -/
theorem relink [LawfulArena Store] (mirrors : Mirrors kept lost origin first second) (id : Id)
    {next : Option Id} (leads : ∀ other, next = some other → other ∈ kept) :
    Mirrors (insert id kept) lost origin (Arena.relink first id next)
      (Arena.relink second id next) where
  payloads other present :=
    ((Rewires.relink second id next).payloads other).trans
      ((mirrors.payloads other present).trans ((Rewires.relink first id next).payloads other).symm)
  lacks other absent := by
    have gone := mirrors.lacks other absent
    by_cases here : other = id
    · subst here
      rw [LawfulArena.node?_relink_self, gone, Option.map_none]
    · rw [LawfulArena.node?_relink_other second id other next here, gone]
  links other member present := by
    by_cases here : other = id
    · subst here
      rw [link?_relink_self, link?_relink_self, link?_withNext (mirrors.payloads other present)]
    · rw [(Rewires.relink second id next).link? here, (Rewires.relink first id next).link? here]
      exact mirrors.links other (member.resolve_left here) present
  closed other member node found following leadsTo := by
    by_cases here : other = id
    · subst here
      rw [LawfulArena.node?_relink_self, Option.map_eq_some_iff] at found
      obtain ⟨former, _, rfl⟩ := found
      exact .inr (leads following leadsTo)
    · rw [LawfulArena.node?_relink_other first id other next here] at found
      exact .inr (mirrors.closed other (member.resolve_left here) node found following leadsTo)
  frame := (mirrors.frame.mono (Set.subset_insert id kept)).trans
    ((Rewires.relink first id next).mono (by simp))

/-- A kept payload may be given another kept successor. -/
theorem relink_of_mem [LawfulArena Store] (mirrors : Mirrors kept lost origin first second)
    {id : Id} (member : id ∈ kept) {next : Option Id}
    (leads : ∀ other, next = some other → other ∈ kept) :
    Mirrors kept lost origin (Arena.relink first id next) (Arena.relink second id next) := by
  have relinked := mirrors.relink id leads
  rwa [Set.insert_eq_of_mem member] at relinked

end Mirrors

end Arena

end IncrementalMap
