/-
This file proves that a table does the same in two stores that mirror each other, until it meets a
payload that was lost.
-/

import IncrementalMap.Proofs.Mirror
import IncrementalMap.Proofs.Table.Asked
import IncrementalMap.Proofs.Table.Chains
import IncrementalMap.Table.Transfer

namespace IncrementalMap

namespace Table

/-- A table is within a set of payloads when each of its slots starts with one of them. -/
def Within {Id : Type} (kept : Set Id) (table : Table Id) : Prop :=
  ∀ slot id, table.head? slot = some id → id ∈ kept

namespace Within

variable {Id : Type} {kept : Set Id} {table : Table Id}

theorem mono {more : Set Id} (within : table.Within kept) (fewer : kept ⊆ more) :
    table.Within more :=
  fun slot id head => fewer (within slot id head)

theorem unallocated (kept : Set Id) : (Table.unallocated : Table Id).Within kept := by
  intro slot id head
  rw [head?_unallocated] at head
  contradiction

theorem allocate {allocator : Allocator} {requested : Nat} {fresh : Table Id}
    (made : Table.allocate allocator requested = .ok fresh) (kept : Set Id) :
    fresh.Within kept := by
  obtain ⟨capacity, _, _, rfl⟩ := allocate_eq_ok made
  intro slot id head
  rw [head?_blank] at head
  contradiction

/-- A slot may be given another payload of the set, whatever the table counts. -/
theorem set (within : table.Within kept) (slot : Nat) {next : Option Id}
    (leads : ∀ id, next = some id → id ∈ kept) (mask : UInt64) (count : Nat) :
    Within kept ⟨table.slots.setIfInBounds slot next, mask, count⟩ := by
  intro other id head
  by_cases inRange : slot < table.capacity
  · rw [head?_setIfInBounds inRange] at head
    split at head
    · exact leads id head
    · exact within other id head
  · rw [Array.setIfInBounds_eq_of_size_le (Nat.le_of_not_lt inRange)] at head
    exact within other id head

end Within

end Table

/-- A position is within a set of payloads when it is a slot, or the link of one of them. -/
def Position.Within {Id : Type} (kept : Set Id) : Position Id → Prop
  | .head _ => True
  | .after id => id ∈ kept

namespace Table

variable {Store Id Content : Type} [Arena Store Id Content] {kept lost : Set Id}
  {origin first second : Store} {table source destination : Table Id}

namespace Within

/-- A new payload is linked alike, because its successor is written before it is read. -/
theorem insert [LawfulArena Store] (within : table.Within kept)
    (mirrors : Arena.Mirrors kept lost origin first second) (id : Id) :
    Corresponds (Insert.insert id kept ∩ lost)
      (Alongside (Within (Insert.insert id kept))
        (Arena.Mirrors (Insert.insert id kept) lost origin))
      (table.insert first id) (table.insert second id) := by
  rw [Table.insert, Table.insert]
  refine (mirrors.fetch_hash id).bind fun node other _ hash => ?_
  dsimp only
  rw [hash]
  split <;> rename_i inRange
  · have head : table.head? (table.slotFor node.link.hash) =
        table.slots[table.slotFor node.link.hash] := by
      simp [Table.head?, inRange]
    have relinked := mirrors.relink id (within (table.slotFor node.link.hash))
    rw [head] at relinked
    have grown := (within.mono (Set.subset_insert id kept)).set (table.slotFor node.link.hash)
      (fun other same => .inl (Option.some.inj same).symm) table.mask (table.count + 1)
    rw [Array.setIfInBounds_def, dif_pos inRange] at grown
    exact .value ⟨grown, relinked⟩
  · exact .failure _

/-- A kept payload is linked alike. -/
theorem insert_of_mem [LawfulArena Store] (within : table.Within kept)
    (mirrors : Arena.Mirrors kept lost origin first second) {id : Id} (member : id ∈ kept) :
    Corresponds (kept ∩ lost) (Alongside (Within kept) (Arena.Mirrors kept lost origin))
      (table.insert first id) (table.insert second id) := by
  have inserted := within.insert mirrors id
  rwa [Set.insert_eq_of_mem member] at inserted

/-- A position points at the same kept payload in both stores. -/
theorem target (within : table.Within kept) (mirrors : Arena.Mirrors kept lost origin first second)
    {position : Position Id} (inside : position.Within kept) :
    Corresponds (kept ∩ lost) (fun found other => other = found ∧ ∀ id, found = some id → id ∈ kept)
      (table.target first position) (table.target second position) := by
  cases position with
  | head slot => exact .value ⟨rfl, within slot⟩
  | after before =>
      refine (mirrors.fetch inside).bind ?_
      rintro _ node - ⟨rfl, found⟩
      exact .value ⟨rfl, mirrors.closed before inside node found⟩

/-- A position is redirected to a kept payload in both stores alike. -/
theorem redirect [LawfulArena Store] (within : table.Within kept)
    (mirrors : Arena.Mirrors kept lost origin first second) {position : Position Id}
    (inside : position.Within kept) {next : Option Id} (leads : ∀ id, next = some id → id ∈ kept) :
    Alongside (Within kept) (Arena.Mirrors kept lost origin) (table.redirect first position next)
      (table.redirect second position next) := by
  cases position with
  | head slot => exact ⟨within.set slot leads _ _, mirrors⟩
  | after before => exact ⟨within, mirrors.relink_of_mem inside leads⟩

/-- A payload is detached from both stores alike. -/
theorem detach [LawfulArena Store] (within : table.Within kept)
    (mirrors : Arena.Mirrors kept lost origin first second) {position : Position Id}
    (inside : position.Within kept) :
    Corresponds (kept ∩ lost) (Alongside (fun found => ∀ id, found = some id → id ∈ kept)
        (Alongside (Within kept) (Arena.Mirrors kept lost origin)))
      (table.detach first position) (table.detach second position) := by
  rw [Table.detach, Table.detach]
  refine (within.target mirrors inside).bind ?_
  rintro _ found - ⟨rfl, member⟩
  cases found with
  | none => exact .value ⟨nofun, within, mirrors⟩
  | some id =>
      have listed := member id rfl
      refine (mirrors.fetch listed).bind ?_
      rintro _ node - ⟨rfl, present⟩
      have redirected := within.redirect mirrors inside (mirrors.closed id listed node present)
      dsimp only
      generalize table.redirect first position node.link.next = left at redirected ⊢
      generalize table.redirect second position node.link.next = right at redirected ⊢
      obtain ⟨⟨slots, mask, count⟩, unlinked⟩ := left
      obtain ⟨withinCut, moved⟩ := redirected
      cases count with
      | zero => exact .failure _
      | succ count => exact .value ⟨member, withinCut, moved.relink_of_mem listed nofun⟩

/-- The payloads of one slot are transferred in both stores alike. -/
theorem transferSlot [LawfulArena Store] (leaving : source.Within kept)
    (arriving : destination.Within kept) (mirrors : Arena.Mirrors kept lost origin first second)
    (slot limit : Nat) :
    Corresponds (kept ∩ lost)
      (Alongside (Within kept) (Alongside (Within kept) (Arena.Mirrors kept lost origin)))
      (Table.transferSlot slot limit source destination first)
      (Table.transferSlot slot limit source destination second) := by
  induction limit generalizing source destination first second with
  | zero => exact .failure _
  | succ limit inductionHypothesis =>
      rw [Table.transferSlot, Table.transferSlot]
      have inside : (Position.head slot).Within kept := trivial
      refine (leaving.detach mirrors inside).bind ?_
      rintro ⟨found, cut, unlinked⟩ _ - ⟨member, withinCut, moved⟩
      cases found with
      | none => exact .value ⟨withinCut, arriving, moved⟩
      | some id =>
          refine (arriving.insert_of_mem moved (member id rfl)).bind ?_
          rintro ⟨grown, linked⟩ _ - ⟨withinGrown, joined⟩
          exact inductionHypothesis withinCut withinGrown joined

/-- A whole table is transferred in both stores alike. -/
theorem transfer [LawfulArena Store] (leaving : source.Within kept)
    (arriving : destination.Within kept) (mirrors : Arena.Mirrors kept lost origin first second) :
    Corresponds (kept ∩ lost)
      (Alongside (Within kept) (Alongside (Within kept) (Arena.Mirrors kept lost origin)))
      (source.transfer destination first) (source.transfer destination second) := by
  apply Corresponds.foldlM
  · rintro ⟨source, destination, first⟩ _ slot ⟨leaving, arriving, mirrors⟩
    exact leaving.transferSlot arriving mirrors slot _
  · exact ⟨leaving, arriving, mirrors⟩

end Within

/-- A search along kept payloads takes the same course in both stores, until it meets a payload that
was lost. Each store has to be large enough for the payloads that it holds. -/
theorem search_mirrored (mirrors : Arena.Mirrors kept lost origin first second) {Memory : Type}
    {head : Option Id} {ids : List Id} (chain : Chain first head ids)
    (inside : ∀ id ∈ ids, id ∈ kept) {limit other : Nat} (enough : ids.length ≤ limit)
    (plenty : ∀ front, front <+: ids → (∀ id ∈ front, id ∉ lost) → front.length < other)
    (hash : UInt64) (matcher : Matcher Content Memory) (position : Position Id)
    (memory : Memory) :
    Corresponds (kept ∩ lost) (fun answer mirrored => mirrored = answer)
        (search first hash matcher limit position head memory)
        (search second hash matcher other position head memory) ∧
      ∀ answer, search second hash matcher other position head memory = .ok answer →
        askedFrom second hash matcher other head memory =
          askedFrom first hash matcher limit head memory := by
  induction chain generalizing limit other position memory with
  | nil => cases limit <;> cases other <;> exact ⟨.value rfl, fun _ _ => rfl⟩
  | @cons id node rest found tail inductionHypothesis =>
      obtain ⟨limit, rfl⟩ := Nat.exists_eq_add_one.2 (Nat.zero_lt_of_lt enough)
      obtain ⟨other, rfl⟩ := Nat.exists_eq_add_one.2 (plenty [] List.nil_prefix (by simp))
      rw [List.forall_mem_cons] at inside
      by_cases absent : id ∈ lost
      · have stopped : search second hash matcher (other + 1) position (some id) memory =
            .error (.missing id) := by
          rw [search, Arena.fetch_of_node?_eq_none (mirrors.lacks id absent)]
          rfl
        rw [stopped]
        exact ⟨.missing (Set.mem_inter inside.1 absent) _, by simp⟩
      · have present := (mirrors.node inside.1 absent).trans found
        have later := inductionHypothesis inside.2 (Nat.le_of_succ_le_succ enough)
          fun front shorter held => Nat.lt_of_succ_lt_succ (plenty (id :: front)
            (List.cons_prefix_cons.2 ⟨rfl, shorter⟩) (List.forall_mem_cons.2 ⟨absent, held⟩))
        rw [search, search, askedFrom, askedFrom, Arena.fetch_of_node? found,
          Arena.fetch_of_node? present, found, present, ok_bind, ok_bind]
        dsimp only
        by_cases code : node.link.hash = hash
        · rw [if_pos code, if_pos code, if_pos code]
          rcases matcher node.content memory with ⟨_ | _, left⟩
          · obtain ⟨searched, asks⟩ := later (.after id) left
            exact ⟨searched, fun answer answered => congrArg _ (asks answer answered)⟩
          · exact ⟨.value rfl, fun _ _ => rfl⟩
        · rw [if_neg code, if_neg code, if_neg code]
          exact later (.after id) memory

namespace Sound

variable {layout : Layout Id}

/-- The slots of a sound table start with its own payloads. -/
theorem within (sound : table.Sound first layout)
    (inside : ∀ id ∈ layout.ids table.capacity, id ∈ kept) : table.Within kept := by
  intro slot id head
  have chain := sound.chains slot
  rw [head] at chain
  exact inside id (sound.mem_ids_of_mem (List.mem_of_head? chain.head_eq.symm))

/-- The payloads of a sound table lead to each other only. -/
theorem closed (sound : table.Sound first layout) {id next : Id}
    (member : id ∈ layout.ids table.capacity) {node : Node Id Content}
    (found : Arena.node? first id = some node) (leads : node.link.next = some next) :
    next ∈ layout.ids table.capacity := by
  have chain := sound.chains (table.home first id)
  obtain ⟨front, rest, splits⟩ := List.append_of_mem (sound.mem_ids.1 member)
  rw [splits] at chain
  obtain ⟨other, present, tail⟩ := chain.node
  obtain rfl := Option.some.inj (found.symm.trans present)
  have following : next ∈ rest := List.mem_of_head? (tail.head_eq.symm.trans leads)
  apply sound.mem_ids_of_mem
  rw [splits]
  exact List.mem_append_right _ (List.mem_cons_of_mem _ following)

/-- A lookup in a table of kept payloads gives the same answer in both stores, and asks about the same
payloads, unless it meets one that was lost. -/
theorem lookup_mirrored [LawfulArena Store] (sound : table.Sound first layout)
    (mirrors : Arena.Mirrors kept lost origin first second)
    (inside : ∀ id ∈ layout.ids table.capacity, id ∈ kept) {Memory : Type} (hash : UInt64)
    (matcher : Matcher Content Memory) (memory : Memory) :
    Corresponds (kept ∩ lost) (fun answer mirrored => mirrored = answer)
        (table.lookup first hash matcher memory) (table.lookup second hash matcher memory) ∧
      ∀ answer, table.lookup second hash matcher memory = .ok answer →
        table.asked second hash matcher memory = table.asked first hash matcher memory := by
  have chain := sound.chains (table.slotFor hash)
  have within : ∀ id ∈ layout (table.slotFor hash), id ∈ kept :=
    fun id member => inside id (sound.mem_ids_of_mem member)
  -- The payloads before the first lost one are distinct payloads of the second store.
  have plenty : ∀ front, front <+: layout (table.slotFor hash) → (∀ id ∈ front, id ∉ lost) →
      front.length < searchLimit second := by
    intro front shorter held
    have distinct := chain.nodup.sublist shorter.sublist
    have present : ∀ id ∈ front, (Arena.node? second id).isSome := by
      intro id member
      rw [mirrors.node (within id (shorter.subset member)) (held id member)]
      exact chain.present id (shorter.subset member)
    have small := LawfulArena.length_le_size second front distinct present
    have limit := walkLimit_le_searchLimit second
    rw [Arena.walkLimit] at limit
    omega
  exact search_mirrored mirrors chain within (length_le_searchLimit chain) plenty hash matcher _
    memory

end Sound

end Table

end IncrementalMap
