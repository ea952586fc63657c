/-
This file proves that insertion and detachment edit one chain of the layout.
-/

import IncrementalMap.Proofs.Answer
import IncrementalMap.Proofs.Table.Sound

namespace IncrementalMap.Table

/-- The insertion writes one slot and one link. -/
theorem insert_eq_ok {Store Id Content : Type} [Arena Store Id Content] {table : Table Id}
    {store : Store} {id : Id} {node : Node Id Content} (found : Arena.node? store id = some node)
    (inRange : table.slotFor node.link.hash < table.capacity) :
    table.insert store id = .ok
      (⟨table.slots.setIfInBounds (table.slotFor node.link.hash) (some id), table.mask,
          table.count + 1⟩,
        Arena.relink store id (table.head? (table.slotFor node.link.hash))) := by
  have bound : table.slotFor node.link.hash < table.slots.size := inRange
  simp [Table.insert, Arena.fetch_of_node? found, bound, head?, Array.setIfInBounds, bind,
    Except.bind, pure, Except.pure]

/-- The position behind a part of a chain points at the payload that comes next. -/
theorem target_following {Store Id Content : Type} [Arena Store Id Content] {table : Table Id}
    {store : Store} {slot : Nat} {front rest : List Id}
    (chain : Chain store (table.head? slot) (front ++ rest)) :
    table.target store (.following slot front) = .ok rest.head? := by
  rcases List.eq_nil_or_concat' front with rfl | ⟨front, before, rfl⟩
  · cases chained : table.head? slot <;> rw [chained] at chain <;> cases chain <;>
      simp [target, chained, pure, Except.pure]
  · rw [List.append_assoc, List.singleton_append] at chain
    obtain ⟨node, found, tail⟩ := chain.node
    cases chained : node.link.next <;> rw [chained] at tail <;> cases tail <;>
      simp [target, Arena.fetch_of_node? found, chained, bind, Except.bind, pure, Except.pure]

/-- A detachment touches the payload and the one before it, which are in the same chain. -/
theorem mem_of_touched {Id : Type} {front rest : List Id} {id moved : Id}
    (touched : moved = id ∨ front.getLast? = some moved) : moved ∈ front ++ id :: rest := by
  rcases touched with rfl | before
  · exact List.mem_append_right _ List.mem_cons_self
  · exact List.mem_append_left _ (List.mem_of_getLast? before)

/-- A detachment writes the place that points at the payload and clears its successor. -/
theorem detach_eq_ok {Store Id Content : Type} [Arena Store Id Content] {table : Table Id}
    {store : Store} {position : Position Id} {id : Id} {node : Node Id Content}
    (aimed : table.target store position = .ok (some id))
    (found : Arena.node? store id = some node) (counted : 0 < table.count) :
    table.detach store position = .ok (some id,
      ⟨(table.redirect store position node.link.next).1.slots, table.mask, table.count - 1⟩,
      Arena.relink (table.redirect store position node.link.next).2 id none) := by
  obtain ⟨slots, mask, count⟩ := table
  obtain ⟨count, rfl⟩ := Nat.exists_eq_succ_of_ne_zero (Nat.ne_of_gt counted)
  cases position <;>
    simp [Table.detach, aimed, Arena.fetch_of_node? found, redirect, bind, Except.bind, pure,
      Except.pure]

namespace Sound

/-- A table stays sound when one chain is replaced by another chain of the same home. -/
theorem edit {Store Id Content : Type} [Arena Store Id Content] {table edited : Table Id}
    {before after : Store} {layout : Layout Id} (sound : table.Sound before layout) {slot : Nat}
    (inRange : slot < table.capacity) (alike : table.Alike edited) {touched : Set Id}
    (rewires : Arena.Rewires touched before after)
    (heads : ∀ other, other ≠ slot → edited.head? other = table.head? other)
    (apart : ∀ other, other ≠ slot → ∀ id ∈ layout other, id ∉ touched) {ids : List Id}
    (chain : Chain after (edited.head? slot) ids) (homes : ∀ id ∈ ids, table.home before id = slot)
    (counted : edited.count + (layout slot).length = table.count + ids.length) :
    edited.Sound after (Function.update layout slot ids) where
  shaped := Or.inr ⟨by
    rw [alike.capacity]
    exact sound.shaped.isCapacity (Nat.zero_lt_of_lt inRange), by
    rw [alike.mask, alike.capacity]
    exact sound.shaped.mask_eq (Nat.zero_lt_of_lt inRange)⟩
  chains other := by
    by_cases here : other = slot
    · rw [here, Function.update_self]
      exact chain
    · rw [Function.update_of_ne here, heads other here]
      exact (sound.chains other).rewire rewires (apart other here)
  homes other id member := by
    rw [alike.home rewires.payloads]
    by_cases here : other = slot
    · rw [here, Function.update_self] at member
      exact (homes id member).trans here.symm
    · rw [Function.update_of_ne here] at member
      exact sound.homes other id member
  counted := by
    obtain ⟨rest, splits, changed⟩ := layout.ids_split inRange
    have total := sound.counted
    rw [splits] at total
    rw [alike.capacity, changed]
    simp only [List.length_append] at total ⊢
    omega

/-- A payload that is not listed becomes the first of its home, and only its own link changes. -/
theorem insert {Store Id Content : Type} [Arena Store Id Content] [LawfulArena Store]
    {table : Table Id} {store : Store} {layout : Layout Id} (sound : table.Sound store layout)
    (allocated : 0 < table.capacity) {id : Id} (present : (Arena.node? store id).isSome)
    (fresh : id ∉ layout.ids table.capacity) :
    ∃ grown linked, table.insert store id = .ok (grown, linked) ∧
      grown.Sound linked (layout.push (table.home store id) id) ∧ table.Alike grown ∧
      Arena.Rewires {id} store linked := by
  obtain ⟨node, found⟩ := Option.isSome_iff_exists.1 present
  have home := table.home_of_node? found
  have inRange := home_lt sound.shaped allocated store id
  have rewires := Arena.Rewires.relink store id (table.head? (table.home store id))
  have alike : table.Alike ⟨table.slots.setIfInBounds (table.home store id) (some id), table.mask,
      table.count + 1⟩ := ⟨by simp [Table.capacity], rfl⟩
  have apart (slot : Nat) : id ∉ layout slot := fun member => fresh (sound.mem_ids_of_mem member)
  have homes : ∀ other ∈ id :: layout (table.home store id),
      table.home store other = table.home store id := by
    intro other member
    rcases List.mem_cons.1 member with rfl | member
    · rfl
    · exact sound.homes _ other member
  have pushed := (sound.chains (table.home store id)).push found (apart _)
  refine ⟨_, _, home ▸ insert_eq_ok found (home ▸ inRange), ?_, alike, rewires⟩
  apply sound.edit inRange alike rewires _ _ _ homes
  · simp only [List.length_cons]
    omega
  · intro other differ
    rw [head?_setIfInBounds inRange, if_neg differ]
  · intro other _ moved member same
    exact apart other (Set.mem_singleton_iff.1 same ▸ member)
  · rw [head?_setIfInBounds inRange, if_pos rfl]
    exact pushed

/-- Redirecting the place behind a part of a chain cuts out the payload that came next. -/
theorem redirect {Store Id Content : Type} [Arena Store Id Content] [LawfulArena Store]
    {table : Table Id} {store : Store} {layout : Layout Id} (sound : table.Sound store layout)
    {slot : Nat} {front rest : List Id} {id : Id} (splits : layout slot = front ++ id :: rest)
    {next : Option Id} (tail : Chain store next rest) :
    let moved := table.redirect store (.following slot front) next
    table.capacity = moved.1.slots.size ∧
      (∀ other, other ≠ slot → moved.1.head? other = table.head? other) ∧
      Chain moved.2 (moved.1.head? slot) (front ++ rest) ∧
      Arena.Rewires {before | front.getLast? = some before} store moved.2 := by
  have member : id ∈ layout slot := by simp [splits]
  have inRange := sound.lt_of_mem member
  rcases List.eq_nil_or_concat' front with rfl | ⟨front, before, rfl⟩
  · simp only [Position.following_nil, Table.redirect]
    refine ⟨by simp [Table.capacity], ?_, ?_, .refl _ store⟩
    · intro other differ
      rw [head?_setIfInBounds inRange, if_neg differ]
    · rw [head?_setIfInBounds inRange, if_pos rfl]
      exact tail
  · rw [List.append_assoc, List.singleton_append] at splits
    have bypassed := (splits ▸ sound.chains slot).bypass tail
    simp only [Position.following_concat, Table.redirect, List.append_assoc, List.singleton_append]
    exact ⟨rfl, fun _ _ => trivial, bypassed,
      (Arena.Rewires.relink store before next).mono (by simp)⟩

/-- The payload behind a part of its chain is cut out of the chain and loses its successor. Only
its own link and the link before it change. -/
theorem detach {Store Id Content : Type} [Arena Store Id Content] [LawfulArena Store]
    {table : Table Id} {store : Store} {layout : Layout Id} (sound : table.Sound store layout)
    {slot : Nat} {front rest : List Id} {id : Id} (splits : layout slot = front ++ id :: rest) :
    ∃ cut unlinked, table.detach store (.following slot front) = .ok (some id, cut, unlinked) ∧
      cut.Sound unlinked (Function.update layout slot (front ++ rest)) ∧ table.Alike cut ∧
      Arena.Rewires {moved | moved = id ∨ front.getLast? = some moved} store unlinked ∧
      (Arena.node? unlinked id).map (fun node => node.link.next) = some none := by
  have chain := splits ▸ sound.chains slot
  have distinct := List.nodup_cons.1 (List.nodup_middle.1 chain.nodup)
  have member : id ∈ layout slot := by simp [splits]
  have inRange := sound.lt_of_mem member
  have counted : 0 < table.count := by
    rw [sound.counted]
    exact List.length_pos_of_mem (sound.mem_ids_of_mem member)
  obtain ⟨node, found, tail⟩ := chain.node
  obtain ⟨size, heads, cut, redirected⟩ := sound.redirect splits tail
  have unlinks := Arena.Rewires.relink
    (table.redirect store (.following slot front) node.link.next).2 id none
  have rewires := (redirected.mono fun _ => Or.inr).trans (unlinks.mono fun _ => Or.inl)
  have alike : table.Alike ⟨(table.redirect store (.following slot front) node.link.next).1.slots,
      table.mask, table.count - 1⟩ := ⟨size.symm, rfl⟩
  have apart : ∀ other, other ≠ slot → ∀ moved ∈ layout other,
      ¬(moved = id ∨ front.getLast? = some moved) := by
    intro other differ moved listed touched
    have here : moved ∈ layout slot := splits ▸ mem_of_touched touched
    exact differ ((sound.homes other moved listed).symm.trans (sound.homes slot moved here))
  have shorter : Chain _ _ (front ++ rest) := cut.rewire unlinks fun other listed same =>
    distinct.1 (Set.mem_singleton_iff.1 same ▸ listed)
  have homes : ∀ other ∈ front ++ rest, table.home store other = slot := by
    intro other listed
    apply sound.homes slot other
    rw [splits]
    simp only [List.mem_append, List.mem_cons] at listed ⊢
    exact listed.imp_right Or.inr
  have fewer : table.count - 1 + (layout slot).length = table.count + (front ++ rest).length := by
    simp only [splits, List.length_append, List.length_cons]
    omega
  have ended : (Arena.node? (Arena.relink (table.redirect store (.following slot front)
      node.link.next).2 id none) id).map (fun node => node.link.next) = some none := by
    obtain ⟨kept, present, _⟩ := redirected.payloads.node found
    rw [LawfulArena.node?_relink_self, present]
    rfl
  exact ⟨_, _, detach_eq_ok (target_following chain) found counted,
    sound.edit inRange alike rewires heads apart shorter homes fewer, alike, rewires, ended⟩

/-- There is nothing to detach behind the end of a chain. -/
theorem detach_end {Store Id Content : Type} [Arena Store Id Content] {table : Table Id}
    {store : Store} {layout : Layout Id} (sound : table.Sound store layout) (slot : Nat) :
    table.detach store (.following slot (layout slot)) = .ok (none, table, store) := by
  have chain := sound.chains slot
  rw [← List.append_nil (layout slot)] at chain
  simp [Table.detach, target_following chain, bind, Except.bind, pure, Except.pure]

end Sound

variable {Store Id Content : Type} [Arena Store Id Content] {table : Table Id} {store : Store}

/-- Every insertion keeps the slots and counts one payload more. -/
theorem alike_of_insert {grown : Table Id} {linked : Store} {id : Id}
    (inserted : table.insert store id = .ok (grown, linked)) :
    table.Alike grown ∧ grown.count = table.count + 1 := by
  obtain ⟨node, _, placed⟩ := exists_of_bind_eq_ok inserted
  dsimp only at placed
  split at placed
  · obtain ⟨rfl, _⟩ := Prod.mk.inj (Except.ok.inj placed)
    exact ⟨⟨by simp [capacity], rfl⟩, rfl⟩
  · cases placed

/-- Every insertion writes its own payload only. -/
theorem rewires_of_insert [LawfulArena Store] {grown : Table Id} {linked : Store} {id : Id}
    (inserted : table.insert store id = .ok (grown, linked)) : Arena.Rewires {id} store linked := by
  obtain ⟨node, _, placed⟩ := exists_of_bind_eq_ok inserted
  dsimp only at placed
  split at placed
  · obtain ⟨_, rfl⟩ := Prod.mk.inj (Except.ok.inj placed)
    exact Arena.Rewires.relink store id _
  · cases placed

/-- A redirection keeps the slots and the count. -/
theorem alike_redirect (table : Table Id) (store : Store) (position : Position Id)
    (next : Option Id) :
    table.Alike (table.redirect store position next).1 ∧
      (table.redirect store position next).1.count = table.count := by
  cases position with
  | head slot => exact ⟨⟨by simp [redirect, capacity], rfl⟩, rfl⟩
  | after before => exact ⟨.refl table, rfl⟩

/-- Every detachment finds nothing and changes nothing, or it keeps the slots and counts one payload
less. -/
theorem detach_cases {position : Position Id} {found : Option Id} {cut : Table Id} {unlinked : Store}
    (detached : table.detach store position = .ok (found, cut, unlinked)) :
    found = none ∧ cut = table ∧ unlinked = store ∨
      ∃ id, found = some id ∧ table.Alike cut ∧ cut.count + 1 = table.count := by
  obtain ⟨aimed, _, rest⟩ := exists_of_bind_eq_ok detached
  cases aimed with
  | none =>
      obtain ⟨rfl, rfl, rfl⟩ := by simpa using Except.ok.inj rest
      exact .inl ⟨rfl, rfl, rfl⟩
  | some id =>
      obtain ⟨node, _, last⟩ := exists_of_bind_eq_ok rest
      have redirected := table.alike_redirect store position node.link.next
      dsimp only at last
      generalize table.redirect store position node.link.next = moved at redirected last
      obtain ⟨⟨slots, mask, count⟩, left⟩ := moved
      obtain ⟨alike, counted⟩ := redirected
      cases count with
      | zero => exact nomatch last
      | succ count =>
          obtain ⟨rfl, rfl, _⟩ := by simpa using Except.ok.inj last
          exact .inr ⟨id, rfl, ⟨alike.capacity, alike.mask⟩, counted⟩

end IncrementalMap.Table
