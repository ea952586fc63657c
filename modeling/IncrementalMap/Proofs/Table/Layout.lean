/-
This file handles the chains of a table as plain lists, without the links that carry them.
-/

import Mathlib.Tactic

namespace IncrementalMap

/-- A layout lists the ids of each slot in chain order. -/
abbrev Layout (Id : Type) := Nat → List Id

namespace Layout

/-- The blank layout has no payload. -/
def blank {Id : Type} : Layout Id := fun _ => []

/-- These are the ids of the first slots, in slot order and then in chain order. -/
def ids {Id : Type} (layout : Layout Id) (capacity : Nat) : List Id :=
  (List.range capacity).flatMap layout

/-- A new payload comes first in its slot. -/
def push {Id : Type} (layout : Layout Id) (slot : Nat) (id : Id) : Layout Id :=
  Function.update layout slot (id :: layout slot)

/-- Payloads that arrive one after the other end up in front of their slots in reverse order. -/
def pour {Id : Type} (layout : Layout Id) (home : Id → Nat) (arrivals : List Id) : Layout Id :=
  fun slot => (arrivals.filter fun id => home id = slot).reverse ++ layout slot

/-- The slots below a bound are emptied. -/
def clearBelow {Id : Type} (layout : Layout Id) (bound : Nat) : Layout Id :=
  fun slot => if slot < bound then [] else layout slot

@[simp] theorem clearBelow_zero {Id : Type} (layout : Layout Id) : layout.clearBelow 0 = layout :=
  rfl

@[simp] theorem clearBelow_self {Id : Type} (layout : Layout Id) (slot : Nat) :
    layout.clearBelow slot slot = layout slot :=
  if_neg (Nat.lt_irrefl slot)

theorem clearBelow_succ {Id : Type} (layout : Layout Id) (bound : Nat) :
    layout.clearBelow (bound + 1) = Function.update (layout.clearBelow bound) bound [] := by
  funext slot
  rcases Nat.lt_trichotomy slot bound with below | rfl | above
  · simp [clearBelow, below, Nat.lt_succ_of_lt below, Function.update_of_ne (Nat.ne_of_lt below)]
  · simp [clearBelow]
  · simp [clearBelow, Nat.not_lt_of_gt above, Function.update_of_ne (Nat.ne_of_gt above),
      Nat.not_lt_of_ge above]

@[simp] theorem ids_zero {Id : Type} (layout : Layout Id) : layout.ids 0 = [] := rfl

theorem ids_succ {Id : Type} (layout : Layout Id) (capacity : Nat) :
    layout.ids (capacity + 1) = layout.ids capacity ++ layout capacity := by
  simp [ids, List.range_succ]

@[simp] theorem ids_blank {Id : Type} (capacity : Nat) :
    (blank : Layout Id).ids capacity = [] := by
  simp [ids, blank]

theorem mem_ids {Id : Type} {layout : Layout Id} {capacity : Nat} {id : Id} :
    id ∈ layout.ids capacity ↔ ∃ slot, slot < capacity ∧ id ∈ layout slot := by
  simp [ids]

theorem ids_eq_nil {Id : Type} {layout : Layout Id} {capacity : Nat}
    (empty : ∀ slot, slot < capacity → layout slot = []) : layout.ids capacity = [] := by
  simpa [ids] using empty

/-- The slots that are listed determine the ids. -/
theorem ids_congr {Id : Type} {first second : Layout Id} {capacity : Nat}
    (same : ∀ slot, slot < capacity → first slot = second slot) :
    first.ids capacity = second.ids capacity :=
  List.flatMap_congr fun slot member => same slot (List.mem_range.1 member)

/-- The ids surround the chain of one slot, whatever this chain is. -/
theorem ids_split {Id : Type} (layout : Layout Id) {slot capacity : Nat}
    (inRange : slot < capacity) :
    ∃ after, layout.ids capacity = layout.ids slot ++ layout slot ++ after ∧
      ∀ chain, ids (Function.update layout slot chain) capacity =
        layout.ids slot ++ chain ++ after := by
  induction capacity with
  | zero => contradiction
  | succ capacity inductionHypothesis =>
      rcases Nat.lt_succ_iff_lt_or_eq.1 inRange with earlier | rfl
      · obtain ⟨after, before, changed⟩ := inductionHypothesis earlier
        refine ⟨after ++ layout capacity, ?_, ?_⟩
        · rw [ids_succ, before, List.append_assoc]
        · intro chain
          rw [ids_succ, changed, Function.update_of_ne (Nat.ne_of_gt earlier), List.append_assoc]
      · refine ⟨[], by rw [ids_succ, List.append_nil], ?_⟩
        intro chain
        rw [ids_succ, Function.update_self, List.append_nil]
        apply congrArg (· ++ chain)
        apply ids_congr
        intro other below
        exact Function.update_of_ne (Nat.ne_of_lt below) _ _

/-- A push adds one id. -/
theorem ids_push {Id : Type} (layout : Layout Id) {slot capacity : Nat}
    (inRange : slot < capacity) (id : Id) :
    (ids (layout.push slot id) capacity).Perm (id :: layout.ids capacity) := by
  obtain ⟨after, before, changed⟩ := layout.ids_split inRange
  rw [push, changed, before]
  simp

/-- A payload that splits a chain is in it. -/
theorem mem_of_splits {Id : Type} {layout : Layout Id} {slot : Nat} {front rest : List Id} {id : Id}
    (splits : layout slot = front ++ id :: rest) : id ∈ layout slot := by
  simp [splits]

/-- Cutting a payload out of its chain removes one id. -/
theorem ids_cut {Id : Type} {layout : Layout Id} {slot capacity : Nat}
    (inRange : slot < capacity) {front rest : List Id} {id : Id}
    (splits : layout slot = front ++ id :: rest) :
    (layout.ids capacity).Perm
      (id :: ids (Function.update layout slot (front ++ rest)) capacity) := by
  obtain ⟨after, before, changed⟩ := layout.ids_split inRange
  rw [changed, before, splits]
  simpa using (List.perm_middle : (layout.ids slot ++ front ++ id :: (rest ++ after)).Perm _)

/-- Cutting a payload out of its chain keeps the order of the other ids. -/
theorem ids_erase {Id : Type} [DecidableEq Id] {layout : Layout Id} {slot capacity : Nat}
    (inRange : slot < capacity) (distinct : (layout.ids capacity).Nodup) {front rest : List Id}
    {id : Id} (splits : layout slot = front ++ id :: rest) :
    ids (Function.update layout slot (front ++ rest)) capacity = (layout.ids capacity).erase id := by
  obtain ⟨after, before, changed⟩ := layout.ids_split inRange
  have listed : layout.ids capacity = (layout.ids slot ++ front) ++ id :: (rest ++ after) := by
    rw [before, splits]
    simp
  have fresh : id ∉ layout.ids slot ++ front := by
    rw [listed, List.nodup_middle, List.nodup_cons, List.mem_append, not_or] at distinct
    exact distinct.1.1
  rw [changed, listed, List.erase_append_right _ fresh, List.erase_cons_head]
  simp

/-- The first id is the first payload of the first slot that is not empty. -/
theorem ids_first {Id : Type} {layout : Layout Id} {slot capacity : Nat}
    (inRange : slot < capacity) (empty : ∀ below, below < slot → layout below = []) {id : Id}
    {rest : List Id} (first : layout slot = id :: rest) :
    layout.ids capacity = id :: ids (Function.update layout slot rest) capacity := by
  obtain ⟨after, before, changed⟩ := layout.ids_split inRange
  rw [changed, before, ids_eq_nil empty, first]
  rfl

@[simp] theorem pour_nil {Id : Type} (layout : Layout Id) (home : Id → Nat) :
    layout.pour home [] = layout := by
  funext slot
  simp [pour]

/-- The first arrival is pushed before the others. -/
theorem pour_cons {Id : Type} (layout : Layout Id) (home : Id → Nat) (id : Id)
    (arrivals : List Id) :
    layout.pour home (id :: arrivals) = (layout.push (home id) id).pour home arrivals := by
  funext slot
  by_cases here : home id = slot
  · subst here
    simp [pour, push]
  · simp [pour, push, here, Function.update_of_ne (Ne.symm here)]

/-- Two arrivals in a row are one arrival. -/
theorem pour_append {Id : Type} (layout : Layout Id) (home : Id → Nat) (first second : List Id) :
    layout.pour home (first ++ second) = (layout.pour home first).pour home second := by
  funext slot
  simp [pour]

/-- Every arrival becomes one of the ids. -/
theorem ids_pour {Id : Type} (layout : Layout Id) {home : Id → Nat} {capacity : Nat}
    {arrivals : List Id} (inRange : ∀ id ∈ arrivals, home id < capacity) :
    (ids (layout.pour home arrivals) capacity).Perm (arrivals ++ layout.ids capacity) := by
  induction arrivals generalizing layout with
  | nil => simp
  | cons id arrivals inductionHypothesis =>
      rw [pour_cons]
      have poured := inductionHypothesis (layout.push (home id) id) fun other member =>
        inRange other (by simp [member])
      have pushed := (layout.ids_push (inRange id (by simp)) id).append_left arrivals
      exact (poured.trans pushed).trans List.perm_middle

/-- A blank layout has the arrivals and nothing else. -/
theorem ids_pour_blank {Id : Type} {home : Id → Nat} {capacity : Nat} {arrivals : List Id}
    (inRange : ∀ id ∈ arrivals, home id < capacity) :
    (ids (Layout.blank.pour home arrivals) capacity).Perm arrivals := by
  have poured := Layout.blank.ids_pour inRange
  rwa [ids_blank, List.append_nil] at poured

end Layout

end IncrementalMap
