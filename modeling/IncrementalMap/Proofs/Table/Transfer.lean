/-
This file proves what happens to the layouts of two tables when payloads move from one to the other.
-/

import IncrementalMap.Proofs.Table.Update
import IncrementalMap.Table.Transfer

namespace IncrementalMap.Table

/-- Two sound tables over one store share no payload. -/
structure SoundPair {Store Id Content : Type} [Arena Store Id Content]
    (source destination : Table Id) (store : Store) (leaving arriving : Layout Id) : Prop where
  soundSource : source.Sound store leaving
  soundDestination : destination.Sound store arriving
  apart : ∀ id ∈ leaving.ids source.capacity, id ∉ arriving.ids destination.capacity

namespace SoundPair

/-- The first payload of a slot moves to the front of its home in the other table. -/
theorem move {Store Id Content : Type} [Arena Store Id Content] [LawfulArena Store]
    {source destination : Table Id} {store : Store} {leaving arriving : Layout Id}
    (pair : SoundPair source destination store leaving arriving)
    (allocated : 0 < destination.capacity) {slot : Nat} {id : Id} {rest : List Id}
    (first : leaving slot = id :: rest) :
    ∃ cut unlinked grown linked,
      source.detach store (.head slot) = .ok (some id, cut, unlinked) ∧
      destination.insert unlinked id = .ok (grown, linked) ∧
      SoundPair cut grown linked (Function.update leaving slot rest)
        (arriving.push (destination.home store id) id) ∧
      source.Alike cut ∧ destination.Alike grown ∧ Arena.Rewires {id} store linked := by
  have splits : leaving slot = [] ++ id :: rest := first
  have leads : id ∈ leaving slot := by simp [first]
  have listed := pair.soundSource.mem_ids_of_mem leads
  have present := pair.soundSource.present listed
  have shrinks := Layout.ids_cut (pair.soundSource.lt_of_mem leads) splits
  have distinct := List.nodup_cons.1 (shrinks.nodup_iff.1 pair.soundSource.nodup)
  obtain ⟨cut, unlinked, detached, soundCut, alikeCut, unlinks, _⟩ :=
    pair.soundSource.detach splits
  have unlinksOne : Arena.Rewires {id} store unlinked := unlinks.mono (by simp)
  have soundRest := pair.soundDestination.rewire unlinksOne fun other member same =>
    pair.apart id listed (same ▸ member)
  obtain ⟨grown, linked, inserted, soundGrown, alikeGrown, links⟩ :=
    soundRest.insert allocated (unlinks.payloads.isSome id ▸ present) (pair.apart id listed)
  rw [(Alike.refl destination).home unlinks.payloads] at soundGrown
  have soundLeft := soundCut.rewire links fun other member same => by
    rw [alikeCut.capacity] at member
    exact distinct.1 (same ▸ member)
  have pushed := arriving.ids_push (home_lt pair.soundDestination.shaped allocated store id) id
  have apart : ∀ other ∈ Layout.ids (Function.update leaving slot rest) cut.capacity,
      other ∉ Layout.ids (arriving.push (destination.home store id) id) grown.capacity := by
    intro other member
    rw [alikeCut.capacity] at member
    rw [alikeGrown.capacity, pushed.mem_iff, List.mem_cons, not_or]
    constructor
    · rintro rfl
      exact distinct.1 member
    · exact pair.apart other (shrinks.mem_iff.2 (List.mem_cons_of_mem _ member))
  exact ⟨cut, unlinked, grown, linked, detached, inserted, ⟨soundLeft, soundGrown, apart⟩, alikeCut,
    alikeGrown, unlinksOne.trans links⟩

/-- One slot empties into the other table, where its payloads arrive from the front on. -/
theorem transferSlot {Store Id Content : Type} [Arena Store Id Content] [LawfulArena Store]
    {source destination : Table Id} {store : Store} {leaving arriving : Layout Id}
    (pair : SoundPair source destination store leaving arriving)
    (allocated : 0 < destination.capacity) (slot : Nat) {limit : Nat}
    (enough : (leaving slot).length < limit) :
    ∃ emptied filled linked,
      Table.transferSlot slot limit source destination store = .ok (emptied, filled, linked) ∧
      SoundPair emptied filled linked (Function.update leaving slot [])
        (arriving.pour (destination.home store) (leaving slot)) ∧
      source.Alike emptied ∧ destination.Alike filled ∧
      Arena.Rewires {id | id ∈ leaving slot} store linked := by
  generalize ids : leaving slot = chain at enough
  induction chain generalizing source destination store leaving arriving limit with
  | nil =>
      obtain ⟨limit, rfl⟩ := Nat.exists_eq_succ_of_ne_zero (Nat.ne_of_gt enough)
      have detached := ids ▸ pair.soundSource.detach_end slot
      rw [Position.following_nil] at detached
      have transferred : Table.transferSlot slot (limit + 1) source destination store =
          .ok (source, destination, store) := by
        simp [Table.transferSlot, detached, bind, Except.bind, pure, Except.pure]
      rw [← ids, Function.update_eq_self, ids, Layout.pour_nil]
      exact ⟨source, destination, store, transferred, pair, .refl source, .refl destination,
        .refl _ store⟩
  | cons id rest inductionHypothesis =>
      obtain ⟨limit, rfl⟩ := Nat.exists_eq_succ_of_ne_zero (Nat.ne_of_gt (Nat.zero_lt_of_lt enough))
      obtain ⟨cut, unlinked, grown, linked, detached, inserted, moved, alikeCut, alikeGrown,
        rewires⟩ := pair.move allocated ids
      obtain ⟨emptied, filled, final, transferred, paired, alikeEmptied, alikeFilled, rewired⟩ :=
        inductionHypothesis moved (alikeGrown.capacity ▸ allocated) (Function.update_self _ _ _)
          (Nat.lt_of_succ_lt_succ enough)
      have home : grown.home linked = destination.home store :=
        funext (alikeGrown.home rewires.payloads)
      rw [Function.update_idem, home, ← Layout.pour_cons] at paired
      have continued : Table.transferSlot slot (limit + 1) source destination store =
          .ok (emptied, filled, final) := by
        simp [Table.transferSlot, detached, inserted, transferred, bind, Except.bind]
      have first : Arena.Rewires {other | other ∈ id :: rest} store linked :=
        rewires.mono (by simp)
      have others : Arena.Rewires {other | other ∈ id :: rest} linked final :=
        rewired.mono fun other member => List.mem_cons_of_mem _ member
      exact ⟨emptied, filled, final, continued, paired, alikeCut.trans alikeEmptied,
        alikeGrown.trans alikeFilled, first.trans others⟩

/-- The slots below a bound empty one after the other. -/
theorem transferBelow {Store Id Content : Type} [Arena Store Id Content] [LawfulArena Store]
    {source destination : Table Id} {store : Store} {leaving arriving : Layout Id}
    (pair : SoundPair source destination store leaving arriving)
    (allocated : 0 < destination.capacity) {bound : Nat} (within : bound ≤ source.capacity) :
    ∃ emptied filled linked,
      (List.range bound).foldlM
          (fun (source, destination, store) slot =>
            Table.transferSlot slot (source.count + 1) source destination store)
          (source, destination, store) = .ok (emptied, filled, linked) ∧
      SoundPair emptied filled linked (leaving.clearBelow bound)
        (arriving.pour (destination.home store) (leaving.ids bound)) ∧
      source.Alike emptied ∧ destination.Alike filled ∧
      Arena.Rewires {id | id ∈ leaving.ids bound} store linked := by
  induction bound with
  | zero =>
      have unchanged : SoundPair source destination store (leaving.clearBelow 0)
          (arriving.pour (destination.home store) (leaving.ids 0)) := by simpa using pair
      exact ⟨source, destination, store, rfl, unchanged, .refl source, .refl destination,
        .refl _ store⟩
  | succ bound inductionHypothesis =>
      obtain ⟨emptied, filled, linked, folded, paired, alikeEmptied, alikeFilled, rewires⟩ :=
        inductionHypothesis (Nat.le_of_succ_le within)
      have enough : (leaving.clearBelow bound bound).length < emptied.count + 1 := by
        obtain ⟨after, splits, _⟩ :=
          (leaving.clearBelow bound).ids_split (alikeEmptied.capacity ▸ within : bound < _)
        rw [paired.soundSource.counted, splits]
        simp only [List.length_append]
        omega
      obtain ⟨last, full, final, transferred, done, alikeLast, alikeFull, rewired⟩ :=
        paired.transferSlot (alikeFilled.capacity ▸ allocated) bound enough
      have home : filled.home linked = destination.home store :=
        funext (alikeFilled.home rewires.payloads)
      rw [Layout.clearBelow_self] at rewired
      rw [Layout.clearBelow_self, home, ← Layout.pour_append, ← Layout.ids_succ,
        ← Layout.clearBelow_succ] at done
      have rewiresBoth : Arena.Rewires {id | id ∈ leaving.ids (bound + 1)} store final := by
        rw [Layout.ids_succ]
        exact (rewires.mono fun _ => List.mem_append_left _).trans
          (rewired.mono fun _ => List.mem_append_right _)
      refine ⟨last, full, final, ?_, done, alikeEmptied.trans alikeLast,
        alikeFilled.trans alikeFull, rewiresBoth⟩
      rw [List.range_succ, List.foldlM_append, folded]
      simp [transferred, bind, Except.bind, pure, Except.pure]

/-- A transfer empties the source and pours its payloads into the destination in their order. -/
theorem transfer {Store Id Content : Type} [Arena Store Id Content] [LawfulArena Store]
    {source destination : Table Id} {store : Store} {leaving arriving : Layout Id}
    (pair : SoundPair source destination store leaving arriving)
    (allocated : 0 < destination.capacity) :
    ∃ emptied filled linked,
      source.transfer destination store = .ok (emptied, filled, linked) ∧
      SoundPair emptied filled linked Layout.blank
        (arriving.pour (destination.home store) (leaving.ids source.capacity)) ∧
      source.Alike emptied ∧ destination.Alike filled ∧
      Arena.Rewires {id | id ∈ leaving.ids source.capacity} store linked := by
  have cleared : leaving.clearBelow source.capacity = Layout.blank := by
    funext slot
    rw [Layout.clearBelow]
    split <;> rename_i inRange
    · rfl
    · exact pair.soundSource.outside (Nat.le_of_not_lt inRange)
  rw [← cleared]
  exact pair.transferBelow allocated (Nat.le_refl _)

end SoundPair

variable {Store Id Content : Type} [Arena Store Id Content] {source destination : Table Id}
  {store : Store}

/-- A table is poured into another one when the first payloads of its slots are moved, one after the
other. -/
inductive Pours (source destination : Table Id) (store : Store) :
    Table Id → Table Id → Store → Prop where
  | start : Pours source destination store source destination store
  | payload {rest filled cut grown : Table Id} {linked unlinked final : Store} {slot : Nat} {id : Id}
      (earlier : Pours source destination store rest filled linked)
      (detached : rest.detach linked (.head slot) = .ok (some id, cut, unlinked))
      (inserted : filled.insert unlinked id = .ok (grown, final)) :
      Pours source destination store cut grown final

namespace Pours

variable {rest filled : Table Id} {linked : Store}

/-- Both tables keep their slots, and together they count the same payloads. -/
theorem counts (pours : Pours source destination store rest filled linked) :
    source.Alike rest ∧ destination.Alike filled ∧
      rest.count + filled.count = source.count + destination.count := by
  induction pours with
  | start => exact ⟨.refl source, .refl destination, rfl⟩
  | payload earlier detached inserted inductionHypothesis =>
      obtain ⟨alikeSource, alikeDestination, total⟩ := inductionHypothesis
      obtain ⟨alikeGrown, grown⟩ := alike_of_insert inserted
      obtain ⟨nothing, _⟩ | ⟨_, _, alikeCut, cut⟩ := detach_cases detached
      · exact nomatch nothing
      · exact ⟨alikeSource.trans alikeCut, alikeDestination.trans alikeGrown, by omega⟩

/-- The transfer of a slot goes on with the pouring. -/
theorem of_transferSlot (pours : Pours source destination store rest filled linked)
    {slot limit : Nat} {emptied full : Table Id} {final : Store}
    (transferred : transferSlot slot limit rest filled linked = .ok (emptied, full, final)) :
    Pours source destination store emptied full final := by
  induction limit generalizing rest filled linked with
  | zero => exact nomatch transferred
  | succ limit inductionHypothesis =>
      rw [transferSlot] at transferred
      obtain ⟨⟨found, cut, unlinked⟩, detached, others⟩ := exists_of_bind_eq_ok transferred
      cases found with
      | none =>
          obtain ⟨rfl, rfl, rfl⟩ := by simpa using Except.ok.inj others
          obtain ⟨_, rfl, rfl⟩ | ⟨_, something, _⟩ := detach_cases detached
          · exact pours
          · exact nomatch something
      | some id =>
          obtain ⟨⟨grown, placed⟩, inserted, later⟩ := exists_of_bind_eq_ok others
          exact inductionHypothesis (pours.payload detached inserted) later

/-- A transfer is a pouring. -/
theorem of_transfer {emptied full : Table Id} {final : Store}
    (transferred : source.transfer destination store = .ok (emptied, full, final)) :
    Pours source destination store emptied full final := by
  refine foldlM_induction (motive := fun state =>
    Pours source destination store state.1 state.2.1 state.2.2) ?_ .start transferred
  intro state slot next poured round
  exact of_transferSlot poured round

end Pours

end IncrementalMap.Table
