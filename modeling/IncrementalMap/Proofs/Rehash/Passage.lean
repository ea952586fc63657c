/-
This file follows the scans of a step, round by round.
-/

import IncrementalMap.Proofs.Rehash.Step

namespace IncrementalMap.Rehash

variable {Store Id Content : Type} [Arena Store Id Content] {rehash : Rehash Id} {store : Store}

/-- A round reads the slot under the cursor and finds its first payload, or nothing. -/
structure Round (Id : Type) where
  slot : Nat
  found : Option Id
  deriving DecidableEq

/-- The rounds follow each other without a limit on their number, until the work is done or nothing is
left. -/
inductive Rounds (work : Nat) :
    Nat → Rehash Id → Store → List (Round Id) → Nat → Rehash Id → Store → Prop where
  | done {moved : Nat} {rehash : Rehash Id} {store : Store}
      (ended : ¬(moved < work ∧ rehash.older.count ≠ 0)) :
      Rounds work moved rehash store [] moved rehash store
  | round {moved total : Nat} {rehash between after : Rehash Id} {store linked final : Store}
      {found : Option Id} {trail : List (Round Id)}
      (busy : moved < work ∧ rehash.older.count ≠ 0)
      (scanned : rehash.scan store = .ok (found, between, linked))
      (others : Rounds work (moved + if found.isSome then 1 else 0) between linked trail total
        after final) :
      Rounds work moved rehash store (⟨rehash.cursor, found⟩ :: trail) total after final

namespace Rounds

variable {work moved total : Nat} {trail : List (Round Id)} {after : Rehash Id} {final : Store}

/-- The loop of a step is made of its rounds, and its limit bounds their number. -/
theorem of_scanUpTo {limit : Nat}
    (scanned : rehash.scanUpTo work limit moved store = .ok (total, after, final)) :
    ∃ trail, Rounds work moved rehash store trail total after final ∧ trail.length ≤ limit := by
  induction limit generalizing rehash store moved with
  | zero =>
      rw [scanUpTo] at scanned
      split at scanned <;> rename_i busy
      · cases scanned
      · obtain ⟨rfl, rfl, rfl⟩ := by simpa using Except.ok.inj scanned
        exact ⟨[], .done busy, Nat.le_refl 0⟩
  | succ limit inductionHypothesis =>
      rw [scanUpTo] at scanned
      split at scanned <;> rename_i busy
      · obtain ⟨⟨found, between, linked⟩, first, others⟩ := exists_of_bind_eq_ok scanned
        have onward : between.scanUpTo work limit (moved + if found.isSome then 1 else 0) linked =
            .ok (total, after, final) := by
          cases found <;> exact others
        obtain ⟨trail, rounds, few⟩ := inductionHypothesis onward
        exact ⟨_ :: trail, .round busy first rounds, Nat.succ_le_succ few⟩
      · obtain ⟨rfl, rfl, rfl⟩ := by simpa using Except.ok.inj scanned
        exact ⟨[], .done busy, Nat.zero_le _⟩

/-- Any limit that the number of rounds keeps lets the loop end as they do. -/
theorem scanUpTo (rounds : Rounds work moved rehash store trail total after final) {limit : Nat}
    (few : trail.length ≤ limit) :
    rehash.scanUpTo work limit moved store = .ok (total, after, final) := by
  induction rounds generalizing limit with
  | done ended =>
      rw [Rehash.scanUpTo.eq_def]
      exact if_neg ended
  | @round moved total rehash between after store linked final found trail busy scanned others
      inductionHypothesis =>
      obtain ⟨limit, rfl⟩ := Nat.exists_eq_add_one.2 (Nat.zero_lt_of_lt few)
      have onward := inductionHypothesis (Nat.le_of_succ_le_succ few)
      rw [Rehash.scanUpTo, if_pos busy, scanned, ok_bind]
      cases found <;> exact onward

end Rounds

/-- The scans of one step go on while there is work to do and a payload to move. -/
inductive Scans (work : Nat) (rehash : Rehash Id) (store : Store) :
    Nat → Rehash Id → Store → Prop where
  | start : Scans work rehash store 0 rehash store
  | scan {moved : Nat} {before after : Rehash Id} {linked final : Store} {found : Option Id}
      (earlier : Scans work rehash store moved before linked)
      (busy : moved < work ∧ before.older.count ≠ 0)
      (scanned : before.scan linked = .ok (found, after, final)) :
      Scans work rehash store (moved + if found.isSome then 1 else 0) after final

/-- A rehash is on track when it is sound and its cursor has not left the older table. -/
structure OnTrack (rehash : Rehash Id) (store : Store) : Prop where
  sound : ∃ newer older, rehash.Sound store newer older
  cursor : rehash.cursor ≤ rehash.older.capacity

/-- A rehash whose cursor is reset between episodes is on track as soon as it is sound and
settled. -/
theorem Sound.onTrack {newer older : Layout Id} (sound : rehash.Sound store newer older)
    (settled : rehash.Settled) : rehash.OnTrack store := by
  refine ⟨⟨newer, older, sound⟩, ?_⟩
  rcases settled with idle | ⟨_, counted⟩
  · rw [idle]
    exact Nat.zero_le _
  · exact Nat.le_of_lt (sound.cursor_lt (Nat.ne_of_gt counted))

namespace OnTrack

/-- Giving up an empty older table resets the cursor. -/
theorem release (track : rehash.OnTrack store) : rehash.release.1.OnTrack store := by
  obtain ⟨⟨newer, older, sound⟩, cursor⟩ := track
  obtain ⟨drained, released, _, _⟩ := sound.release
  refine ⟨⟨newer, drained, released⟩, ?_⟩
  rw [Rehash.release]
  split
  · exact Nat.zero_le _
  · exact cursor

/-- A scan of a table that holds a payload stays on track. -/
theorem scan [LawfulArena Store] (track : rehash.OnTrack store) (left : rehash.older.count ≠ 0)
    {found : Option Id} {after : Rehash Id} {linked : Store}
    (scanned : rehash.scan store = .ok (found, after, linked)) :
    after.OnTrack linked ∧ Arena.SamePayloads store linked := by
  obtain ⟨⟨newer, older, sound⟩, cursor⟩ := track
  have inRange := sound.cursor_lt left
  cases chain : older rehash.cursor with
  | nil =>
      obtain ⟨passed, soundNext⟩ := sound.scan_empty chain
      obtain ⟨rfl, rfl, rfl⟩ := by simpa using Except.ok.inj (passed.symm.trans scanned)
      exact ⟨⟨⟨newer, older, soundNext⟩, inRange⟩, .refl store⟩
  | cons id rest =>
      obtain ⟨grown, cut, moved, taken, soundNext, _, alikeCut, rewires⟩ := sound.scan_first chain
      obtain ⟨rfl, rfl, rfl⟩ := by simpa using Except.ok.inj (taken.symm.trans scanned)
      have still : rehash.cursor ≤ cut.capacity := alikeCut.capacity ▸ cursor
      exact ⟨⟨⟨_, _, soundNext⟩, still⟩, rewires.payloads⟩

/-- All scans of a step stay on track. -/
theorem scans [LawfulArena Store] (track : rehash.OnTrack store) {work moved : Nat}
    {after : Rehash Id} {linked : Store} (scans : rehash.Scans work store moved after linked) :
    after.OnTrack linked ∧ Arena.SamePayloads store linked := by
  induction scans with
  | start => exact ⟨track, .refl store⟩
  | scan earlier busy scanned inductionHypothesis =>
      obtain ⟨between, payloads⟩ := inductionHypothesis
      obtain ⟨onward, moved⟩ := between.scan busy.2 scanned
      exact ⟨onward, payloads.trans moved⟩

end OnTrack

/-- The loop of a step is made of its scans. -/
theorem Scans.of_scanUpTo {work moved limit total : Nat} {before after : Rehash Id}
    {linked final : Store} (scans : rehash.Scans work store moved before linked)
    (scanned : before.scanUpTo work limit moved linked = .ok (total, after, final)) :
    rehash.Scans work store total after final := by
  obtain ⟨trail, rounds, -⟩ := Rounds.of_scanUpTo scanned
  clear scanned
  induction rounds with
  | done ended => exact scans
  | round busy scanned others inductionHypothesis =>
      exact inductionHypothesis (scans.scan busy scanned)

/-- A step makes its scans and gives up an older table that they have emptied. -/
theorem OnTrack.step [LawfulArena Store] (track : rehash.OnTrack store) {work : Nat}
    {outcome : Outcome (Rehash Id) Store Nat} (stepped : rehash.step store work = .ok outcome) :
    outcome.state.OnTrack outcome.store ∧ Arena.SamePayloads store outcome.store := by
  rw [Rehash.step] at stepped
  split at stepped
  · obtain ⟨⟨moved, after, linked⟩, scanned, last⟩ := exists_of_bind_eq_ok stepped
    obtain rfl := Except.ok.inj last
    obtain ⟨onward, payloads⟩ := track.scans (Scans.start.of_scanUpTo scanned)
    exact ⟨onward.release, payloads⟩
  · obtain rfl := Except.ok.inj stepped
    exact ⟨track, .refl store⟩

end IncrementalMap.Rehash
