/-
This file proves that an episode is swept once, however it is cut into steps and whatever is detached
between them.
-/

import IncrementalMap.Proofs.Rehash.Rounds
import IncrementalMap.Proofs.Run.Ledger
import IncrementalMap.Proofs.Table.Handover

namespace IncrementalMap

variable {Store Id Content : Type} [Arena Store Id Content]

namespace Rehash.Operation

/-- The rounds of an operation are those of its step, if it makes one. -/
def Sweeps (operation : Operation Id) (ledger : Ledger Store Id) (trail : List (Round Id)) : Prop :=
  match operation with
  | .step work => ∃ outcome, ledger.rehash.Sweeps ledger.store work trail outcome
  | .drain => ∃ outcome, ledger.rehash.Sweeps ledger.store wordLimit trail outcome
  | _ => trail = []

variable [DecidableEq Id] {operation : Operation Id} {ledger after : Ledger Store Id}

/-- Every operation that returns has made its rounds. -/
theorem exists_sweeps (performed : operation.perform ledger = .ok after) :
    ∃ trail, operation.Sweeps ledger trail := by
  cases operation with
  | step work | drain =>
      obtain ⟨outcome, stepped, _⟩ := exists_of_bind_eq_ok performed
      obtain ⟨trail, sweeps⟩ := Rehash.Sweeps.of_step stepped
      exact ⟨trail, outcome, sweeps⟩
  | _ => exact ⟨[], rfl⟩

/-- An operation opens an episode on the slots of the former newer table, or the episode proceeds
along the rounds of the operation. -/
theorem opens_or_proceeds [LawfulArena Store] (track : ledger.rehash.OnTrack ledger.store)
    (legal : operation.Legal ledger) (performed : operation.perform ledger = .ok after)
    {trail : List (Round Id)} (sweeps : operation.Sweeps ledger trail) :
    ledger.rehash.isActive = false ∧ after.rehash.older = ledger.rehash.newer ∧
        after.rehash.cursor = 0 ∨
      ledger.rehash.Proceeds trail after.rehash := by
  have inside := track.cursor
  have rests : ledger.rehash.Proceeds [] ledger.rehash :=
    .rest inside rfl (.refl _) (Nat.le_refl _)
  cases operation with
  | insert id =>
      obtain ⟨⟨grown, linked⟩, _, rest⟩ := exists_of_bind_eq_ok performed
      obtain rfl := Except.ok.inj rest
      obtain rfl := sweeps
      exact .inr (.rest inside rfl (.refl _) (Nat.le_refl _))
  | start fresh =>
      obtain rfl := Except.ok.inj performed
      exact .inl ⟨legal.1, rfl, rfl⟩
  | grow allocator target =>
      obtain rfl := Except.ok.inj performed
      obtain rfl := sweeps
      dsimp only
      rw [Rehash.grow]
      split <;> rename_i active
      · exact .inr rests
      · split
        · exact .inl ⟨Bool.eq_false_of_not_eq_true active, rfl, rfl⟩
        · exact .inr rests
  | step work | drain =>
      obtain ⟨outcome, stepped, rest⟩ := exists_of_bind_eq_ok performed
      obtain rfl := Except.ok.inj rest
      obtain ⟨swept, sweeps⟩ := sweeps
      have same := (track.bounded sweeps).step sweeps
      obtain rfl := Except.ok.inj (stepped.symm.trans same)
      exact .inr (track.proceeds sweeps)
  | release =>
      obtain rfl := Except.ok.inj performed
      obtain rfl := sweeps
      exact .inr rests.release
  | detach side position =>
      obtain ⟨⟨found, cut, unlinked⟩, detached, rest⟩ := exists_of_bind_eq_ok performed
      obtain rfl := Except.ok.inj rest
      obtain rfl := sweeps
      exact .inr (.detach inside detached)
  | abandon =>
      obtain rfl := Except.ok.inj performed
      obtain rfl := sweeps
      exact .inr (rests.idle ledger.rehash.newer)

end Rehash.Operation

namespace Ledger

variable [DecidableEq Id]

/-- A ledger stems from any two well-formed tables, with nothing left behind the cursor, through legal
operations. -/
inductive Stems : Ledger Store Id → Prop where
  | founded {rehash : Rehash Id} {store : Store} {newer older : Layout Id}
      (sound : rehash.Sound store newer older) (cursor : rehash.cursor ≤ rehash.older.capacity) :
      Stems ⟨rehash, store, [], [], (rehash.ids newer older).toFinset⟩
  | operated {ledger after : Ledger Store Id} (earlier : Stems ledger)
      (operation : Rehash.Operation Id) (legal : operation.Legal ledger)
      (performed : operation.perform ledger = .ok after) : Stems after

/-- A tour follows an episode through legal operations as long as it goes on, and notes the rounds of
all its steps. -/
inductive Tours (begun : Ledger Store Id) : List (Rehash.Round Id) → Ledger Store Id → Prop where
  | begun : Tours begun [] begun
  | operated {trail rounds : List (Rehash.Round Id)} {ledger after : Ledger Store Id}
      (earlier : Tours begun trail ledger) (running : ledger.rehash.isActive = true)
      (operation : Rehash.Operation Id) (legal : operation.Legal ledger)
      (performed : operation.perform ledger = .ok after)
      (sweeps : operation.Sweeps ledger rounds) : Tours begun (trail ++ rounds) after

/-- An episode that is swept within a bound makes no more rounds than this on any tour, and reads no
slot again that a round has passed. -/
def SweptWithin (begun : Ledger Store Id) (bound : Nat) : Prop :=
  ∀ trail after, begun.Tours trail after →
    trail.length ≤ bound ∧ trail.Pairwise fun earlier later => earlier.next ≤ later.slot

namespace Stems

variable [LawfulArena Store] {ledger : Ledger Store Id}

/-- A ledger that stems from well-formed tables is sound. -/
theorem sound (stems : ledger.Stems) :
    ∃ newer older handed, ledger.Sound newer older handed := by
  induction stems with
  | @founded rehash store newer older sound cursor =>
      refine ⟨newer, older, [], sound, cursor, .nil, ?_, ?_⟩
      · simpa [account] using sound.nodup
      · simp [account]
  | operated earlier operation legal performed inductionHypothesis =>
      obtain ⟨newer, older, handed, sound⟩ := inductionHypothesis
      obtain ⟨after, returned, kept⟩ := sound.perform legal
      rwa [Except.ok.inj (performed.symm.trans returned)]

/-- Its cursor has not left the older table. -/
theorem onTrack (stems : ledger.Stems) : ledger.rehash.OnTrack ledger.store := by
  obtain ⟨newer, older, _, sound⟩ := stems.sound
  exact ⟨⟨newer, older, sound.tables⟩, sound.cursor⟩

/-- The episode of a tour proceeds along the rounds that the tour notes. -/
theorem proceeds (stems : ledger.Stems) {trail : List (Rehash.Round Id)} {after : Ledger Store Id}
    (tours : ledger.Tours trail after) : after.Stems ∧ ledger.rehash.Proceeds trail after.rehash := by
  induction tours with
  | begun => exact ⟨stems, .rest stems.onTrack.cursor rfl (.refl _) (Nat.le_refl _)⟩
  | operated earlier running operation legal performed sweeps inductionHypothesis =>
      obtain ⟨between, proceeds⟩ := inductionHypothesis
      refine ⟨between.operated operation legal performed, ?_⟩
      rcases operation.opens_or_proceeds between.onTrack legal performed sweeps with
        ⟨inactive, _⟩ | onward
      · rw [running] at inactive
        cases inactive
      · exact proceeds.trans running onward

/-- From here on the episode moves the payloads that are left and passes the slots from the cursor on,
once each. -/
theorem sweptWithin (stems : ledger.Stems) : ledger.SweptWithin
    (ledger.rehash.older.count + (ledger.rehash.older.capacity - ledger.rehash.cursor)) := by
  intro trail after tours
  have proceeds := (stems.proceeds tours).2
  obtain ⟨finish, leads, _⟩ := proceeds.leads
  exact ⟨proceeds.length_le, leads.ordered⟩

/-- An operation with which an episode begins has taken the newer table for the older one. -/
theorem opens (stems : ledger.Stems) {operation : Rehash.Operation Id} {begun : Ledger Store Id}
    (legal : operation.Legal ledger) (performed : operation.perform ledger = .ok begun)
    (inactive : ledger.rehash.isActive = false) (running : begun.rehash.isActive = true) :
    begun.rehash.older = ledger.rehash.newer ∧ begun.rehash.cursor = 0 := by
  obtain ⟨trail, sweeps⟩ := Rehash.Operation.exists_sweeps performed
  rcases operation.opens_or_proceeds stems.onTrack legal performed sweeps with
    ⟨_, older, cursor⟩ | proceeds
  · exact ⟨older, cursor⟩
  · have slots := proceeds.capacity running
    rw [Rehash.isActive_iff, slots, ← Rehash.isActive_iff, inactive] at running
    cases running

/-- In every state that stems from well-formed tables, the loop of a step ends for every work, within
the payloads that it may move and the slots from the cursor on, and never leaves the last occupied
slot behind. All steps of an episode together make at most as many rounds as the episode had payloads
and slots when it began. -/
theorem sweeps_once (stems : ledger.Stems) :
    (∀ work, (∃ trail outcome, ledger.rehash.Sweeps ledger.store work trail outcome) ∧
      ∀ trail outcome, ledger.rehash.Sweeps ledger.store work trail outcome →
        ledger.rehash.step ledger.store work = .ok outcome ∧ ledger.rehash.Bounded work trail) ∧
    ledger.SweptWithin
      (ledger.rehash.older.count + (ledger.rehash.older.capacity - ledger.rehash.cursor)) ∧
    ∀ (operation : Rehash.Operation Id) (begun : Ledger Store Id), operation.Legal ledger →
      operation.perform ledger = .ok begun → ledger.rehash.isActive = false →
      begun.rehash.isActive = true →
        begun.SweptWithin (ledger.rehash.newer.count + ledger.rehash.newer.capacity) := by
  have track := stems.onTrack
  refine ⟨?_, stems.sweptWithin, ?_⟩
  · intro work
    constructor
    · obtain ⟨⟨newer, older, sound⟩, _⟩ := track
      obtain ⟨outcome, _, stepped, _⟩ := sound.step work
      obtain ⟨trail, sweeps⟩ := Rehash.Sweeps.of_step stepped
      exact ⟨trail, outcome, sweeps⟩
    · intro trail outcome sweeps
      have bounded := track.bounded sweeps
      exact ⟨bounded.step sweeps, bounded⟩
  · intro operation begun legal performed inactive running
    obtain ⟨older, cursor⟩ := stems.opens legal performed inactive running
    have within := (stems.operated operation legal performed).sweptWithin
    rwa [older, cursor, Nat.sub_zero] at within

/-- An episode that begins with four payloads in four slots has eight rounds at most. It makes five
when one payload is detached on the way. -/
theorem sweeps_once_five :
    ∃ (ledger begun after : Ledger (IndexedArena Char) Nat) (trail : List (Rehash.Round Nat)),
      ledger.Stems ∧ ledger.rehash.isActive = false ∧ begun.rehash.isActive = true ∧
        begun.Tours trail after ∧ after.loose = [0] ∧ after.rehash.isActive = false ∧
        trail = [⟨0, none⟩, ⟨1, some 2⟩, ⟨1, some 1⟩, ⟨1, none⟩, ⟨2, some 3⟩] ∧
        trail.length ≤ 4 + 4 ∧ trail.Pairwise fun earlier later => earlier.next ≤ later.slot := by
  have stems : Stems (⟨.idle .four, IndexedArena.five, [], [], {2, 1, 0, 3}⟩ : Ledger _ Nat) :=
    .founded (.idle Table.SoundPair.four_two.soundSource) (Nat.le_refl _)
  have stepped : Tours (⟨⟨.blank 8, .four, 0⟩, IndexedArena.five, [], [], {2, 1, 0, 3}⟩ : Ledger _ Nat)
      [⟨0, none⟩, ⟨1, some 2⟩, ⟨1, some 1⟩]
      ⟨⟨⟨#[none, some 2, none, none, none, some 1, none, none], 7, 2⟩,
        ⟨#[none, some 0, some 3, none], 3, 2⟩, 1⟩,
        (#[⟨.detached 1, 'a'⟩, ⟨.detached 5, 'b'⟩, ⟨.detached 9, 'c'⟩, ⟨.detached 2, 'd'⟩,
          ⟨.detached 6, 'e'⟩] : IndexedArena Char), [], [], {2, 1, 0, 3}⟩ :=
    .operated .begun rfl (.step 2) trivial rfl ⟨_, .running rfl
      (.round (by decide) rfl (.round (by decide) rfl (.round (by decide) rfl (.done (by decide)))))⟩
  have detached := stepped.operated rfl (.detach .older (.head 1)) trivial rfl rfl
  have ended := detached.operated rfl (.step 9) trivial rfl ⟨_, .running rfl
    (.round (by decide) rfl (.round (by decide) rfl (.done (by decide))))⟩
  have swept := stems.sweeps_once.2.2 (.grow .addressSpace 8) _ trivial rfl rfl rfl
  obtain ⟨few, ordered⟩ := swept _ _ ended
  exact ⟨_, _, _, _, stems, rfl, rfl, ended, rfl, rfl, rfl, few, ordered⟩

end Stems

end Ledger

end IncrementalMap
