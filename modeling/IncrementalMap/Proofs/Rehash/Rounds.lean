/-
This file counts the rounds that the loop of a step makes.
-/

import IncrementalMap.Proofs.Rehash.Passage
import IncrementalMap.Proofs.Table.Chains
import IncrementalMap.Rehash.Find

namespace IncrementalMap

/-- These slots of a table hold a payload. -/
def Table.occupied {Id : Type} (table : Table Id) : Set Nat :=
  {slot | (table.head? slot).isSome = true}

namespace Table.Sound

variable {Store Id Content : Type} [Arena Store Id Content] {table : Table Id} {store : Store}
  {layout : Layout Id}

theorem mem_occupied (sound : table.Sound store layout) {slot : Nat} :
    slot ∈ table.occupied ↔ layout slot ≠ [] := by
  change (table.head? slot).isSome = true ↔ _
  rw [(sound.chains slot).head_eq]
  cases layout slot <;> simp

/-- An occupied slot is inside the table, and one of them is the last. -/
theorem exists_last (sound : table.Sound store layout) {slot : Nat}
    (occupied : slot ∈ table.occupied) :
    ∃ last, IsGreatest table.occupied last ∧ slot ≤ last ∧ last < table.capacity := by
  have inside : ∀ other ∈ table.occupied, other < table.capacity := by
    intro other holds
    exact sound.lt_of_ne_nil (sound.mem_occupied.1 holds)
  have bounded : BddAbove table.occupied := ⟨_, fun other holds => Nat.le_of_lt (inside other holds)⟩
  obtain ⟨last, greatest⟩ := bounded.exists_isGreatest_of_nonempty ⟨slot, occupied⟩
  exact ⟨last, greatest, greatest.2 occupied, inside last greatest.1⟩

end Table.Sound

namespace Rehash

/-- The cursor stays at a slot in which something was found, and passes an empty one. -/
def Round.next {Id : Type} (round : Round Id) : Nat :=
  if round.found.isSome then round.slot else round.slot + 1

/-- Of these rounds so many have moved a payload. -/
def moves {Id : Type} (trail : List (Round Id)) : Nat :=
  trail.countP fun round => round.found.isSome

/-- On a trail every round reads the slot at which the round before has left the cursor. -/
inductive Trail {Id : Type} : Nat → List (Round Id) → Nat → Prop where
  | stay (slot : Nat) : Trail slot [] slot
  | round {round : Round Id} {trail : List (Round Id)} {finish : Nat}
      (onward : Trail round.next trail finish) : Trail round.slot (round :: trail) finish

theorem Round.slot_le_next {Id : Type} (round : Round Id) : round.slot ≤ round.next := by
  rw [next]
  split
  · exact Nat.le_refl _
  · exact Nat.le_succ _

@[simp] theorem moves_cons {Id : Type} (round : Round Id) (trail : List (Round Id)) :
    moves (round :: trail) = moves trail + if round.found.isSome then 1 else 0 := by
  simp [moves, List.countP_cons]

@[simp] theorem moves_append {Id : Type} (first second : List (Round Id)) :
    moves (first ++ second) = moves first + moves second := by
  simp [moves]

namespace Trail

variable {Id : Type} {start finish : Nat} {trail : List (Round Id)}

/-- Two trails that meet are one. -/
theorem append {others : List (Round Id)} {last : Nat} (first : Trail start trail finish)
    (second : Trail finish others last) : Trail start (trail ++ others) last := by
  induction first with
  | stay slot => exact second
  | round onward inductionHypothesis => exact .round (inductionHypothesis second)

/-- A trail never leads back. -/
theorem start_le (leads : Trail start trail finish) : start ≤ finish := by
  induction leads with
  | stay slot => exact Nat.le_refl slot
  | @round round trail finish onward inductionHypothesis =>
      exact round.slot_le_next.trans inductionHypothesis

/-- Each round moves a payload or the cursor. -/
theorem length_eq (leads : Trail start trail finish) :
    start + trail.length = finish + moves trail := by
  induction leads with
  | stay slot => rfl
  | @round round trail finish onward inductionHypothesis =>
      rw [List.length_cons, moves_cons]
      cases found : round.found <;> simp [Round.next, found] at inductionHypothesis ⊢ <;> omega

/-- All rounds read slots between the two ends. -/
theorem between (leads : Trail start trail finish) :
    ∀ round ∈ trail, start ≤ round.slot ∧ round.next ≤ finish := by
  induction leads with
  | stay slot => nofun
  | @round round trail finish onward inductionHypothesis =>
      rw [List.forall_mem_cons]
      constructor
      · exact ⟨Nat.le_refl _, onward.start_le⟩
      · intro later member
        obtain ⟨lower, upper⟩ := inductionHypothesis later member
        exact ⟨round.slot_le_next.trans lower, upper⟩

/-- No later round reads a slot that an earlier one has passed. -/
theorem ordered (leads : Trail start trail finish) :
    trail.Pairwise fun earlier later => earlier.next ≤ later.slot := by
  induction leads with
  | stay slot => exact .nil
  | round onward inductionHypothesis =>
      exact .cons (fun later member => (onward.between later member).1) inductionHypothesis

/-- A trail ends where its rounds are bounded. -/
theorem finish_le {bound : Nat} (leads : Trail start trail finish) (below : start ≤ bound)
    (inside : ∀ round ∈ trail, round.next ≤ bound) : finish ≤ bound := by
  induction leads with
  | stay slot => exact below
  | round onward inductionHypothesis =>
      rw [List.forall_mem_cons] at inside
      exact inductionHypothesis inside.1 inside.2

end Trail

variable {Store Id Content : Type} [Arena Store Id Content]

/-- A step sweeps the older table in the rounds of its loop, and then gives up what is empty. Without
an episode there is nothing to sweep. -/
inductive Sweeps (rehash : Rehash Id) (store : Store) (work : Nat) :
    List (Round Id) → Outcome (Rehash Id) Store Nat → Prop where
  | resting (inactive : rehash.isActive = false) :
      Sweeps rehash store work [] ⟨0, rehash, store, []⟩
  | running {trail : List (Round Id)} {moved : Nat} {after : Rehash Id} {final : Store}
      (active : rehash.isActive = true)
      (rounds : Rounds work 0 rehash store trail moved after final) :
      Sweeps rehash store work trail ⟨moved, after.release.1, final,
        .migrationStep moved after.cursor after.older.count :: after.release.2⟩

variable {rehash after : Rehash Id} {store final : Store}

/-- A scan moves a payload or the cursor, and keeps the slots of the older table. -/
theorem scan_cases {found : Option Id} (scanned : rehash.scan store = .ok (found, after, final)) :
    after.cursor = Round.next ⟨rehash.cursor, found⟩ ∧ rehash.older.Alike after.older ∧
      after.older.count + (if found.isSome then 1 else 0) = rehash.older.count := by
  obtain ⟨newer, older, cursor⟩ := rehash
  obtain ⟨⟨id, cut, unlinked⟩, detached, rest⟩ := exists_of_bind_eq_ok scanned
  rcases Table.detach_cases detached with ⟨rfl, rfl, rfl⟩ | ⟨id, rfl, alike, counted⟩
  · obtain ⟨rfl, rfl, rfl⟩ := by simpa using Except.ok.inj rest
    exact ⟨rfl, .refl _, rfl⟩
  · obtain ⟨⟨grown, linked⟩, inserted, last⟩ := exists_of_bind_eq_ok rest
    obtain ⟨rfl, rfl, rfl⟩ := by simpa using Except.ok.inj last
    exact ⟨rfl, alike, counted⟩

namespace Rounds

variable {work moved total : Nat} {trail : List (Round Id)}

/-- The rounds make a trail that begins and ends at the cursor. -/
theorem leads (rounds : Rounds work moved rehash store trail total after final) :
    Trail rehash.cursor trail after.cursor := by
  induction rounds with
  | done ended => exact .stay _
  | round busy scanned others inductionHypothesis =>
      rw [(scan_cases scanned).1] at inductionHypothesis
      exact .round inductionHypothesis

/-- What the rounds move is counted, and no more is moved than there is work to do. -/
theorem counts (rounds : Rounds work moved rehash store trail total after final) :
    total = moved + moves trail ∧ (moved ≤ work → total ≤ work) ∧
      rehash.older.Alike after.older ∧ after.older.count + moves trail = rehash.older.count := by
  induction rounds with
  | done ended => exact ⟨rfl, id, .refl _, rfl⟩
  | @round moved total rehash between after store linked final found trail busy scanned others
      inductionHypothesis =>
      obtain ⟨_, alike, counted⟩ := scan_cases scanned
      obtain ⟨sum, within, alikeOthers, countedOthers⟩ := inductionHypothesis
      refine ⟨?_, ?_, alike.trans alikeOthers, ?_⟩
      · rw [sum, moves_cons]
        dsimp only
        omega
      · intro _
        apply within
        have work := busy.1
        split <;> omega
      · rw [moves_cons]
        dsimp only
        omega

end Rounds

/-- No round takes the cursor past all occupied slots. -/
theorem Rounds.ahead [LawfulArena Store] {work moved total : Nat} {trail : List (Round Id)}
    (rounds : Rounds work moved rehash store trail total after final) {newer older : Layout Id}
    (sound : rehash.Sound store newer older) :
    ∀ round ∈ trail, ∃ slot, round.next ≤ slot ∧ older slot ≠ [] := by
  induction rounds generalizing newer older with
  | done ended => nofun
  | @round moved total rehash between after store linked final found trail busy scanned others
      inductionHypothesis =>
      rw [List.forall_mem_cons]
      cases chain : older rehash.cursor with
      | nil =>
          obtain ⟨passed, soundNext⟩ := sound.scan_empty chain
          obtain ⟨rfl, rfl, rfl⟩ := by simpa using Except.ok.inj (passed.symm.trans scanned)
          exact ⟨soundNext.ahead busy.2, inductionHypothesis soundNext⟩
      | cons id rest =>
          obtain ⟨grown, cut, moved, taken, soundNext, _⟩ := sound.scan_first chain
          obtain ⟨rfl, rfl, rfl⟩ := by simpa using Except.ok.inj (taken.symm.trans scanned)
          refine ⟨⟨rehash.cursor, Nat.le_refl _, by simp [chain]⟩, ?_⟩
          intro round member
          obtain ⟨slot, before, holds⟩ := inductionHypothesis soundNext round member
          refine ⟨slot, before, ?_⟩
          by_cases here : slot = rehash.cursor
          · simp [here, chain]
          · rwa [Function.update_of_ne here] at holds

/-- An episode proceeds along a trail that stays in the older table. As long as the episode goes on,
the trail ends at the cursor. The payloads that its rounds move leave the older table. -/
structure Proceeds (rehash : Rehash Id) (trail : List (Round Id)) (after : Rehash Id) : Prop where
  leads : ∃ finish, Trail rehash.cursor trail finish ∧ finish ≤ rehash.older.capacity ∧
    (after.isActive = true → after.cursor = finish)
  counts : after.older.count + moves trail ≤ rehash.older.count
  capacity : after.isActive = true → after.older.capacity = rehash.older.capacity

namespace Proceeds

variable {trail : List (Round Id)}

/-- Parts of an episode that follow each other are one. -/
theorem trans {between : Rehash Id} {others : List (Round Id)}
    (first : rehash.Proceeds trail between) (running : between.isActive = true)
    (second : between.Proceeds others after) : rehash.Proceeds (trail ++ others) after := by
  obtain ⟨⟨middle, leads, _, cursor⟩, counts, capacity⟩ := first
  obtain ⟨⟨finish, onward, inside, last⟩, countsOthers, capacityOthers⟩ := second
  rw [cursor running] at onward
  rw [capacity running] at inside
  constructor
  · exact ⟨finish, leads.append onward, inside, last⟩
  · rw [moves_append]
    omega
  · intro still
    rw [capacityOthers still, capacity running]

/-- There are no more rounds than payloads to move and slots to pass. -/
theorem length_le (proceeds : rehash.Proceeds trail after) :
    trail.length ≤ rehash.older.count + (rehash.older.capacity - rehash.cursor) := by
  obtain ⟨⟨finish, leads, inside, _⟩, counts, _⟩ := proceeds
  have length := leads.length_eq
  omega

/-- Without a round the cursor rests, and the older table may lose payloads. -/
theorem rest (inside : rehash.cursor ≤ rehash.older.capacity) (cursor : after.cursor = rehash.cursor)
    (alike : rehash.older.Alike after.older) (fewer : after.older.count ≤ rehash.older.count) :
    rehash.Proceeds [] after :=
  ⟨⟨_, .stay _, inside, fun _ => cursor⟩, fewer, fun _ => alike.capacity⟩

/-- A detachment makes no round. -/
theorem detach (inside : rehash.cursor ≤ rehash.older.capacity) {side : Side}
    {position : Position Id} {found : Option Id}
    (detached : rehash.detach store side position = .ok (found, after, final)) :
    rehash.Proceeds [] after := by
  obtain ⟨newer, older, cursor⟩ := rehash
  cases side with
  | newer =>
      obtain ⟨⟨id, cut, unlinked⟩, _, rest⟩ := exists_of_bind_eq_ok detached
      obtain ⟨rfl, rfl, rfl⟩ := by simpa using Except.ok.inj rest
      exact .rest inside rfl (.refl _) (Nat.le_refl _)
  | older =>
      obtain ⟨⟨id, cut, unlinked⟩, removed, rest⟩ := exists_of_bind_eq_ok detached
      obtain ⟨rfl, rfl, rfl⟩ := by simpa using Except.ok.inj rest
      rcases Table.detach_cases removed with ⟨_, rfl, _⟩ | ⟨id, _, alike, counted⟩
      · exact .rest inside rfl (.refl _) (Nat.le_refl _)
      · exact .rest inside rfl alike (Nat.le_of_succ_le (Nat.le_of_eq counted))

/-- An episode may end at any time. -/
theorem idle (proceeds : rehash.Proceeds trail after) (newer : Table Id) :
    rehash.Proceeds trail (Rehash.idle newer) := by
  obtain ⟨⟨finish, leads, inside, _⟩, counts, _⟩ := proceeds
  refine ⟨⟨finish, leads, inside, nofun⟩, ?_, nofun⟩
  exact (Nat.add_le_add_right (Nat.zero_le _) _).trans counts

/-- An older table that is empty may be given up. -/
theorem release (proceeds : rehash.Proceeds trail after) :
    rehash.Proceeds trail after.release.1 := by
  rw [Rehash.release]
  split
  · exact proceeds.idle after.newer
  · exact proceeds

end Proceeds

/-- The rounds of a step are bounded by the payloads that it may move and by the slots from the cursor
on, and none of them takes the cursor past the last occupied slot. -/
structure Bounded (rehash : Rehash Id) (work : Nat) (trail : List (Round Id)) : Prop where
  few : trail.length ≤ min work rehash.older.count + (rehash.older.capacity - rehash.cursor)
  within : ∀ round ∈ trail, ∃ last, IsGreatest rehash.older.occupied last ∧ round.next ≤ last

/-- A step that returns has swept the older table. -/
theorem Sweeps.of_step {work : Nat} {outcome : Outcome (Rehash Id) Store Nat}
    (stepped : rehash.step store work = .ok outcome) :
    ∃ trail, rehash.Sweeps store work trail outcome := by
  rw [step] at stepped
  split at stepped <;> rename_i active
  · obtain ⟨⟨moved, after, linked⟩, scanned, last⟩ := exists_of_bind_eq_ok stepped
    obtain ⟨trail, rounds, _⟩ := Rounds.of_scanUpTo scanned
    obtain rfl := Except.ok.inj last
    exact ⟨trail, .running active rounds⟩
  · obtain rfl := Except.ok.inj stepped
    exact ⟨[], .resting (by simpa using active)⟩

/-- A sweep whose rounds are bounded is the step. -/
theorem Bounded.step {work : Nat} {trail : List (Round Id)}
    {outcome : Outcome (Rehash Id) Store Nat} (bounded : rehash.Bounded work trail)
    (sweeps : rehash.Sweeps store work trail outcome) : rehash.step store work = .ok outcome := by
  cases sweeps with
  | resting inactive => exact step_of_inactive inactive store work
  | running active rounds =>
      have ended : rehash.scanUpTo work (rehash.scanLimit work) 0 store = _ :=
        rounds.scanUpTo bounded.few
      rw [Rehash.step, if_pos active, ended]
      rfl

namespace OnTrack

variable [LawfulArena Store] {work : Nat} {trail : List (Round Id)}

/-- No round of a loop on track takes the cursor past the last occupied slot. -/
theorem within (track : rehash.OnTrack store) {moved total : Nat}
    (rounds : Rounds work moved rehash store trail total after final) :
    ∀ round ∈ trail, ∃ last, IsGreatest rehash.older.occupied last ∧ round.next ≤ last ∧
      last < rehash.older.capacity := by
  obtain ⟨⟨newer, older, sound⟩, _⟩ := track
  intro round member
  obtain ⟨slot, before, holds⟩ := rounds.ahead sound round member
  have occupied := sound.pair.soundSource.mem_occupied.2 holds
  obtain ⟨last, greatest, reached, inside⟩ := sound.pair.soundSource.exists_last occupied
  exact ⟨last, greatest, before.trans reached, inside⟩

/-- The rounds of a loop on track leave the cursor inside the older table. -/
theorem cursor_le (track : rehash.OnTrack store) {moved total : Nat}
    (rounds : Rounds work moved rehash store trail total after final) :
    after.cursor ≤ rehash.older.capacity := by
  apply rounds.leads.finish_le track.cursor
  intro round member
  obtain ⟨last, _, reached, inside⟩ := track.within rounds round member
  exact reached.trans (Nat.le_of_lt inside)

/-- Every sweep on track is bounded. -/
theorem bounded (track : rehash.OnTrack store) {outcome : Outcome (Rehash Id) Store Nat}
    (sweeps : rehash.Sweeps store work trail outcome) : rehash.Bounded work trail := by
  cases sweeps with
  | resting inactive => exact ⟨Nat.zero_le _, nofun⟩
  | @running trail moved after final active rounds =>
      constructor
      · have inside := track.cursor_le rounds
        have length := rounds.leads.length_eq
        obtain ⟨total, enough, _, counted⟩ := rounds.counts
        have done := enough (Nat.zero_le work)
        omega
      · intro round member
        obtain ⟨last, greatest, reached, _⟩ := track.within rounds round member
        exact ⟨last, greatest, reached⟩

/-- A step on track proceeds along the rounds of its loop. -/
theorem proceeds (track : rehash.OnTrack store) {outcome : Outcome (Rehash Id) Store Nat}
    (sweeps : rehash.Sweeps store work trail outcome) : rehash.Proceeds trail outcome.state := by
  cases sweeps with
  | resting inactive => exact .rest track.cursor rfl (.refl _) (Nat.le_refl _)
  | @running trail moved after final active rounds =>
      obtain ⟨_, _, alike, counted⟩ := rounds.counts
      have whole : rehash.Proceeds trail after :=
        ⟨⟨_, rounds.leads, track.cursor_le rounds, fun _ => rfl⟩, Nat.le_of_eq counted,
          fun _ => alike.capacity⟩
      exact whole.release

end OnTrack

end Rehash

end IncrementalMap
