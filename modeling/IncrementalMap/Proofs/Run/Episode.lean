/-
This file balances what the events of an episode report against the payloads of its older table.
-/

import IncrementalMap.Proofs.Map.Turn
import IncrementalMap.Proofs.Run.Progress

namespace IncrementalMap

/-- One kind of event reports the end of an episode. -/
def Event.finishesMigration : Event → Bool
  | .migrationFinished _ => true
  | _ => false

/-- These events report a start, a step or the end of an episode. -/
def Event.tellsMigration : Event → Bool
  | .migrationStarted .. | .migrationStep .. | .migrationFinished _ => true
  | _ => false

/-- A mark is an event in a record. A record also has a mark where a deletion takes its payload from
the older table, and where an episode is abandoned with some payloads left there. -/
inductive Mark where
  | reported (event : Event)
  | taken
  | abandoned (left : Nat)

/-- An episode adds up what its events report and what deletions take from its older table. At its
end it knows how many payloads were left there. -/
structure Episode where
  fromCapacity : Nat
  entries : Nat
  moved : Nat
  taken : Nat
  ending : Option Nat

namespace Mark

/-- A mark without the cursor of its event. -/
def withoutCursor : Mark → Mark
  | .reported event => .reported event.withoutCursor
  | .taken => .taken
  | .abandoned left => .abandoned left

/-- This is the event of a mark. -/
def event? : Mark → Option Event
  | .reported event => some event
  | .taken => none
  | .abandoned _ => none

/-- A mark starts an episode when its event does. -/
def starts (mark : Mark) : Bool := mark.event?.any Event.startsMigration

/-- A mark finishes an episode when its event does. -/
def finishes (mark : Mark) : Bool := mark.event?.any Event.finishesMigration

/-- One kind of mark abandons an episode. -/
def abandons : Mark → Bool
  | .reported _ => false
  | .taken => false
  | .abandoned _ => true

end Mark

namespace Episode

/-- Each mark is noted in the latest episode, which comes first, and a start adds an episode. -/
def note (episodes : List Episode) (mark : Mark) : List Episode :=
  match mark, episodes with
  | .reported (.migrationStarted fromCapacity _ entries), episodes =>
      ⟨fromCapacity, entries, 0, 0, none⟩ :: episodes
  | .reported (.migrationStep moved _ _), latest :: earlier =>
      { latest with moved := latest.moved + moved } :: earlier
  | .reported (.migrationFinished _), latest :: earlier =>
      { latest with ending := some 0 } :: earlier
  | .taken, latest :: earlier => { latest with taken := latest.taken + 1 } :: earlier
  | .abandoned left, latest :: earlier => { latest with ending := some left } :: earlier
  | _, episodes => episodes

/-- These are the episodes of a record, the latest first. -/
def list (record : List Mark) : List Episode := record.foldl note []

/-- An episode that has ended is balanced with what was left in its older table. -/
def Closed (episode : Episode) : Prop :=
  ∃ left, episode.ending = some left ∧ episode.entries = episode.moved + episode.taken + left

/-- No episode runs after these. -/
def AllClosed (episodes : List Episode) : Prop := ∀ episode ∈ episodes, episode.Closed

/-- The latest of these episodes has not ended. -/
def Opens (episodes : List Episode) (latest : Episode) : Prop :=
  episodes.head? = some latest ∧ latest.ending = none

end Episode

/-- A mark is right behind some episodes when a start follows the end of the latest one, when every
other mark of an episode comes before its end, when a step leaves as many payloads as the episode
started with less those moved and taken so far, and when the end names the capacity of its start. -/
def Mark.Right (episodes : List Episode) : Mark → Prop
  | .reported (.migrationStarted ..) => Episode.AllClosed episodes
  | .reported (.migrationStep moved _ remaining) => ∃ latest, Episode.Opens episodes latest ∧
      remaining + (latest.moved + moved) + latest.taken = latest.entries
  | .reported (.migrationFinished capacity) => ∃ latest, Episode.Opens episodes latest ∧
      capacity = latest.fromCapacity
  | .taken => ∃ latest, Episode.Opens episodes latest
  | .abandoned _ => ∃ latest, Episode.Opens episodes latest
  | _ => True

namespace Gauge

/-- Episodes track a gauge when the latest of them runs exactly while the gauge shows an older table
and is balanced with what this table holds. All others have ended. -/
inductive Tracks (gauge : Gauge) : List Episode → Prop where
  | resting {episodes : List Episode} (none : gauge.olderCapacity = 0) (empty : gauge.older = 0)
      (closed : Episode.AllClosed episodes) : Tracks gauge episodes
  | running {latest : Episode} {earlier : List Episode} (active : gauge.olderCapacity ≠ 0)
      (opened : latest.ending = Option.none) (former : latest.fromCapacity = gauge.olderCapacity)
      (balanced : latest.entries = latest.moved + latest.taken + gauge.older)
      (closed : Episode.AllClosed earlier) : Tracks gauge (latest :: earlier)

/-- A record accounts for a gauge when all its marks are right, its episodes track the gauge, and
every start is matched by an end or by the running episode. -/
structure Accounts (gauge : Gauge) (record : List Mark) : Prop where
  right : ∀ before mark after, record = before ++ mark :: after → mark.Right (Episode.list before)
  tracks : gauge.Tracks (Episode.list record)
  starts : record.countP Mark.starts = record.countP Mark.finishes + record.countP Mark.abandons +
    if gauge.olderCapacity = 0 then 0 else 1

end Gauge

/-- The newer table plays no part in tracking episodes. -/
theorem Gauge.Tracks.quiet {gauge after : Gauge} {episodes : List Episode}
    (tracks : gauge.Tracks episodes) (capacity : after.olderCapacity = gauge.olderCapacity)
    (older : after.older = gauge.older) : after.Tracks episodes := by
  cases tracks with
  | resting none empty closed => exact .resting (capacity.trans none) (older.trans empty) closed
  | running active opened former balanced closed =>
      exact .running (capacity ▸ active) opened (former.trans capacity.symm)
        (older.symm ▸ balanced) closed

/-- Episodes that track a gauge are balanced, and only a running one has not ended. -/
theorem Gauge.Tracks.balanced {gauge : Gauge} {episodes : List Episode}
    (tracks : gauge.Tracks episodes) {episode : Episode} (member : episode ∈ episodes) :
    episode.entries = episode.moved + episode.taken + episode.ending.getD gauge.older ∧
      (episode.ending = none → gauge.olderCapacity ≠ 0) := by
  have ended (closed : episode.Closed) :
      episode.entries = episode.moved + episode.taken + episode.ending.getD gauge.older ∧
        (episode.ending = none → gauge.olderCapacity ≠ 0) := by
    obtain ⟨left, ending, balanced⟩ := closed
    rw [ending]
    exact ⟨balanced, nofun⟩
  cases tracks with
  | resting none empty closed => exact ended (closed episode member)
  | running active opened former balanced closed =>
      rcases List.mem_cons.1 member with rfl | earlier
      · rw [opened]
        exact ⟨balanced, fun _ => active⟩
      · exact ended (closed episode earlier)

namespace Episode

theorem list_append (record : List Mark) (mark : Mark) :
    list (record ++ [mark]) = note (list record) mark := by
  rw [list, list, List.foldl_append, List.foldl_cons, List.foldl_nil]

/-- Cursors are not noted. -/
theorem note_withoutCursor (episodes : List Episode) (mark : Mark) :
    note episodes mark.withoutCursor = note episodes mark := by
  cases mark with
  | reported event => cases event <;> cases episodes <;> rfl
  | taken => rfl
  | abandoned left => rfl

theorem list_withoutCursor (record : List Mark) :
    list (record.map Mark.withoutCursor) = list record := by
  rw [list, list, List.foldl_map]
  simp only [note_withoutCursor]

end Episode

/-- A mark is right whatever its cursor is. -/
theorem Mark.right_withoutCursor (episodes : List Episode) (mark : Mark) :
    mark.withoutCursor.Right episodes ↔ mark.Right episodes := by
  cases mark with
  | reported event => cases event <;> exact Iff.rfl
  | taken => exact Iff.rfl
  | abandoned left => exact Iff.rfl

namespace Gauge.Accounts

variable {gauge after : Gauge} {record : List Mark}

/-- Nothing is accounted for before the first mark. -/
theorem blank (capacity : Nat) : Accounts ⟨capacity, 0, 0, 0⟩ [] where
  right before mark after splits := by simp at splits
  tracks := .resting rfl rfl (by simp [Episode.AllClosed, Episode.list])
  starts := rfl

/-- A right mark extends an account. -/
theorem extend (accounts : gauge.Accounts record) {mark : Mark}
    (right : mark.Right (Episode.list record))
    (tracks : after.Tracks (Episode.note (Episode.list record) mark))
    (starts : (if gauge.olderCapacity = 0 then 0 else 1) + [mark].countP Mark.starts =
      [mark].countP Mark.finishes + [mark].countP Mark.abandons +
        if after.olderCapacity = 0 then 0 else 1) : after.Accounts (record ++ [mark]) where
  right before last rest splits := by
    -- A record that is split before its end is split in the older record.
    rcases List.eq_nil_or_concat' rest with rfl | ⟨rest, final, rfl⟩
    · obtain ⟨rfl, same⟩ := List.append_inj' splits rfl
      obtain rfl := List.singleton_inj.1 same
      exact right
    · rw [← List.cons_append, ← List.append_assoc] at splits
      exact accounts.right before last rest (List.append_inj' splits rfl).1
  tracks := by
    rw [Episode.list_append]
    exact tracks
  starts := by
    have total := accounts.starts
    simp only [List.countP_append]
    omega

/-- An account does not look at cursors. -/
theorem of_withoutCursor (accounts : gauge.Accounts (record.map Mark.withoutCursor)) :
    gauge.Accounts record where
  right before mark after splits := by
    have right := accounts.right (before.map Mark.withoutCursor) mark.withoutCursor
      (after.map Mark.withoutCursor) (by rw [splits, List.map_append, List.map_cons])
    rwa [Mark.right_withoutCursor, Episode.list_withoutCursor] at right
  tracks := by
    have tracks := accounts.tracks
    rwa [Episode.list_withoutCursor] at tracks
  starts := by
    have kinds (mark : Mark) : mark.withoutCursor.starts = mark.starts ∧
        mark.withoutCursor.finishes = mark.finishes ∧
        mark.withoutCursor.abandons = mark.abandons := by
      cases mark with
      | reported event => cases event <;> exact ⟨rfl, rfl, rfl⟩
      | taken => exact ⟨rfl, rfl, rfl⟩
      | abandoned left => exact ⟨rfl, rfl, rfl⟩
    have starts := accounts.starts
    simpa only [List.countP_map, Function.comp_def, kinds] using starts

/-- The newer table plays no part in an account. -/
theorem quiet (accounts : gauge.Accounts record)
    (capacity : after.olderCapacity = gauge.olderCapacity) (older : after.older = gauge.older) :
    after.Accounts record :=
  ⟨accounts.right, accounts.tracks.quiet capacity older, capacity ▸ accounts.starts⟩

/-- An event that tells nothing of an episode leaves an account as it is. -/
theorem aside (accounts : gauge.Accounts record) {event : Event}
    (silent : event.tellsMigration = false) : gauge.Accounts (record ++ [.reported event]) := by
  have unnoted : Episode.note (Episode.list record) (.reported event) = Episode.list record := by
    cases event <;> simp_all [Episode.note, Event.tellsMigration]
  have right : (Mark.reported event).Right (Episode.list record) := by
    cases event <;> simp_all [Mark.Right, Event.tellsMigration]
  apply accounts.extend right
  · rw [unnoted]
    exact accounts.tracks
  · cases event <;> simp_all [Mark.starts, Mark.finishes, Mark.event?, Mark.abandons,
      Event.startsMigration, Event.finishesMigration, Event.tellsMigration]

/-- The latest episode is open while the gauge shows an older table. -/
theorem opens (accounts : gauge.Accounts record) (active : gauge.olderCapacity ≠ 0) :
    ∃ latest earlier, Episode.list record = latest :: earlier ∧ latest.ending = none ∧
      latest.fromCapacity = gauge.olderCapacity ∧
      latest.entries = latest.moved + latest.taken + gauge.older ∧ Episode.AllClosed earlier := by
  have tracks := accounts.tracks
  generalize Episode.list record = episodes at tracks
  cases tracks with
  | resting none empty closed => exact absurd none active
  | running active opened former balanced closed =>
      exact ⟨_, _, rfl, opened, former, balanced, closed⟩

/-- Every episode has ended while the gauge shows no older table. -/
theorem rests (accounts : gauge.Accounts record) (none : gauge.olderCapacity = 0) :
    gauge.older = 0 ∧ Episode.AllClosed (Episode.list record) := by
  have tracks := accounts.tracks
  generalize Episode.list record = episodes at tracks ⊢
  cases tracks with
  | resting none empty closed => exact ⟨empty, closed⟩
  | running active opened former balanced closed => exact absurd none active

/-- A start is accounted for when no episode runs. -/
theorem start (accounts : gauge.Accounts record) (none : gauge.olderCapacity = 0)
    (allocated : gauge.capacity ≠ 0) (capacity : Nat) :
    (gauge.start capacity).Accounts
      (record ++ [.reported (.migrationStarted gauge.capacity capacity gauge.newer)]) := by
  obtain ⟨_, closed⟩ := accounts.rests none
  apply accounts.extend
  · exact closed
  · exact .running allocated rfl rfl (by simp [Gauge.start]) closed
  · rw [if_pos none, Gauge.start, if_neg allocated]
    rfl

/-- Payloads that are moved are accounted for by the event of their step. -/
theorem move (accounts : gauge.Accounts record) (active : gauge.olderCapacity ≠ 0) {moved : Nat}
    (few : moved ≤ gauge.older) (cursor newer : Nat) :
    Accounts ⟨gauge.capacity, newer, gauge.olderCapacity, gauge.older - moved⟩
      (record ++ [.reported (.migrationStep moved cursor (gauge.older - moved))]) := by
  obtain ⟨latest, earlier, listed, opened, former, balanced, closed⟩ := accounts.opens active
  apply accounts.extend
  · rw [listed]
    exact ⟨latest, ⟨rfl, opened⟩, by omega⟩
  · rw [listed]
    refine .running active opened former ?_ closed
    simp only [balanced]
    omega
  · rw [if_neg active]
    rfl

/-- The end of an episode is accounted for when its older table is empty. -/
theorem finish (accounts : gauge.Accounts record) (active : gauge.olderCapacity ≠ 0)
    (empty : gauge.older = 0) (newer : Nat) :
    Accounts ⟨gauge.capacity, newer, 0, 0⟩
      (record ++ [.reported (.migrationFinished gauge.olderCapacity)]) := by
  obtain ⟨latest, earlier, listed, opened, former, balanced, closed⟩ := accounts.opens active
  apply accounts.extend
  · rw [listed]
    exact ⟨latest, ⟨rfl, opened⟩, former.symm⟩
  · rw [listed]
    refine .resting rfl rfl (List.forall_mem_cons.2 ⟨⟨0, rfl, ?_⟩, closed⟩)
    rw [balanced, empty]
  · rw [if_neg active]
    rfl

/-- A payload that is taken from the older table is accounted for by its mark. -/
theorem take (accounts : gauge.Accounts record) (active : gauge.olderCapacity ≠ 0)
    (some : 0 < gauge.older) :
    Accounts { gauge with older := gauge.older - 1 } (record ++ [.taken]) := by
  obtain ⟨latest, earlier, listed, opened, former, balanced, closed⟩ := accounts.opens active
  apply accounts.extend
  · rw [listed]
    exact ⟨latest, rfl, opened⟩
  · rw [listed]
    refine .running active opened former ?_ closed
    simp only [balanced]
    omega
  · rw [if_neg active]
    rfl

/-- An episode that is abandoned leaves its payloads behind. -/
theorem abandon (accounts : gauge.Accounts record) (active : gauge.olderCapacity ≠ 0)
    (capacity newer : Nat) :
    Accounts ⟨capacity, newer, 0, 0⟩ (record ++ [.abandoned gauge.older]) := by
  obtain ⟨latest, earlier, listed, opened, former, balanced, closed⟩ := accounts.opens active
  apply accounts.extend
  · rw [listed]
    exact ⟨latest, rfl, opened⟩
  · rw [listed]
    exact .resting rfl rfl (List.forall_mem_cons.2 ⟨⟨gauge.older, rfl, balanced⟩, closed⟩)
  · rw [if_neg active]
    rfl

/-- A step is accounted for by its events. -/
theorem step (accounts : gauge.Accounts record) (work : Nat) :
    (gauge.step work).Accounts (record ++ (gauge.stepEvents work).map Mark.reported) := by
  unfold Gauge.step Gauge.stepEvents
  split <;> rename_i enough <;> split <;> rename_i none
  · obtain ⟨empty, _⟩ := accounts.rests none
    rw [List.map_nil, List.append_nil]
    exact accounts.quiet none.symm empty.symm
  · have moved := accounts.move none (Nat.le_refl gauge.older) 0 gauge.newer
    rw [Nat.sub_self] at moved
    have finished := moved.finish none rfl (gauge.newer + gauge.older)
    rw [Nat.min_eq_right enough, Nat.sub_eq_zero_of_le enough]
    simpa using finished
  · obtain ⟨empty, _⟩ := accounts.rests none
    exact absurd (empty ▸ Nat.zero_le work) enough
  · have few := Nat.le_of_not_le enough
    have moved := accounts.move none few 0 (gauge.newer + work)
    rw [Nat.min_eq_left few]
    exact moved

end Gauge.Accounts

end IncrementalMap
