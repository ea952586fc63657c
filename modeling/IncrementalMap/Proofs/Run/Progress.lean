/-
This file proves how fast an episode proceeds and that it ends.
-/

import IncrementalMap.Arena.Indexed
import IncrementalMap.Proofs.Run.Reachable
import Mathlib.Algebra.Order.Floor.Div

namespace IncrementalMap

/-- One kind of event reports the start of an episode. -/
def Event.startsMigration : Event → Bool
  | .migrationStarted .. => true
  | _ => false

namespace Map

/-- The progress of an episode tells what is left to move, and nothing is left without one. -/
def remaining {Id : Type} (map : Map Id) : Nat :=
  (map.rehash.progress?.map Progress.remaining).getD 0

/-- A call continues an episode when it moves its work of payloads and takes one more at most, and
neither replaces a table nor reports a start. -/
structure Continues {Store Id Result : Type} (map : Map Id) (taken : Option Side)
    (outcome : Outcome (Map Id) Store Result) : Prop where
  remaining : outcome.state.remaining + min map.config.migrationWork map.remaining +
    (if taken = some .older then 1 else 0) = map.remaining
  moved : Event.moved outcome.events = min map.config.migrationWork map.remaining
  capacity : outcome.state.capacity = map.capacity
  former : outcome.state.isRehashing = true →
    outcome.state.rehash.older.capacity = map.rehash.older.capacity
  unstarted : ∀ event ∈ outcome.events, event.startsMigration = false

/-- Traffic consists of legal insertions, lookups and deletions, between which the program may edit
the arena. -/
inductive Traffic {Store Id Content Memory : Type} [Arena Store Id Content] [DecidableEq Id]
    (map : Map Id) (store : Store) (linked : Finset Id) :
    History Store Id Content Memory → Map Id → Store → Finset Id → Prop where
  | nothing : Traffic map store linked [] map store linked
  | call {history : History Store Id Content Memory} {before : Map Id} {left edited : Store}
      {held : Finset Id} (call : Call Id Content Memory) (allocator : Allocator)
      {outcome : Outcome (Map Id) Store (Reply Id Content Memory)}
      (earlier : Traffic map store linked history before left held)
      (careful : Arena.Careful held left edited) (works : call.Works)
      (legal : call.Legal held edited)
      (answered : call.perform allocator before edited = .ok outcome) :
      Traffic map store linked (⟨call, allocator, before, edited, outcome⟩ :: history)
        outcome.state outcome.store (call.relink outcome.result held)

end Map

namespace Gauge

theorem capacity_take (gauge : Gauge) (taken : Option Side) :
    (gauge.take taken).capacity = gauge.capacity := by
  cases taken with
  | none => rfl
  | some side => exact gauge.capacity_detach side

/-- A call gives the older table up or keeps its capacity, when it takes a payload. -/
theorem olderCapacity_take (gauge : Gauge) (taken : Option Side) :
    (gauge.take taken).olderCapacity = 0 ∨
      (gauge.take taken).olderCapacity = gauge.olderCapacity := by
  cases taken with
  | none => exact .inr rfl
  | some side => exact gauge.olderCapacity_detach side

/-- A payload that is taken from the older table is missing there. -/
theorem older_take {gauge : Gauge} {taken : Option Side}
    (counted : ∀ side, taken = some side → 0 < gauge.count side) :
    (gauge.take taken).older + (if taken = some .older then 1 else 0) = gauge.older := by
  cases taken with
  | none => rfl
  | some side =>
      have positive := counted side rfl
      rw [take, older_detach]
      cases side with
      | newer => rfl
      | older => exact Nat.sub_add_cancel positive

/-- A step and the end of an episode report no start. -/
theorem Reports.unstarted {gauge : Gauge} {work : Nat} {events : List Event}
    (reports : gauge.Reports work events) : ∀ event ∈ events, event.startsMigration = false := by
  unfold Reports at reports
  split at reports
  · simp [reports]
  · obtain ⟨cursor, rfl⟩ := reports
    split <;> simp [Event.startsMigration]

theorem unstarted_releases (gauge : Gauge) (taken : Option Side) :
    ∀ event ∈ gauge.releases taken, event.startsMigration = false := by
  unfold releases
  split
  · split <;> simp [Event.startsMigration]
  · simp

end Gauge

namespace Map

/-- What remains is what the older table counts. -/
theorem Links.remaining_eq {Store Id Content : Type} [Arena Store Id Content] [DecidableEq Id]
    {map : Map Id} {store : Store} {linked : Finset Id} (links : map.Links store linked) :
    map.remaining = map.rehash.older.count := by
  obtain ⟨listed, ⟨newer, older, sound, _⟩, _⟩ := links
  rw [remaining, Rehash.progress?]
  split <;> rename_i active
  · rfl
  · rw [sound.settled.resting (Bool.eq_false_of_not_eq_true active)]
    rfl

/-- An episode runs exactly while something remains. -/
theorem Links.isRehashing_iff {Store Id Content : Type} [Arena Store Id Content] [DecidableEq Id]
    {map : Map Id} {store : Store} {linked : Finset Id} (links : map.Links store linked) :
    map.isRehashing = true ↔ 0 < map.remaining := by
  rw [links.remaining_eq]
  obtain ⟨listed, ⟨newer, older, sound, _⟩, _⟩ := links
  rcases sound.settled with idle | running
  · rw [isRehashing, idle]
    exact iff_of_false Bool.false_ne_true (Nat.lt_irrefl 0)
  · exact iff_of_true (map.rehash.isActive_iff.2 running.1) running.2

/-- The newer table is there while an episode runs. -/
theorem Links.allocated {Store Id Content : Type} [Arena Store Id Content] [DecidableEq Id]
    {map : Map Id} {store : Store} {linked : Finset Id} (links : map.Links store linked)
    (active : map.isRehashing = true) : map.rehash.newer.isAllocated = true := by
  obtain ⟨listed, ⟨newer, older, sound, _⟩, _⟩ := links
  exact map.rehash.newer.isAllocated_iff.2
    (sound.tables.together (map.rehash.isActive_iff.1 active))

end Map

/-- While an episode runs, a call starts its step with the same tables and settings, and no growth
is reported. -/
theorem Call.Starts.during {Store Id Content Memory : Type} [Arena Store Id Content]
    {call : Call Id Content Memory} {allocator : Allocator} {map start : Map Id}
    {store linked : Store} {grown : List Event}
    (starts : call.Starts allocator map store start linked grown)
    (active : map.isRehashing = true) (allocated : map.rehash.newer.isAllocated = true) :
    start.rehash.older = map.rehash.older ∧ start.capacity = map.capacity ∧
      start.config = map.config ∧ grown = [] := by
  cases call with
  | lookup query memory =>
      obtain ⟨rfl, _, rfl⟩ := starts
      exact ⟨rfl, rfl, rfl, rfl⟩
  | delete query memory =>
      obtain ⟨rfl, _, rfl⟩ := starts
      exact ⟨rfl, rfl, rfl, rfl⟩
  | insert id =>
      obtain ⟨first, joined, made, inserted, grows, config⟩ := starts
      have same : first = map.rehash.newer := by
        rw [Map.firstTable, if_pos allocated] at made
        exact (Except.ok.inj made).symm
      have running : Rehash.isActive ⟨joined, map.rehash.older, map.rehash.cursor⟩ = true := active
      rw [Map.growIfFull, running] at grows
      obtain ⟨rehash, rfl⟩ := Prod.mk.inj grows
      have slots : joined.capacity = map.capacity := by
        rw [(Table.alike_of_insert inserted).1.capacity, same, Map.capacity]
      rw [Map.capacity, ← rehash]
      exact ⟨rfl, slots, config, rfl⟩
  | resize target => exact starts.elim
  | resizeAtOnce target => exact starts.elim
  | reserve requested => exact starts.elim
  | clear => exact starts.elim
  | visit => exact starts.elim

/-- A call that carries an episode along succeeds as soon as there is a table. -/
theorem Call.Moves.succeeds {Id Content Memory : Type} {config : Config} {first : Nat}
    {before after : Gauge} {call : Call Id Content Memory} {reply : Reply Id Content Memory}
    {events : List Event} (moves : Call.Moves config first before call reply events after)
    (works : call.Works) (allocated : 0 < before.capacity) : reply.Succeeds := by
  rintro error rfl
  cases moves with
  | refused bare none => exact absurd bare (Nat.ne_of_gt allocated)
  | unreserved => exact works
  | resized resizes => exact works
  | resizedAtOnce resizes => exact works

/-- A step of the running episode continues it, whatever the call takes afterwards. -/
theorem Call.StepsOnce.continues {Store Id Content Memory : Type} [Arena Store Id Content]
    [DecidableEq Id] {call : Call Id Content Memory} {allocator : Allocator} {map : Map Id}
    {store : Store} {linked left : Finset Id}
    {outcome : Outcome (Map Id) Store (Reply Id Content Memory)} {taken : Option Side}
    (steps : call.StepsOnce allocator map store outcome taken) (links : map.Links store linked)
    (after : outcome.state.Links outcome.store left) (active : map.isRehashing = true) :
    map.Continues taken outcome := by
  obtain ⟨start, joined, grown, stepped, released, starts, carries, reported⟩ := steps
  obtain ⟨older, slots, config, rfl⟩ := starts.during active (links.allocated active)
  have formerSlots : start.rehash.gauge.olderCapacity = map.rehash.older.capacity :=
    congrArg Table.capacity older
  have resting : start.rehash.gauge.olderCapacity = 0 → start.rehash.gauge.older = 0 := by
    intro none
    rw [formerSlots] at none
    exact absurd (map.rehash.isActive_iff.1 active) (none ▸ Nat.lt_irrefl 0)
  have count : start.rehash.gauge.older = map.remaining := by
    rw [links.remaining_eq]
    exact congrArg Table.count older
  have gauge := carries.gauge
  constructor
  · have taking := Gauge.older_take carries.counted
    rw [← gauge, Gauge.older_step, count, config] at taking
    have left : outcome.state.remaining = outcome.state.rehash.gauge.older := after.remaining_eq
    omega
  · rw [reported, List.nil_append, Event.moved_append, carries.reports.moved resting,
      carries.releases, Gauge.moved_releases, count, config]
    rfl
  · calc outcome.state.capacity = outcome.state.rehash.gauge.capacity := rfl
      _ = start.rehash.gauge.capacity := by rw [gauge, Gauge.capacity_take, Gauge.capacity_step]
      _ = map.capacity := slots
  · intro running
    have given : outcome.state.rehash.gauge.olderCapacity ≠ 0 :=
      Nat.ne_of_gt (outcome.state.rehash.isActive_iff.1 running)
    have kept : outcome.state.rehash.gauge.olderCapacity = start.rehash.gauge.olderCapacity := by
      rw [gauge] at given ⊢
      rcases Gauge.olderCapacity_take _ taken with none | same
      · exact absurd none given
      · rw [same] at given ⊢
        exact (Gauge.olderCapacity_step _ _).resolve_left given
    exact kept.trans formerSlots
  · intro event member
    rw [reported, List.nil_append, List.mem_append, carries.releases] at member
    rcases member with stepping | ending
    · exact carries.reports.unstarted event stepping
    · exact Gauge.unstarted_releases _ _ event ending

namespace Map

/-- A legal call that carries an episode along continues the one that runs. -/
theorem Links.continues {Store Id Content Memory : Type} [Arena Store Id Content]
    [LawfulArena Store] [DecidableEq Id] {map : Map Id} {store : Store} {linked : Finset Id}
    (links : map.Links store linked) (active : map.isRehashing = true)
    {call : Call Id Content Memory} {allocator : Allocator}
    {outcome : Outcome (Map Id) Store (Reply Id Content Memory)}
    (performed : call.Performed allocator map store linked outcome) (works : call.Works) :
    ∃ taken, (taken.isSome = true ↔ call.Removes outcome.result) ∧ map.Continues taken outcome := by
  have allocated := map.rehash.newer.isAllocated_iff.1 (links.allocated active)
  obtain ⟨taken, steps, removes⟩ := performed.steps works (performed.moves.succeeds works allocated)
  exact ⟨taken, removes, steps.continues links performed.links active⟩

/-- A call that removes nothing leaves what its step has not moved. -/
theorem Links.remaining_add_min {Store Id Content Memory : Type} [Arena Store Id Content]
    [LawfulArena Store] [DecidableEq Id] {map : Map Id} {store : Store} {linked : Finset Id}
    (links : map.Links store linked) (active : map.isRehashing = true)
    {call : Call Id Content Memory} {allocator : Allocator}
    {outcome : Outcome (Map Id) Store (Reply Id Content Memory)}
    (performed : call.Performed allocator map store linked outcome) (works : call.Works)
    (kept : ¬call.Removes outcome.result) :
    outcome.state.remaining + min map.config.migrationWork map.remaining = map.remaining := by
  obtain ⟨taken, removes, continues⟩ := links.continues active performed works
  have nothing : taken = none := Option.not_isSome_iff_eq_none.1 (mt removes.1 kept)
  have dropped := continues.remaining
  rwa [nothing, if_neg (by decide)] at dropped

namespace Traffic

/-- Traffic keeps the settings, and the map links what the calls say. -/
theorem links {Store Id Content Memory : Type} [Arena Store Id Content] [LawfulArena Store]
    [DecidableEq Id] {map after : Map Id} {store final : Store} {linked left : Finset Id}
    {history : History Store Id Content Memory}
    (traffic : map.Traffic store linked history after final left) (links : map.Links store linked) :
    after.Links final left ∧ after.config = map.config := by
  induction traffic with
  | nothing => exact ⟨links, rfl⟩
  | call call allocator earlier careful works legal answered inductionHypothesis =>
      obtain ⟨before, config⟩ := inductionHypothesis
      have performed := (before.congr careful).answered legal answered
      exact ⟨performed.links, performed.config.trans config⟩

/-- Each call of an episode that goes on has moved the whole work. -/
theorem remaining_le {Store Id Content Memory : Type} [Arena Store Id Content] [LawfulArena Store]
    [DecidableEq Id] {map after : Map Id} {store final : Store} {linked left : Finset Id}
    {history : History Store Id Content Memory}
    (traffic : map.Traffic store linked history after final left) (links : map.Links store linked)
    (active : map.isRehashing = true) :
    (∃ entry ∈ history, entry.outcome.state.isRehashing = false) ∨
      after.isRehashing = true ∧
        after.remaining + map.config.migrationWork * history.length ≤ map.remaining := by
  induction traffic with
  | nothing => exact .inr ⟨active, Nat.le_refl _⟩
  | call call allocator earlier careful works legal answered inductionHypothesis =>
      rename_i outcome
      rcases inductionHypothesis with ⟨entry, member, ended⟩ | ⟨running, moved⟩
      · exact .inl ⟨entry, List.mem_cons_of_mem _ member, ended⟩
      obtain ⟨former, config⟩ := earlier.links links
      have former := former.congr careful
      have performed := former.answered legal answered
      obtain ⟨taken, _, continues⟩ := former.continues running performed works
      cases ended : outcome.state.isRehashing with
      | false => exact .inl ⟨_, List.mem_cons_self, ended⟩
      | true =>
          have left := performed.links.isRehashing_iff.1 ended
          have dropped := continues.remaining
          rw [config] at dropped
          refine .inr ⟨rfl, ?_⟩
          rw [List.length_cons, Nat.mul_succ]
          omega

/-- As long as the work does not suffice, the episode goes on, and without a removal it moves
exactly the work of each call. -/
theorem remaining_eq {Store Id Content Memory : Type} [Arena Store Id Content] [LawfulArena Store]
    [DecidableEq Id] {map after : Map Id} {store final : Store} {linked left : Finset Id}
    {history : History Store Id Content Memory}
    (traffic : map.Traffic store linked history after final left) (links : map.Links store linked)
    (active : map.isRehashing = true)
    (kept : ∀ entry ∈ history, ¬entry.call.Removes entry.outcome.result)
    (short : map.config.migrationWork * history.length < map.remaining) :
    after.isRehashing = true ∧
      after.remaining + map.config.migrationWork * history.length = map.remaining := by
  induction traffic with
  | nothing => exact ⟨active, rfl⟩
  | call call allocator earlier careful works legal answered inductionHypothesis =>
      rw [List.length_cons, Nat.mul_succ] at short ⊢
      obtain ⟨running, moved⟩ := inductionHypothesis
        (fun entry member => kept entry (List.mem_cons_of_mem _ member)) (by omega)
      obtain ⟨former, config⟩ := earlier.links links
      have former := former.congr careful
      have performed := former.answered legal answered
      have dropped := former.remaining_add_min running performed works (kept _ List.mem_cons_self)
      rw [config] at dropped
      constructor
      · rw [performed.links.isRehashing_iff]
        omega
      · omega

/-- The call with which the work suffices ends the episode, if none before has removed a payload. -/
theorem isRehashing_eq_false {Store Id Content Memory : Type} [Arena Store Id Content]
    [LawfulArena Store] [DecidableEq Id] {map after : Map Id} {store final : Store}
    {linked left : Finset Id} {entry : Entry Store Id Content Memory}
    {history : History Store Id Content Memory}
    (traffic : map.Traffic store linked (entry :: history) after final left)
    (links : map.Links store linked) (active : map.isRehashing = true)
    (kept : ∀ each ∈ entry :: history, ¬each.call.Removes each.outcome.result)
    (short : map.config.migrationWork * history.length < map.remaining)
    (enough : map.remaining ≤ map.config.migrationWork * (history.length + 1)) :
    after.isRehashing = false := by
  cases traffic with
  | call call allocator earlier careful works legal answered =>
      obtain ⟨running, moved⟩ := earlier.remaining_eq links active
        (fun each member => kept each (List.mem_cons_of_mem _ member)) short
      obtain ⟨former, config⟩ := earlier.links links
      have former := former.congr careful
      have performed := former.answered legal answered
      have dropped := former.remaining_add_min running performed works (kept _ List.mem_cons_self)
      rw [config] at dropped
      rw [Nat.mul_succ] at enough
      rw [← Bool.not_eq_true, performed.links.isRehashing_iff]
      omega

end Traffic

/-- A successful insertion, lookup or deletion makes exactly one step, which moves its work or all
that is left. While an episode runs, every such call succeeds and continues it, so that enough calls
end it, and exactly so many as the work asks for when none of them removes a payload. -/
theorem Reachable.progress {Store Id Content : Type} [Arena Store Id Content] [LawfulArena Store]
    [DecidableEq Id] {map : Map Id} {store : Store} {linked : Finset Id}
    (reachable : map.Reachable store linked) :
    (∀ {Memory : Type} (call : Call Id Content Memory) (allocator : Allocator), call.Works →
        call.Legal linked store →
      ∃ outcome, call.perform allocator map store = .ok outcome ∧
        (map.isRehashing = true → outcome.result.Succeeds) ∧
        (outcome.result.Succeeds → ∃ taken, call.StepsOnce allocator map store outcome taken ∧
          (taken.isSome = true ↔ call.Removes outcome.result) ∧
          (map.isRehashing = true → map.Continues taken outcome))) ∧
      (map.isRehashing = true → ∀ {Memory : Type} {history : History Store Id Content Memory}
          {after : Map Id} {final : Store} {left : Finset Id},
          map.Traffic store linked history after final left →
        (map.remaining ⌈/⌉ map.config.migrationWork ≤ history.length →
          ∃ entry ∈ history, entry.outcome.state.isRehashing = false) ∧
        ((∀ entry ∈ history, ¬entry.call.Removes entry.outcome.result) →
          (history.length < map.remaining ⌈/⌉ map.config.migrationWork →
            after.isRehashing = true) ∧
          (history.length = map.remaining ⌈/⌉ map.config.migrationWork →
            after.isRehashing = false))) := by
  have links := reachable.links
  obtain ⟨_, _, work⟩ := (Config.validate_eq_ok_iff _).1 links.valid
  constructor
  · intro Memory call allocator works legal
    obtain ⟨outcome, returned, performed⟩ := links.answer allocator legal
    refine ⟨outcome, returned, ?_, ?_⟩
    · intro active
      exact performed.moves.succeeds works
        (map.rehash.newer.isAllocated_iff.1 (links.allocated active))
    · intro succeeds
      obtain ⟨taken, steps, removes⟩ := performed.steps works succeeds
      exact ⟨taken, steps, removes, steps.continues links performed.links⟩
  · intro active Memory history after final left traffic
    refine ⟨?_, fun kept => ⟨?_, ?_⟩⟩
    · intro enough
      rw [ceilDiv_le_iff_le_smul work, smul_eq_mul] at enough
      rcases traffic.remaining_le links active with ended | ⟨running, moved⟩
      · exact ended
      · have more := (traffic.links links).1.isRehashing_iff.1 running
        omega
    · intro short
      rw [← not_le, ceilDiv_le_iff_le_smul work, not_le, smul_eq_mul] at short
      exact (traffic.remaining_eq links active kept short).1
    · intro exactly
      cases history with
      | nil =>
          have enough := (ceilDiv_le_iff_le_smul work).1 (Nat.le_of_eq exactly.symm)
          have some := links.isRehashing_iff.1 active
          exact absurd enough (Nat.not_le_of_lt some)
      | cons entry earlier =>
          rw [List.length_cons] at exactly
          have enough := (ceilDiv_le_iff_le_smul work).1 (Nat.le_of_eq exactly.symm)
          have short : ¬map.remaining ≤ map.config.migrationWork • earlier.length := by
            rw [← ceilDiv_le_iff_le_smul work, ← exactly]
            exact Nat.not_succ_le_self _
          exact traffic.isRehashing_eq_false links active kept (Nat.lt_of_not_le short) enough

/-- Two lookups that match nothing end an episode with two payloads left. -/
theorem Reachable.progress_lookups :
    ∃ (map after : Map Nat) (final : IndexedArena Char) (left : Finset Nat)
      (history : History (IndexedArena Char) Nat Char Unit),
      map.Reachable IndexedArena.three {2, 1, 0} ∧ map.remaining = 2 ∧
        map.Traffic IndexedArena.three {2, 1, 0} history after final left ∧
        history.length = 2 ∧ after.isRehashing = false := by
  have silent : Map.Traffic ⟨⟨⟨#[none, none, none, none, some 1, none, none, none], 7, 1⟩,
      ⟨#[none, some 2, none, some 0], 3, 2⟩, 0⟩, ⟨4, 8, 1⟩⟩ IndexedArena.three {2, 1, 0}
      ([] : History _ Nat Char Unit) _ _ _ := .nothing
  have once := silent.call (.lookup (.code 9 (.ofPredicate fun _ => false)) ()) .addressSpace
    (.refl _ _) trivial trivial rfl
  have twice := once.call (.lookup (.code 9 (.ofPredicate fun _ => false)) ()) .addressSpace
    (.refl _ _) trivial trivial rfl
  have reachable := Reachable.three_resized
  refine ⟨_, _, _, _, _, reachable, rfl, twice, rfl, ((reachable.progress.2 rfl twice).2 ?_).2 rfl⟩
  simp [Call.Removes]

end Map

end IncrementalMap
