/-
This file follows a map from its constructor through any sequence of legal calls.
-/

import IncrementalMap.Proofs.Run.Perform

namespace IncrementalMap

/-- An entry records a call, what it was given, and what it left. -/
structure Entry (Store Id Content Memory : Type) where
  call : Call Id Content Memory
  allocator : Allocator
  before : Map Id
  store : Store
  outcome : Outcome (Map Id) Store (Reply Id Content Memory)

/-- A history lists its entries from the latest to the first. -/
abbrev History (Store Id Content Memory : Type) := List (Entry Store Id Content Memory)

/-- These payloads were inserted and neither returned by a later deletion nor cleared. -/
def History.linked {Store Id Content Memory : Type} [DecidableEq Id] :
    History Store Id Content Memory → Finset Id
  | [] => ∅
  | entry :: earlier => entry.call.relink entry.outcome.result (linked earlier)

/-- Every constructor makes a map from valid settings, with or without a first table. -/
inductive Map.Built {Id : Type} : Map Id → Prop where
  | ofConfig (config : Config) {map : Map Id} (built : Map.ofConfig config = .ok map) : Built map
  | ofCapacity (allocator : Allocator) (requested : Nat) (config : Config) {map : Map Id}
      (built : Map.ofCapacity allocator requested config = .ok map) : Built map

/-- Between two calls the program may edit the arena, but not the links of linked payloads. -/
def Arena.Careful {Store Id Content : Type} [Arena Store Id Content] (linked : Finset Id)
    (before after : Store) : Prop :=
  ∀ id ∈ linked, link? after id = link? before id

theorem Arena.Careful.refl {Store Id Content : Type} [Arena Store Id Content] (linked : Finset Id)
    (store : Store) : Arena.Careful linked store store := fun _ _ => rfl

/-- A run makes legal calls of a map, which stands on a small arena and lets every allocation fail
that the allocators of the calls refuse. -/
inductive Run {Store Id Content Memory : Type} [Arena Store Id Content] [DecidableEq Id]
    (origin : Map Id) (arena : Store) : History Store Id Content Memory → Map Id → Store → Prop
    where
  | start (built : origin.Built) (small : Arena.FewerThan arena (2 ^ 63)) :
      Run origin arena [] origin arena
  | call {history : History Store Id Content Memory} {map : Map Id} {store edited : Store}
      (call : Call Id Content Memory) (allocator : Allocator)
      {outcome : Outcome (Map Id) Store (Reply Id Content Memory)}
      (earlier : Run origin arena history map store)
      (careful : Arena.Careful history.linked store edited)
      (small : Arena.FewerThan edited (2 ^ 63)) (legal : call.Legal history.linked edited)
      (answered : call.perform allocator map edited = .ok outcome) :
      Run origin arena (⟨call, allocator, map, edited, outcome⟩ :: history) outcome.state
        outcome.store

namespace Map.Built

/-- A built map holds nothing, and its gauge shows an unallocated or a blank table. -/
theorem links {Store Id Content : Type} [Arena Store Id Content] [DecidableEq Id] {map : Map Id}
    (built : map.Built) (store : Store) :
    map.Links store ∅ ∧ map.rehash.gauge = ⟨map.capacity, 0, 0, 0⟩ := by
  cases built with
  | ofConfig config built =>
      obtain ⟨valid, rfl⟩ := ofConfig_eq_ok built
      exact ⟨⟨[], empty_holds valid store, rfl⟩, rfl⟩
  | ofCapacity allocator requested config built =>
      obtain ⟨bare, events, made, reserved⟩ := ofCapacity_eq_ok built
      obtain ⟨valid, rfl⟩ := ofConfig_eq_ok made
      obtain ⟨holds, _, moves⟩ := (empty_holds valid store).reserve reserved
      have blank : map.rehash.gauge = ⟨map.capacity, 0, 0, 0⟩ := by
        rcases moves with ⟨_, rfl, _⟩ | ⟨_, capacity, _, _, gauge⟩
        · rfl
        · rw [gauge, show map.capacity = capacity from congrArg Gauge.capacity gauge]
      exact ⟨⟨[], holds, rfl⟩, blank⟩

end Map.Built

namespace Run

/-- A run links the payloads of its history, on an arena that stays small. -/
theorem links {Store Id Content Memory : Type} [Arena Store Id Content] [LawfulArena Store]
    [DecidableEq Id] {origin map : Map Id} {arena store : Store}
    {history : History Store Id Content Memory} (run : Run origin arena history map store) :
    map.Links store history.linked ∧ Arena.FewerThan store (2 ^ 63) := by
  induction run with
  | start built small => exact ⟨(built.links arena).1, small⟩
  | call call allocator earlier careful small legal answered inductionHypothesis =>
      have completed := (inductionHypothesis.1.congr careful).completed small legal answered
      exact ⟨completed.links, completed.small⟩

/-- A call may meet the arena as the call before has left it. -/
theorem next {Store Id Content Memory : Type} [Arena Store Id Content] [LawfulArena Store]
    [DecidableEq Id] {origin map : Map Id} {arena store : Store}
    {history : History Store Id Content Memory} (run : Run origin arena history map store)
    (call : Call Id Content Memory) (allocator : Allocator)
    {outcome : Outcome (Map Id) Store (Reply Id Content Memory)}
    (legal : call.Legal history.linked store)
    (answered : call.perform allocator map store = .ok outcome) :
    Run origin arena (⟨call, allocator, map, store, outcome⟩ :: history) outcome.state
      outcome.store :=
  run.call call allocator (.refl _ store) run.links.2 legal answered

/-- A run has been a run before its latest call. -/
theorem earlier {Store Id Content Memory : Type} [Arena Store Id Content] [DecidableEq Id]
    {origin map : Map Id} {arena store : Store} {entry : Entry Store Id Content Memory}
    {earlier : History Store Id Content Memory}
    (run : Run origin arena (entry :: earlier) map store) :
    ∃ before left, Run origin arena earlier before left := by
  cases run with
  | call call allocator before careful small legal answered => exact ⟨_, _, before⟩

/-- The latest call of a run was performed on what the run had linked before. -/
theorem performed {Store Id Content Memory : Type} [Arena Store Id Content] [LawfulArena Store]
    [DecidableEq Id] {origin map : Map Id} {arena store : Store}
    {entry : Entry Store Id Content Memory} {earlier : History Store Id Content Memory}
    (run : Run origin arena (entry :: earlier) map store) :
    entry.call.Performed entry.allocator entry.before entry.store earlier.linked entry.outcome := by
  cases run with
  | call call allocator before careful small legal answered =>
      have links := before.links.1.congr careful
      exact links.answered legal answered

/-- A run keeps the settings of its map. -/
theorem config {Store Id Content Memory : Type} [Arena Store Id Content] [LawfulArena Store]
    [DecidableEq Id] {origin map : Map Id} {arena store : Store}
    {history : History Store Id Content Memory} (run : Run origin arena history map store) :
    map.config = origin.config := by
  induction run with
  | start built small => rfl
  | call call allocator earlier careful small legal answered inductionHypothesis =>
      have performed := (earlier.links.1.congr careful).answered legal answered
      exact performed.config.trans inductionHypothesis

/-- A property of histories and gauges holds after every run when it holds of a gauge without
payloads and every permitted call that moves a small gauge keeps it. -/
theorem gauge_induction {Store Id Content Memory : Type} [Arena Store Id Content]
    [LawfulArena Store] [DecidableEq Id] {origin map : Map Id} {arena store : Store}
    {history : History Store Id Content Memory} (run : Run origin arena history map store)
    {motive : History Store Id Content Memory → Gauge → Prop}
    {permitted : Entry Store Id Content Memory → Prop} (each : ∀ entry ∈ history, permitted entry)
    (blank : (0 < origin.capacity → IsCapacity origin.capacity) →
      motive [] ⟨origin.capacity, 0, 0, 0⟩)
    (moved : ∀ (entry : Entry Store Id Content Memory) (earlier : History Store Id Content Memory),
      permitted entry → motive earlier entry.before.rehash.gauge →
        entry.call.Moves origin.config (entry.before.firstCapacity entry.allocator)
          entry.before.rehash.gauge entry.outcome.result entry.outcome.events
          entry.outcome.state.rehash.gauge →
        entry.outcome.state.rehash.gauge.size < 2 ^ 63 →
          motive (entry :: earlier) entry.outcome.state.rehash.gauge) :
    motive history map.rehash.gauge := by
  induction run with
  | start built small =>
      obtain ⟨links, gauge⟩ := built.links arena
      rw [gauge]
      exact blank links.isCapacity
  | call call allocator earlier careful small legal answered inductionHypothesis =>
      have before := inductionHypothesis fun entry member =>
        each entry (List.mem_cons_of_mem _ member)
      have completed := (earlier.links.1.congr careful).completed small legal answered
      have moves := completed.moves
      rw [earlier.config] at moves
      exact moved _ _ (each _ List.mem_cons_self) before moves
        (completed.links.size_lt completed.small)

end Run

end IncrementalMap
