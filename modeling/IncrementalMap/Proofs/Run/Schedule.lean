/-
This file proves that the counts of a map follow the requests of its calls, whatever its payloads.
-/

import IncrementalMap.Proofs.Map.Turn
import IncrementalMap.Proofs.Run.History

namespace IncrementalMap

/-- A request is a call without the payloads that it is about. -/
inductive Request where
  | insert
  | lookup
  | delete
  | resize (target : Nat)
  | resizeAtOnce (target : Nat)
  | reserve (requested : Nat)
  | clear
  | visit

namespace Request

/-- Each request makes its own turn, and a deletion depends on the side from which it takes a
payload. -/
def turn (request : Request) (config : Config) (allocator : Allocator) (taken : Option Side)
    (gauge : Gauge) : Turn :=
  match request with
  | .insert => gauge.insert config allocator
  | .lookup => gauge.search config none
  | .delete => gauge.search config taken
  | .resize target => gauge.resize config allocator target
  | .resizeAtOnce target => gauge.resizeAtOnce allocator target
  | .reserve requested => gauge.reserve allocator requested
  | .clear => gauge.clear
  | .visit => ⟨.ok (), [], gauge⟩

end Request

/-- Every call makes a request. -/
def Call.request {Id Content Memory : Type} : Call Id Content Memory → Request
  | .insert _ => .insert
  | .lookup .. => .lookup
  | .delete .. => .delete
  | .resize target => .resize target
  | .resizeAtOnce target => .resizeAtOnce target
  | .reserve requested => .reserve requested
  | .clear => .clear
  | .visit => .visit

/-- A search and a visit have no error for a result. -/
def Reply.result {Id Content Memory : Type} : Reply Id Content Memory → Except MapError Unit
  | .done result => result
  | .found .. => .ok ()
  | .visited _ => .ok ()

namespace Entry

variable {Store Id Content Memory : Type}

/-- This is the turn that a call has made. -/
def turn (entry : Entry Store Id Content Memory) : Turn :=
  entry.outcome.state.turn entry.outcome.result.result entry.outcome.events

/-- A deletion takes its payload from the older table when this still reaches it after the step. -/
def takesOlder [Arena Store Id Content] [DecidableEq Id] (entry : Entry Store Id Content Memory) :
    Bool :=
  match entry.call, entry.outcome.result with
  | .delete .., .found (some id) _ => entry.before.keepsOlder entry.store id
  | _, _ => false

/-- A call follows its request when it makes the turn of the request and takes a payload from a side
that counts one, exactly when it returns one. -/
structure Follows [Arena Store Id Content] [DecidableEq Id] (entry : Entry Store Id Content Memory)
    (taken : Option Side) : Prop where
  turn : entry.turn = entry.call.request.turn entry.before.config entry.allocator taken
    entry.before.rehash.gauge
  removes : taken.isSome = true ↔ entry.call.Removes entry.outcome.result
  older : taken = some .older ↔ entry.takesOlder = true
  counted : ∀ side, taken = some side →
    0 < (entry.before.rehash.gauge.step entry.before.config.migrationWork).count side

/-- A call that takes nothing follows its request when it makes the turn of the request. -/
theorem Follows.of_turn [Arena Store Id Content] [DecidableEq Id]
    {entry : Entry Store Id Content Memory}
    (turn : entry.turn = entry.call.request.turn entry.before.config entry.allocator none
      entry.before.rehash.gauge)
    (keeps : ¬entry.call.Removes entry.outcome.result) (stays : entry.takesOlder = false) :
    entry.Follows none where
  turn := turn
  removes := iff_of_false nofun keeps
  older := iff_of_false nofun (stays ▸ nofun)
  counted := nofun

end Entry

namespace Map

/-- A course makes legal calls of a map from its constructor on, between which the program may edit
the arena. -/
inductive Course {Store Id Content Memory : Type} [Arena Store Id Content] [DecidableEq Id]
    (origin : Map Id) (arena : Store) : History Store Id Content Memory → Map Id → Store → Prop
    where
  | start (built : origin.Built) : Course origin arena [] origin arena
  | call {history : History Store Id Content Memory} {map : Map Id} {store edited : Store}
      (call : Call Id Content Memory) (allocator : Allocator)
      {outcome : Outcome (Map Id) Store (Reply Id Content Memory)}
      (earlier : Course origin arena history map store)
      (careful : Arena.Careful history.linked store edited)
      (legal : call.Legal history.linked edited)
      (answered : call.perform allocator map edited = .ok outcome) :
      Course origin arena (⟨call, allocator, map, edited, outcome⟩ :: history) outcome.state
        outcome.store

variable {Store Id Content Memory : Type} [Arena Store Id Content] [DecidableEq Id]

namespace Course

variable [LawfulArena Store] {origin map : Map Id} {arena store : Store}
  {history : History Store Id Content Memory}

/-- A course links the payloads of its history. -/
theorem links (course : Course origin arena history map store) :
    map.Links store history.linked := by
  induction course with
  | start built => exact (built.links arena).1
  | call call allocator earlier careful legal answered inductionHypothesis =>
      exact ((inductionHypothesis.congr careful).answered legal answered).links

/-- A course keeps the settings of its map. -/
theorem config (course : Course origin arena history map store) : map.config = origin.config := by
  induction course with
  | start built => rfl
  | call call allocator earlier careful legal answered inductionHypothesis =>
      have performed := (earlier.links.congr careful).answered legal answered
      exact performed.config.trans inductionHypothesis

omit [LawfulArena Store] in
/-- A call may meet the arena as the call before has left it. -/
theorem next (course : Course origin arena history map store) (call : Call Id Content Memory)
    (allocator : Allocator) {outcome : Outcome (Map Id) Store (Reply Id Content Memory)}
    (legal : call.Legal history.linked store)
    (answered : call.perform allocator map store = .ok outcome) :
    Course origin arena (⟨call, allocator, map, store, outcome⟩ :: history) outcome.state
      outcome.store :=
  course.call call allocator (.refl _ store) legal answered

end Course

/-- Every legal call follows its request. -/
theorem Links.follows [LawfulArena Store] {map : Map Id} {store : Store} {linked : Finset Id}
    (links : map.Links store linked) {call : Call Id Content Memory} {allocator : Allocator}
    {outcome : Outcome (Map Id) Store (Reply Id Content Memory)} (legal : call.Legal linked store)
    (answered : call.perform allocator map store = .ok outcome) :
    ∃ taken, Entry.Follows ⟨call, allocator, map, store, outcome⟩ taken := by
  obtain ⟨listed, holds, rfl⟩ := links
  cases call with
  | insert id =>
      obtain ⟨inserted, returned, rfl⟩ := exists_of_map_eq_ok answered
      have turn := holds.insert_turn legal.1 (by simpa using legal.2) returned
      exact ⟨none, .of_turn turn not_false rfl⟩
  | lookup query memory =>
      obtain ⟨found, returned, rfl⟩ := exists_of_map_eq_ok answered
      obtain ⟨newer, older, sound, _⟩ := holds
      rw [query.lookup_eq] at returned
      exact ⟨none, .of_turn (sound.lookup_turn returned) not_false rfl⟩
  | delete query memory =>
      obtain ⟨found, returned, rfl⟩ := exists_of_map_eq_ok answered
      obtain ⟨newer, older, sound, _⟩ := holds
      rw [query.delete_eq] at returned
      obtain ⟨⟨found, left⟩, after, final, events⟩ := found
      obtain ⟨taken, turn, ends⟩ := sound.delete_turn returned
      cases found with
      | none =>
          obtain rfl : taken = none := ends
          exact ⟨none, .of_turn turn not_false rfl⟩
      | some id =>
          obtain ⟨side, rfl, kept, counted⟩ := ends
          refine ⟨some side, turn, iff_of_true rfl trivial, ?_, ?_⟩
          · rw [Option.some_inj]
            exact kept
          · intro other same
            rwa [← Option.some.inj same]
  | resize target =>
      obtain ⟨resized, returned, rfl⟩ := exists_of_map_eq_ok answered
      obtain ⟨newer, older, sound, _⟩ := holds
      exact ⟨none, .of_turn (sound.resize_turn returned) not_false rfl⟩
  | resizeAtOnce target =>
      obtain ⟨resized, returned, rfl⟩ := exists_of_map_eq_ok answered
      obtain ⟨newer, older, sound, _⟩ := holds
      exact ⟨none, .of_turn (sound.resizeAtOnce_turn returned) not_false rfl⟩
  | reserve requested =>
      have turn := map.reserve_turn allocator requested
      rw [Call.perform] at answered
      rcases reserved : map.reserve allocator requested with error | ⟨after, events⟩ <;>
        rw [reserved] at answered turn <;> obtain rfl := Except.ok.inj answered
      · exact ⟨none, .of_turn turn not_false rfl⟩
      · exact ⟨none, .of_turn turn not_false rfl⟩
  | clear =>
      obtain rfl := Except.ok.inj answered
      exact ⟨none, .of_turn map.clear_turn not_false rfl⟩
  | visit =>
      obtain ⟨items, visited, rfl⟩ := exists_of_map_eq_ok answered
      exact ⟨none, .of_turn rfl not_false rfl⟩

end Map

end IncrementalMap
