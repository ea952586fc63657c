/-
This file lists the calls that a program can make of a map, and what their replies must say.
-/

import IncrementalMap.Proofs.Map.Blank
import IncrementalMap.Proofs.Map.Insert
import IncrementalMap.Proofs.Map.Resize
import IncrementalMap.Proofs.Map.Traversal

namespace IncrementalMap

/-- A query names payloads by their hash code, or by a probe node outside the arena. -/
inductive Query (Id Content Memory : Type) where
  | code (hash : UInt64) (matcher : Matcher Content Memory)
  | probe (node : Node Id Content) (matcher : Content → Matcher Content Memory)

namespace Query

/-- A probe node gives its own hash code. -/
def hash {Id Content Memory : Type} : Query Id Content Memory → UInt64
  | .code hash _ => hash
  | .probe node _ => node.link.hash

/-- A probe node gives its content to the matcher. -/
def matcher {Id Content Memory : Type} : Query Id Content Memory → Matcher Content Memory
  | .code _ matcher => matcher
  | .probe node matcher => matcher node.content

/-- Each kind of query has its own lookup. -/
def lookup {Store Id Content Memory : Type} [Arena Store Id Content]
    (query : Query Id Content Memory) (map : Map Id) (store : Store) (memory : Memory) :
    Except (Fault Id) (Outcome (Map Id) Store (Option Id × Memory)) :=
  match query with
  | .code hash matcher => map.lookup store hash matcher memory
  | .probe node matcher => map.lookupProbe store node matcher memory

/-- Each kind of query has its own deletion. -/
def delete {Store Id Content Memory : Type} [Arena Store Id Content]
    (query : Query Id Content Memory) (map : Map Id) (store : Store) (memory : Memory) :
    Except (Fault Id) (Outcome (Map Id) Store (Option Id × Memory)) :=
  match query with
  | .code hash matcher => map.delete store hash matcher memory
  | .probe node matcher => map.deleteProbe store node matcher memory

theorem lookup_eq {Store Id Content Memory : Type} [Arena Store Id Content]
    (query : Query Id Content Memory) (map : Map Id) (store : Store) (memory : Memory) :
    query.lookup map store memory = map.lookup store query.hash query.matcher memory := by
  cases query with
  | code hash matcher => rw [lookup, Query.hash, Query.matcher]
  | probe node matcher => rw [lookup, Map.lookupProbe, Query.hash, Query.matcher]

theorem delete_eq {Store Id Content Memory : Type} [Arena Store Id Content]
    (query : Query Id Content Memory) (map : Map Id) (store : Store) (memory : Memory) :
    query.delete map store memory = map.delete store query.hash query.matcher memory := by
  cases query with
  | code hash matcher => rw [delete, Query.hash, Query.matcher]
  | probe node matcher => rw [delete, Map.deleteProbe, Query.hash, Query.matcher]

end Query

/-- A call is one request that a program makes of a map. -/
inductive Call (Id Content Memory : Type) where
  | insert (id : Id)
  | lookup (query : Query Id Content Memory) (memory : Memory)
  | delete (query : Query Id Content Memory) (memory : Memory)
  | resize (target : Nat)
  | resizeAtOnce (target : Nat)
  | reserve (requested : Nat)
  | clear
  | visit

/-- A reply says whether the call succeeded, which payload it found, or which it visited. -/
inductive Reply (Id Content Memory : Type) where
  | done (result : Except MapError Unit)
  | found (id : Option Id) (memory : Memory)
  | visited (items : List (Id × Node Id Content))

/-- A reply is a success unless it carries an error. -/
def Reply.Succeeds {Id Content Memory : Type} (reply : Reply Id Content Memory) : Prop :=
  ∀ error, reply ≠ .done (.error error)

namespace Reply.Succeeds

variable {Id Content Memory : Type}

/-- A call that is done without an error succeeds. -/
theorem done : Succeeds (.done (.ok ()) : Reply Id Content Memory) := by simp [Succeeds]

/-- A search always succeeds. -/
theorem found {id : Option Id} {memory : Memory} :
    Succeeds (.found id memory : Reply Id Content Memory) := by
  simp [Succeeds]

/-- A visit always succeeds. -/
theorem visited {items : List (Id × Node Id Content)} :
    Succeeds (.visited items : Reply Id Content Memory) := by
  simp [Succeeds]

end Reply.Succeeds

/-- The outcome of a call is handed on with its reply. -/
def Outcome.withReply {State Store Result Answer : Type} (reply : Result → Answer)
    (outcome : Outcome State Store Result) : Outcome State Store Answer :=
  ⟨reply outcome.result, outcome.state, outcome.store, outcome.events⟩

namespace Call

/-- Each call runs the operation of its name with what memory the allocator has left. -/
def perform {Store Id Content Memory : Type} [Arena Store Id Content]
    (call : Call Id Content Memory) (allocator : Allocator) (map : Map Id) (store : Store) :
    Except (Fault Id) (Outcome (Map Id) Store (Reply Id Content Memory)) :=
  match call with
  | .insert id => (map.insert store allocator id).map (.withReply .done)
  | .lookup query memory =>
      (query.lookup map store memory).map (.withReply fun (id, memory) => .found id memory)
  | .delete query memory =>
      (query.delete map store memory).map (.withReply fun (id, memory) => .found id memory)
  | .resize target => (map.resize store allocator target).map (.withReply .done)
  | .resizeAtOnce target => (map.resizeAtOnce store allocator target).map (.withReply .done)
  | .reserve requested =>
      match map.reserve allocator requested with
      | .error error => .ok ⟨.done (.error error), map, store, []⟩
      | .ok (map, events) => .ok ⟨.done (.ok ()), map, store, events⟩
  | .clear => .ok ⟨.done (.ok ()), map.clear.1, store, map.clear.2⟩
  | .visit =>
      ((Traversal.start map).toList store).map fun items => ⟨.visited items, map, store, []⟩

/-- Only a payload of the arena that is not yet linked may be inserted. -/
def Legal {Store Id Content Memory : Type} [Arena Store Id Content] (call : Call Id Content Memory)
    (linked : Finset Id) (store : Store) : Prop :=
  match call with
  | .insert id => (Arena.node? store id).isSome ∧ id ∉ linked
  | _ => True

/-- A successful insertion links its payload, a deletion unlinks the payload that it returns, and
a clear forgets all of them. -/
def relink {Id Content Memory : Type} [DecidableEq Id] (call : Call Id Content Memory)
    (reply : Reply Id Content Memory) (linked : Finset Id) : Finset Id :=
  match call, reply with
  | .insert id, .done (.ok ()) => Insert.insert id linked
  | .delete .., .found (some id) _ => linked.erase id
  | .clear, _ => ∅
  | _, _ => linked

/-- A search runs its matcher over the linked payloads with the hash code, in some order, and
takes the first that is accepted. -/
def Chooses {Store Id Content Memory : Type} [Arena Store Id Content]
    (query : Query Id Content Memory) (memory : Memory) (linked : Finset Id) (store : Store)
    (reply : Reply Id Content Memory) : Prop :=
  ∃ candidates, Arena.Offers store (linked : Set Id) query.hash candidates ∧
    reply = .found (query.matcher.choose candidates memory).1
      (query.matcher.choose candidates memory).2

/-- A visit lists the linked payloads, each once and with its node. -/
structure Visits {Store Id Content : Type} [Arena Store Id Content] [DecidableEq Id]
    (linked : Finset Id) (store : Store) (items : List (Id × Node Id Content)) : Prop where
  once : (items.map Prod.fst).Nodup
  all : (items.map Prod.fst).toFinset = linked
  nodes : ∀ item ∈ items, Arena.node? store item.1 = some item.2

/-- A reply answers a call when it is the right one for the linked payloads. -/
def Answers {Store Id Content Memory : Type} [Arena Store Id Content] [DecidableEq Id]
    (call : Call Id Content Memory) (linked : Finset Id) (store : Store)
    (reply : Reply Id Content Memory) : Prop :=
  match call with
  | .lookup query memory | .delete query memory => Chooses query memory linked store reply
  | .visit => ∃ items, reply = .visited items ∧ Visits linked store items
  | .clear => reply = .done (.ok ())
  | _ => ∃ result, reply = .done result

/-- A call moves the gauge of a map and reports it. An insertion starts with a table of the first
capacity, and a search makes one step. -/
inductive Moves {Id Content Memory : Type} (config : Config) (first : Nat) (before : Gauge) :
    Call Id Content Memory → Reply Id Content Memory → List Event → Gauge → Prop where
  | refused {id : Id} {error : MapError} (bare : before.capacity = 0) (none : first = 0) :
      Moves config first before (.insert id) (.done (.error error)) [] before
  | admitted {id : Id} {grown advanced : List Event} {gauge : Gauge} (valid : IsCapacity first)
      (kept : 0 < before.capacity → first = before.capacity)
      (grows : (before.arrive first).Grows config grown gauge)
      (reports : gauge.Reports config.migrationWork advanced) :
      Moves config first before (.insert id) (.done (.ok ())) (grown ++ advanced)
        (gauge.step config.migrationWork)
  | searched {query : Query Id Content Memory} {memory left : Memory} {found : Option Id}
      {events : List Event} (reports : before.Reports config.migrationWork events) :
      Moves config first before (.lookup query memory) (.found found left) events
        (before.step config.migrationWork)
  | missed {query : Query Id Content Memory} {memory left : Memory} {events : List Event}
      (reports : before.Reports config.migrationWork events) :
      Moves config first before (.delete query memory) (.found none left) events
        (before.step config.migrationWork)
  | removed {query : Query Id Content Memory} {memory left : Memory} {id : Id}
      {events : List Event} (side : Side)
      (counted : 0 < (before.step config.migrationWork).count side)
      (reports : before.Reports config.migrationWork events) :
      Moves config first before (.delete query memory) (.found (some id) left)
        (events ++ (before.step config.migrationWork).releases (some side))
        ((before.step config.migrationWork).detach side)
  | unreserved {requested : Nat} {result : Except MapError Unit} :
      Moves config first before (.reserve requested) (.done result) [] before
  | reserved {requested capacity : Nat} (bare : before.capacity = 0)
      (rounded : capacityFor? requested = some capacity) :
      Moves config first before (.reserve requested) (.done (.ok ())) [.reserved capacity]
        ⟨capacity, 0, 0, 0⟩
  | cleared {events : List Event} (reports : events ⊆ [.clear before.size]) :
      Moves config first before .clear (.done (.ok ())) events ⟨0, 0, 0, 0⟩
  | visited {items : List (Id × Node Id Content)} :
      Moves config first before .visit (.visited items) [] before
  | resized {target : Nat} {result : Except MapError Unit} {events : List Event} {after : Gauge}
      (resizes : before.Resizes config.migrationWork result after) :
      Moves config first before (.resize target) (.done result) events after
  | resizedAtOnce {target : Nat} {result : Except MapError Unit} {events : List Event}
      {after : Gauge} (resizes : before.Resizes config.migrationWork result after) :
      Moves config first before (.resizeAtOnce target) (.done result) events after

/-- These calls carry an episode along. -/
def Works {Id Content Memory : Type} (call : Call Id Content Memory) : Prop :=
  match call with
  | .insert _ | .lookup .. | .delete .. => True
  | _ => False

/-- A search starts its step with the map as it is, and an insertion admits its payload first. -/
def Starts {Store Id Content Memory : Type} [Arena Store Id Content]
    (call : Call Id Content Memory) (allocator : Allocator) (map : Map Id) (store : Store)
    (start : Map Id) (linked : Store) (grown : List Event) : Prop :=
  match call with
  | .insert id => map.Admits store allocator id start linked grown
  | .lookup .. | .delete .. => start = map ∧ linked = store ∧ grown = []
  | _ => False

/-- A call steps once when it makes exactly one step, between its start and what it takes. -/
def StepsOnce {Store Id Content Memory : Type} [Arena Store Id Content]
    (call : Call Id Content Memory) (allocator : Allocator) (map : Map Id) (store : Store)
    (outcome : Outcome (Map Id) Store (Reply Id Content Memory)) (taken : Option Side) : Prop :=
  ∃ start linked grown stepped released, call.Starts allocator map store start linked grown ∧
    start.Carries linked stepped taken released outcome.state outcome.store ∧
    outcome.events = grown ++ stepped.events ++ released

/-- Only a deletion that finds a payload removes one. -/
def Removes {Id Content Memory : Type} (call : Call Id Content Memory)
    (reply : Reply Id Content Memory) : Prop :=
  match call, reply with
  | .delete .., .found (some _) _ => True
  | _, _ => False

end Call

end IncrementalMap
