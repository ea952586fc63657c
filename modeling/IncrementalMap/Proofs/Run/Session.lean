/-
This file proves that the successors of payloads that are not linked have no influence on a map.
-/

import IncrementalMap.Proofs.Run.Mirror
import IncrementalMap.Proofs.Run.Reachable

namespace IncrementalMap

/-- An observation is what a program sees of a call: what it asked for, the reply and the events,
and the map that the call leaves. -/
structure Observation (Id Content Memory : Type) where
  call : Call Id Content Memory
  allocator : Allocator
  reply : Reply Id Content Memory
  events : List Event
  after : Map Id

/-- A session makes legal calls of a map one after the other and lists its observations, the latest
first. -/
inductive Map.Session {Store Id Content Memory : Type} [Arena Store Id Content] [DecidableEq Id]
    (map : Map Id) (store : Store) (linked : Finset Id) :
    List (Observation Id Content Memory) → Map Id → Store → Finset Id → Prop where
  | nothing : Session map store linked [] map store linked
  | call {seen : List (Observation Id Content Memory)} {before : Map Id} {left : Store}
      {held : Finset Id} (call : Call Id Content Memory) (allocator : Allocator)
      {outcome : Outcome (Map Id) Store (Reply Id Content Memory)}
      (earlier : Session map store linked seen before left held) (legal : call.Legal held left)
      (answered : call.perform allocator before left = .ok outcome) :
      Session map store linked
        (⟨call, allocator, outcome.result, outcome.events, outcome.state⟩ :: seen) outcome.state
        outcome.store (call.relink outcome.result held)

/-- One map over a store imitates another map over its own store when every session of the other
map is also a session of this one, with the same observations and the same end. The arenas then
hold the same payloads and agree on the links of those that are linked, and the next legal call
returns. -/
def Map.Imitates {Store Id Content : Type} [Arena Store Id Content] [DecidableEq Id] (map : Map Id)
    (second : Store) (other : Map Id) (first : Store) (linked : Finset Id) : Prop :=
  ∀ {Memory : Type} {seen : List (Observation Id Content Memory)} {after : Map Id} {left : Store}
    {held : Finset Id}, other.Session first linked seen after left held →
      (∃ final, map.Session second linked seen after final held ∧ Arena.SamePayloads left final ∧
        Arena.Careful held left final) ∧
      ∀ (call : Call Id Content Memory) (allocator : Allocator), call.Legal held left →
        ∃ outcome, call.perform allocator after left = .ok outcome

/-- Two maps behave alike over their stores when each of them imitates the other. -/
def Map.BehavesLike {Store Id Content : Type} [Arena Store Id Content] [DecidableEq Id] (map : Map Id)
    (first : Store) (other : Map Id) (second : Store) (linked : Finset Id) : Prop :=
  map.Imitates first other second linked ∧ other.Imitates second map first linked

/-- A call is legal for every arena with the same payloads. -/
theorem Call.Legal.congr {Store Id Content Memory : Type} [Arena Store Id Content]
    {call : Call Id Content Memory} {linked : Finset Id} {first second : Store}
    (legal : call.Legal linked first) (payloads : Arena.SamePayloads first second) :
    call.Legal linked second := by
  cases call with
  | insert id => exact ⟨(payloads.isSome id).trans legal.1, legal.2⟩
  | _ => exact trivial

namespace Map

variable {Store Id Content Memory : Type} [Arena Store Id Content] [DecidableEq Id] {map : Map Id}
  {first second : Store} {linked : Finset Id}

namespace Links

/-- A map that links its payloads keeps to them, and its tables are sound. -/
theorem inside (links : map.Links first linked) :
    ∃ newer older, map.Sound first newer older ∧
      (∀ id, id ∈ map.rehash.ids newer older ↔ id ∈ (linked : Set Id)) := by
  obtain ⟨listed, ⟨newer, older, sound, same⟩, rfl⟩ := links
  refine ⟨newer, older, sound, ?_⟩
  intro id
  rw [same.mem_iff, Finset.mem_coe, List.mem_toFinset]

/-- The linked payloads lead to each other only. -/
theorem closed (links : map.Links first linked) :
    ∀ id ∈ (linked : Set Id), ∀ node, Arena.node? first id = some node →
      ∀ next, node.link.next = some next → next ∈ (linked : Set Id) := by
  obtain ⟨newer, older, sound, members⟩ := links.inside
  intro id member node found next leads
  exact (members next).1 (sound.tables.closed ((members id).2 member) found leads)

/-- Stores that agree on the links of the linked payloads mirror each other there. -/
theorem mirrors (links : map.Links first linked) (payloads : Arena.SamePayloads first second)
    (careful : Arena.Careful linked first second) :
    Arena.Mirrors (linked : Set Id) ∅ first first second where
  payloads id _ := payloads id
  lacks id gone := absurd gone (Set.notMem_empty id)
  links id member _ := careful id member
  closed := links.closed
  frame := .refl _ first

/-- What one store answers to a legal call the other one answers as well. -/
theorem answer_mirrored [LawfulArena Store] (links : map.Links first linked)
    (payloads : Arena.SamePayloads first second) (careful : Arena.Careful linked first second)
    {allocator : Allocator} {call : Call Id Content Memory}
    {outcome : Outcome (Map Id) Store (Reply Id Content Memory)}
    (answered : call.perform allocator map first = .ok outcome) :
    ∃ final, call.perform allocator map second =
        .ok ⟨outcome.result, outcome.state, final, outcome.events⟩ ∧
      Arena.SamePayloads outcome.store final ∧
      Arena.Careful (call.relink outcome.result linked) outcome.store final := by
  obtain ⟨newer, older, sound, members⟩ := links.inside
  obtain ⟨more, _, kept, ⟨final, returned, stores⟩ | ⟨id, gone, _⟩⟩ := sound.answer_mirrored
    (links.mirrors payloads careful) (fun id => (members id).1) answered
  · refine ⟨final, returned, stores.samePayloads, ?_⟩
    intro id member
    apply stores.links id _ (Set.notMem_empty id)
    rcases kept with rfl | ⟨rfl, error, refused⟩
    · exact call.relink_subset outcome.result linked member
    · rw [refused] at member
      exact call.relink_error error linked member
  · exact absurd gone.2 (Set.notMem_empty id)

end Links

/-- A session keeps the links of a map. -/
theorem Session.links [LawfulArena Store] {seen : List (Observation Id Content Memory)}
    {after : Map Id} {left : Store} {held : Finset Id}
    (session : map.Session first linked seen after left held) (links : map.Links first linked) :
    after.Links left held := by
  induction session with
  | nothing => exact links
  | call call allocator earlier legal answered inductionHypothesis =>
      exact (inductionHypothesis.answered legal answered).links

/-- A session over one store is a session over another one that holds the same payloads and agrees
on the links of those that are linked. -/
theorem Session.mirrored [LawfulArena Store] {seen : List (Observation Id Content Memory)}
    {after : Map Id} {left : Store} {held : Finset Id}
    (session : map.Session first linked seen after left held) (links : map.Links first linked)
    (payloads : Arena.SamePayloads first second) (careful : Arena.Careful linked first second) :
    ∃ final, map.Session second linked seen after final held ∧ Arena.SamePayloads left final ∧
      Arena.Careful held left final := by
  induction session with
  | nothing => exact ⟨second, .nothing, payloads, careful⟩
  | call call allocator earlier legal answered inductionHypothesis =>
      obtain ⟨between, before, same, agree⟩ := inductionHypothesis
      obtain ⟨final, returned, samePayloads, agreeLinks⟩ :=
        (earlier.links links).answer_mirrored same agree answered
      exact ⟨final, before.call call allocator (Call.Legal.congr legal same) returned,
        samePayloads, agreeLinks⟩

/-- A map imitates itself over every arena with the same payloads that agrees on the links of those
that are linked. -/
theorem Links.imitates [LawfulArena Store] (links : map.Links first linked)
    (payloads : Arena.SamePayloads first second) (careful : Arena.Careful linked first second) :
    map.Imitates second map first linked := by
  intro Memory seen after left held session
  constructor
  · exact session.mirrored links payloads careful
  · intro call allocator legal
    obtain ⟨outcome, returned, _⟩ := (session.links links).answer allocator legal
    exact ⟨outcome, returned⟩

/-- It behaves alike over both arenas, because each of them may come first. -/
theorem Links.behavesLike [LawfulArena Store] (links : map.Links first linked)
    (payloads : Arena.SamePayloads first second) (careful : Arena.Careful linked first second) :
    map.BehavesLike first map second linked :=
  ⟨(links.congr careful).imitates payloads.symm fun id member => (careful id member).symm,
    links.imitates payloads careful⟩

/-- The successors of payloads that are not linked change nothing: a reachable map behaves alike
over all arenas that differ in them only. So after a clear it behaves like a new map with the same
settings, over an arena with any other successors or with none at all. -/
theorem Reachable.ignores_stale [LawfulArena Store] (reachable : map.Reachable first linked) :
    (∀ second, Arena.SamePayloads first second → Arena.Careful linked first second →
      map.BehavesLike first map second linked) ∧
    ∃ fresh, Map.ofConfig map.config = .ok fresh ∧
      ∀ second, Arena.SamePayloads first second → map.clear.1.BehavesLike first fresh second ∅ := by
  have links := reachable.links
  constructor
  · intro second payloads careful
    exact links.behavesLike payloads careful
  · have valid := links.valid
    have built : (Map.ofConfig map.config : Except MapError (Map Id)) =
        .ok (Map.empty map.config) := by
      rw [Map.ofConfig, valid]
      rfl
    refine ⟨_, built, fun second payloads => ?_⟩
    have cleared : (Map.empty map.config).Links first ∅ := ⟨[], empty_holds valid first, rfl⟩
    exact cleared.behavesLike payloads fun id member => absurd member (Finset.notMem_empty id)

/-- A payload that still leads to itself is inserted as if it led nowhere. -/
theorem Reachable.ignores_stale_cycle :
    ∃ (map after : Map Nat) (seen : List (Observation Nat Char Unit)) (final : IndexedArena Char),
      map.Reachable IndexedArena.three {1, 0} ∧
      map.Session #[⟨.detached 3, 'a'⟩, ⟨.detached 4, 'b'⟩, ⟨⟨5, some 2⟩, 'c'⟩] {1, 0} seen after final
        {2, 1, 0} ∧
      seen.map Observation.reply = [.done (.ok ())] ∧
      Arena.Careful {2, 1, 0} IndexedArena.three final := by
  have silent : Map.Session ⟨.idle ⟨#[some 1, none, none, some 0], 3, 2⟩, ⟨4, 8, 1⟩⟩
      IndexedArena.three {1, 0} ([] : List (Observation Nat Char Unit)) _ _ _ := .nothing
  have session := silent.call (.insert 2) .addressSpace ⟨rfl, by decide⟩ rfl
  have payloads : Arena.SamePayloads IndexedArena.three
      #[⟨.detached 3, 'a'⟩, ⟨.detached 4, 'b'⟩, ⟨⟨5, some 2⟩, 'c'⟩] := by
    rintro (_ | _ | _ | id) <;> rfl
  have careful : Arena.Careful {1, 0} IndexedArena.three
      #[⟨.detached 3, 'a'⟩, ⟨.detached 4, 'b'⟩, ⟨⟨5, some 2⟩, 'c'⟩] := by
    intro id member
    fin_cases member <;> rfl
  obtain ⟨⟨final, mirrored, _, agree⟩, _⟩ :=
    (Reachable.two.ignores_stale.1 _ payloads careful).2 session
  exact ⟨_, _, _, final, .two, mirrored, rfl, agree⟩

end Map

end IncrementalMap
