/-
This file proves that a map over an arena which has lost some payloads does what it does over the
intact one, until it stops at one of them.
-/

import IncrementalMap.Arena.Keyed
import IncrementalMap.Proofs.Run.Iteration
import IncrementalMap.Proofs.Run.Session

namespace IncrementalMap

namespace Arena

/-- A store lacks some payloads of another one when they are missing there and all others are the
same. -/
structure Lacks {Store Id Content : Type} [Arena Store Id Content] (lost : Set Id)
    (intact cut : Store) : Prop where
  missing : ∀ id ∈ lost, node? cut id = none
  same : ∀ id, id ∉ lost → node? cut id = node? intact id

namespace Lacks

variable {Store Id Content : Type} [Arena Store Id Content] {lost more : Set Id}
  {intact cut bare : Store}

/-- Payloads may be lost one after the other. -/
theorem trans (left : Lacks lost intact cut) (right : Lacks more cut bare) :
    Lacks (lost ∪ more) intact bare where
  missing id gone := by
    by_cases later : id ∈ more
    · exact right.missing id later
    · rw [right.same id later]
      exact left.missing id (gone.resolve_right later)
  same id kept := by
    rw [Set.mem_union, not_or] at kept
    exact (right.same id kept.2).trans (left.same id kept.1)

theorem refl (store : Store) : Lacks ∅ store store where
  missing id gone := absurd gone (Set.notMem_empty id)
  same _ _ := rfl

/-- A payload that is present was not lost. -/
theorem notMem (lacks : Lacks lost intact cut) {id : Id} (present : (node? cut id).isSome) :
    id ∉ lost := by
  intro gone
  rw [lacks.missing id gone] at present
  exact nomatch present

/-- The store mirrors the intact one in all payloads that lead to each other only. -/
theorem mirrors (lacks : Lacks lost intact cut) {kept : Set Id}
    (closed : ∀ id ∈ kept, ∀ node, node? intact id = some node →
      ∀ next, node.link.next = some next → next ∈ kept) :
    Mirrors kept lost intact intact cut where
  payloads id present := by rw [lacks.same id present]
  lacks := lacks.missing
  links id _ present := by rw [link?, link?, lacks.same id present]
  closed := closed
  frame := .refl kept intact

end Lacks

/-- A store that mirrors another one in all payloads only lacks those that were lost. -/
theorem Mirrors.lacking {Store Id Content : Type} [Arena Store Id Content] {lost : Set Id}
    {origin intact cut : Store} (mirrors : Mirrors Set.univ lost origin intact cut) :
    Lacks lost intact cut :=
  ⟨mirrors.lacks, fun id present => mirrors.node (Set.mem_univ id) present⟩

/-- Whatever is present in a mirror of the intact store was present in the store that lacks the lost
payloads. -/
theorem Lacks.present {Store Id Content : Type} [Arena Store Id Content] {lost : Set Id}
    {intact cut left final : Store} (lacks : Lacks lost intact cut)
    (mirrors : Mirrors Set.univ lost intact left final) {id : Id}
    (present : (node? final id).isSome) : (node? cut id).isSome := by
  have kept := mirrors.lacking.notMem present
  rw [lacks.same id kept, ← mirrors.frame.payloads.isSome id, ← mirrors.lacking.same id kept]
  exact present

end Arena

/-- An indexed arena that is cut lacks its tail. -/
theorem IndexedArena.lacks_truncate {Content : Type} (store : IndexedArena Content) (kept : Nat) :
    Arena.Lacks {id | kept ≤ id} store (store.truncate kept) where
  missing id gone := by
    rw [Set.mem_ofPred_eq] at gone
    simp only [Arena.node?, truncate, Array.take_eq_extract]
    exact Array.getElem?_eq_none (by simp; omega)
  same id inside := by
    rw [Set.mem_ofPred_eq, Nat.not_le] at inside
    simp only [Arena.node?, truncate, Array.take_eq_extract, Array.getElem?_extract]
    by_cases held : id < store.size
    · simp [inside, held]
    · simp [held]

/-- A keyed arena lacks the payloads that were removed from it, one after the other. -/
theorem KeyedArena.lacks_erase {Content : Type} (store : KeyedArena Content) (ids : List Nat) :
    Arena.Lacks {id | id ∈ ids} store (ids.foldl erase store) := by
  induction ids generalizing store with
  | nil => simpa using Arena.Lacks.refl store
  | cons id rest inductionHypothesis =>
      have one : Arena.Lacks {id} store (store.erase id) := by
        constructor
        · intro other gone
          rw [Set.mem_singleton_iff.1 gone]
          simp only [Arena.node?, erase, Array.getElem?_setIfInBounds_self]
          split <;> rfl
        · intro other differ
          rw [Set.mem_singleton_iff] at differ
          simp only [Arena.node?, erase, Array.getElem?_setIfInBounds_ne (Ne.symm differ)]
      have both := one.trans (inductionHypothesis (store.erase id))
      rwa [show {other | other ∈ id :: rest} = {id} ∪ {other | other ∈ rest} by ext; simp]

/-- An answer misses a payload when it is a fault that names a linked one which the arena lacks. -/
def Arena.Misses {Store Id Content Answer : Type} [Arena Store Id Content] (cut : Store)
    (linked : Finset Id) (answer : Except (Fault Id) Answer) : Prop :=
  ∃ id ∈ linked, node? cut id = none ∧ answer = .error (.missing id)

/-- These are the payloads that a reply names. -/
def Reply.ids {Id Content Memory : Type} : Reply Id Content Memory → List Id
  | .done _ => []
  | .found id _ => id.toList
  | .visited items => items.map Prod.fst

namespace Call

variable {Store Id Content Memory : Type} [Arena Store Id Content]

/-- Only lookups and deletions ask a matcher. -/
def asked (call : Call Id Content Memory) (map : Map Id) (store : Store) : List (Id × Content) :=
  match call with
  | .lookup query memory | .delete query memory =>
      map.asked store query.hash query.matcher memory
  | _ => []

/-- A call heeds what its matcher is asked when the reply is what the matcher chooses there, with the
memory that it then has. A matcher that remembers every question shows that there are no others. -/
def Heeds (call : Call Id Content Memory) (asked : List (Id × Content))
    (reply : Reply Id Content Memory) : Prop :=
  match call with
  | .lookup query memory | .delete query memory =>
      reply = .found (query.matcher.choose asked memory).1 (query.matcher.choose asked memory).2
  | _ => asked = []

/-- A call survives the loss of payloads when it does the same over both stores: it gives the same
reply and events, leaves the same map and the same payloads but for the lost ones, and asks its
matcher about the same payloads. All that the reply names are present. -/
structure Survives (call : Call Id Content Memory) (allocator : Allocator) (lost : Set Id)
    (map : Map Id) (intact cut : Store)
    (outcome : Outcome (Map Id) Store (Reply Id Content Memory)) : Prop where
  returned : ∃ final, call.perform allocator map cut =
    .ok ⟨outcome.result, outcome.state, final, outcome.events⟩ ∧
      Arena.Lacks lost outcome.store final
  asked : call.asked map cut = call.asked map intact
  heeded : call.Heeds (call.asked map cut) outcome.result
  named : ∀ id ∈ outcome.result.ids, (Arena.node? cut id).isSome

/-- A call that is legal without the lost payloads is legal with them. -/
theorem Legal.intact {call : Call Id Content Memory} {linked : Finset Id} {lost : Set Id}
    {intact cut : Store} (legal : call.Legal linked cut) (lacks : Arena.Lacks lost intact cut) :
    call.Legal linked intact := by
  cases call with
  | insert id =>
      have same := lacks.same id (lacks.notMem legal.1)
      exact ⟨same ▸ legal.1, legal.2⟩
  | _ => exact trivial

/-- A legal call misses linked payloads only. -/
theorem mem_of_keeps {call : Call Id Content Memory} {linked : Finset Id} {store : Store}
    (legal : call.Legal linked store) {id : Id} (member : id ∈ call.keeps (linked : Set Id))
    (missing : Arena.node? store id = none) : id ∈ linked := by
  cases call with
  | insert other =>
      rcases member with rfl | held
      · have present := legal.1
        rw [missing] at present
        exact nomatch present
      · exact held
  | _ => exact member

end Call

/-- A map copes with the loss of payloads when every legal call, and every number of visits in a
row, does the same as over the intact store or stops at a linked payload that is missing. Either way
a matcher is asked about present payloads only. -/
structure Map.Copes {Store Id Content : Type} [Arena Store Id Content] (map : Map Id)
    (lost : Set Id) (linked : Finset Id) (intact cut : Store) : Prop where
  calls : ∀ {Memory : Type} (call : Call Id Content Memory) (allocator : Allocator),
    call.Legal linked cut → ∃ outcome, call.perform allocator map intact = .ok outcome ∧
      (call.Survives allocator lost map intact cut outcome ∨
        Arena.Misses cut linked (call.perform allocator map cut))
  visits : ∀ number, ∃ answers after,
    Traversal.visits intact number (Traversal.start map) = .ok (answers, after) ∧
      (Traversal.visits cut number (Traversal.start map) = .ok (answers, after) ∧
          (∀ item, some item ∈ answers → (Arena.node? cut item.1).isSome) ∨
        Arena.Misses cut linked (Traversal.visits cut number (Traversal.start map)))
  asked : ∀ {Memory : Type} (call : Call Id Content Memory),
    ∀ candidate ∈ call.asked map cut, (Arena.node? cut candidate.1).isSome

namespace Traversal

variable {Store Id Content : Type} [Arena Store Id Content] {store : Store}
  {traversal after : Traversal Id}

/-- A visit gives a payload of the arena. -/
theorem present_of_next {item : Id × Node Id Content}
    (visited : traversal.next store = .ok (some item, after)) :
    (Arena.node? store item.1).isSome := by
  rw [next] at visited
  split at visited
  · cases (Prod.mk.inj (Except.ok.inj visited)).1
  · obtain ⟨node, fetched, counted⟩ := exists_of_bind_eq_ok visited
    split at counted
    · cases counted
    · obtain rfl := Option.some.inj (Prod.mk.inj (Except.ok.inj counted)).1
      rw [Arena.fetch] at fetched
      split at fetched
      · rename_i found
        rw [found, Option.isSome_some]
      · cases fetched

/-- Visits in a row give payloads of the arena only. -/
theorem present_of_visits {number : Nat} {answers : List (Option (Id × Node Id Content))}
    (visited : visits store number traversal = .ok (answers, after)) :
    ∀ item, some item ∈ answers → (Arena.node? store item.1).isSome := by
  induction number generalizing traversal answers with
  | zero =>
      obtain ⟨rfl, _⟩ := Prod.mk.inj (Except.ok.inj visited)
      simp
  | succ number inductionHypothesis =>
      rw [visits] at visited
      obtain ⟨⟨answer, onward⟩, first, rest⟩ := exists_of_bind_eq_ok visited
      obtain ⟨⟨others, last⟩, later, joined⟩ := exists_of_bind_eq_ok rest
      obtain ⟨rfl, rfl⟩ := Prod.mk.inj (Except.ok.inj joined)
      intro item member
      rcases List.mem_cons.1 member with rfl | among
      · exact present_of_next first
      · exact inductionHypothesis later item among

/-- All visits together give payloads of the arena only. -/
theorem present_of_collect {limit : Nat} {items : List (Id × Node Id Content)}
    (collected : collect store limit traversal = .ok items) :
    ∀ item ∈ items, (Arena.node? store item.1).isSome := by
  induction limit generalizing traversal items with
  | zero => exact nomatch collected
  | succ limit inductionHypothesis =>
      rw [collect] at collected
      obtain ⟨⟨_ | item, onward⟩, first, rest⟩ := exists_of_bind_eq_ok collected
      · obtain rfl := Except.ok.inj rest
        simp
      · obtain ⟨others, later, joined⟩ := exists_of_bind_eq_ok rest
        obtain rfl := Except.ok.inj joined
        rw [List.forall_mem_cons]
        exact ⟨present_of_next first, inductionHypothesis later⟩

/-- Visits in a row give the same answers in both stores. -/
theorem Within.visits {kept lost : Set Id} {origin first second : Store}
    (within : traversal.Within kept) (mirrors : Arena.Mirrors kept lost origin first second)
    (number : Nat) :
    Corresponds (kept ∩ lost) (fun answer other => other = answer)
      (Traversal.visits first number traversal) (Traversal.visits second number traversal) := by
  induction number generalizing traversal with
  | zero => exact .value rfl
  | succ number inductionHypothesis =>
      rw [Traversal.visits, Traversal.visits]
      refine (within.next mirrors).bind ?_
      rintro ⟨answer, onward⟩ _ - ⟨rfl, inside⟩
      refine (inductionHypothesis inside).bind ?_
      rintro others _ - rfl
      exact .value rfl

end Traversal

namespace Map

variable {Store Id Content Memory : Type} [Arena Store Id Content] {map : Map Id} {first cut : Store}

namespace Sound

variable {newer older : Layout Id}

/-- A call replies what its matcher chooses when it is asked. -/
theorem heeds [LawfulArena Store] (sound : map.Sound first newer older) {allocator : Allocator}
    {call : Call Id Content Memory} {outcome : Outcome (Map Id) Store (Reply Id Content Memory)}
    (answered : call.perform allocator map first = .ok outcome) :
    call.Heeds (call.asked map first) outcome.result := by
  cases call with
  | lookup query memory =>
      obtain ⟨stepped, drained, step, advanced, found⟩ :=
        sound.lookup_eq query.hash query.matcher memory
      rw [Call.perform, query.lookup_eq, found] at answered
      obtain rfl := Except.ok.inj answered
      rw [Call.Heeds, Call.asked, asked_of_stepped step advanced, Matcher.choose_asked]
      rfl
  | delete query memory =>
      obtain ⟨stepped, drained, step, advanced, found⟩ :=
        sound.delete_eq query.hash query.matcher memory
      rw [Call.perform, query.delete_eq] at answered
      rw [Call.Heeds, Call.asked, asked_of_stepped step advanced, Matcher.choose_asked]
      rcases chosen : query.matcher.choose
        (map.offered first newer older stepped drained query.hash) memory with ⟨_ | id, left⟩
      · rw [chosen] at found
        rw [found] at answered
        obtain rfl := Except.ok.inj answered
        rfl
      · rw [chosen] at found
        obtain ⟨side, after, unlinked, released, _, deleted⟩ := found
        rw [deleted] at answered
        obtain rfl := Except.ok.inj answered
        rfl
  | _ => rfl

/-- A call that returns has asked its matcher about the same payloads in both stores. -/
theorem asks [LawfulArena Store] {kept lost : Set Id} {origin second : Store}
    (sound : map.Sound first newer older)
    (mirrors : Arena.Mirrors kept lost origin first second)
    (inside : ∀ id ∈ map.rehash.ids newer older, id ∈ kept) {allocator : Allocator}
    {call : Call Id Content Memory} {outcome : Outcome (Map Id) Store (Reply Id Content Memory)}
    (answered : call.perform allocator map second = .ok outcome) :
    call.asked map second = call.asked map first := by
  cases call with
  | lookup query memory =>
      rw [Call.perform, query.lookup_eq] at answered
      obtain ⟨found, looked, _⟩ := exists_of_map_eq_ok answered
      exact sound.asked_mirrored mirrors inside (searches_of_lookup looked)
  | delete query memory =>
      rw [Call.perform, query.delete_eq] at answered
      obtain ⟨found, deleted, _⟩ := exists_of_map_eq_ok answered
      exact sound.asked_mirrored mirrors inside (searches_of_delete deleted)
  | _ => rfl

/-- A search asks about present payloads only, even if it stops at one that is missing. -/
theorem present_of_asked [LawfulArena Store] {lost : Set Id} (sound : map.Sound first newer older)
    (lacks : Arena.Lacks lost first cut) {hash : UInt64} {matcher : Matcher Content Memory}
    {memory : Memory} {candidate : Id × Content}
    (member : candidate ∈ map.asked cut hash matcher memory) :
    (Arena.node? cut candidate.1).isSome := by
  have within : map.Within Set.univ := sound.tables.within fun id _ => Set.mem_univ id
  have both := within.advance (lacks.mirrors fun _ _ _ _ next _ => Set.mem_univ next)
  rw [Map.asked] at member
  rcases advanced : map.advance cut with fault | stepped <;> rw [advanced] at member both
  · exact absurd member List.not_mem_nil
  · have present := Rehash.present_of_asked member
    generalize map.advance first = answer at both
    cases both with
    | value holds =>
        obtain ⟨_, stores⟩ := holds
        exact lacks.present stores present

end Sound

variable [DecidableEq Id] {lost : Set Id} {linked : Finset Id}

namespace Links

/-- A matcher is asked about present payloads only. -/
theorem present_of_asked [LawfulArena Store] (links : map.Links first linked)
    (lacks : Arena.Lacks lost first cut) (call : Call Id Content Memory) :
    ∀ candidate ∈ call.asked map cut, (Arena.node? cut candidate.1).isSome := by
  obtain ⟨newer, older, sound, _⟩ := links.inside
  intro candidate member
  cases call with
  | lookup query memory => exact sound.present_of_asked lacks member
  | delete query memory => exact sound.present_of_asked lacks member
  | _ => exact absurd member List.not_mem_nil

/-- A reply names payloads that were asked about or visited, and these are present. -/
theorem present_of_reply [LawfulArena Store] (links : map.Links first linked)
    (lacks : Arena.Lacks lost first cut) {allocator : Allocator} {call : Call Id Content Memory}
    {outcome : Outcome (Map Id) Store (Reply Id Content Memory)}
    (returned : call.perform allocator map cut = .ok outcome)
    (answers : call.Answers linked first outcome.result)
    (heeded : call.Heeds (call.asked map cut) outcome.result) :
    ∀ id ∈ outcome.result.ids, (Arena.node? cut id).isSome := by
  have asked := links.present_of_asked lacks call
  intro id member
  cases call with
  | lookup query memory =>
      rw [heeded, Reply.ids, Option.mem_toList] at member
      obtain ⟨content, candidate⟩ := Matcher.mem_of_choose (Prod.ext member rfl)
      exact asked _ candidate
  | delete query memory =>
      rw [heeded, Reply.ids, Option.mem_toList] at member
      obtain ⟨content, candidate⟩ := Matcher.mem_of_choose (Prod.ext member rfl)
      exact asked _ candidate
  | visit =>
      rw [Call.perform] at returned
      obtain ⟨items, collected, rfl⟩ := exists_of_map_eq_ok returned
      obtain ⟨item, visited, rfl⟩ := List.mem_map.1 member
      exact Traversal.present_of_collect collected item visited
  | clear =>
      rw [show outcome.result = _ from answers] at member
      exact absurd member List.not_mem_nil
  | _ =>
      obtain ⟨result, same⟩ := answers
      rw [same] at member
      exact absurd member List.not_mem_nil

/-- What a legal call does over the intact store it does without the lost payloads as well, or it
stops at a linked payload that is missing. -/
theorem survives [LawfulArena Store] (links : map.Links first linked)
    (lacks : Arena.Lacks lost first cut) {allocator : Allocator} {call : Call Id Content Memory}
    (legal : call.Legal linked cut)
    {outcome : Outcome (Map Id) Store (Reply Id Content Memory)}
    (answered : call.perform allocator map first = .ok outcome) :
    call.Survives allocator lost map first cut outcome ∨
      Arena.Misses cut linked (call.perform allocator map cut) := by
  obtain ⟨newer, older, sound, members⟩ := links.inside
  have near := lacks.mirrors links.closed
  have whole : Arena.Mirrors Set.univ lost first first cut :=
    lacks.mirrors fun _ _ _ _ next _ => Set.mem_univ next
  -- Only the linked payloads show where a call stops, and only all of them what it leaves alone.
  obtain ⟨more, fewer, _, ⟨final, returned, _⟩ | ⟨id, gone, missed⟩⟩ :=
    sound.answer_mirrored near (fun id => (members id).1) answered
  · left
    have lacking : Arena.Lacks lost outcome.store final := by
      obtain ⟨all, _, kept, ⟨other, same, stores⟩ | ⟨id, _, stopped⟩⟩ :=
        sound.answer_mirrored whole (fun id _ => Set.mem_univ id) answered
      · obtain rfl : all = Set.univ := by
          rcases kept with rfl | ⟨rfl, _⟩
          · exact Set.eq_univ_of_univ_subset (call.subset_keeps _)
          · rfl
        obtain rfl : other = final :=
          congrArg Outcome.store (Except.ok.inj (same.symm.trans returned))
        exact stores.lacking
      · exact nomatch returned.symm.trans stopped
    have asked := sound.asks near (fun id => (members id).1) returned
    have heeded : call.Heeds (call.asked map cut) outcome.result := asked ▸ sound.heeds answered
    have answers := (links.answered (legal.intact lacks) answered).answers
    have named := links.present_of_reply lacks returned answers heeded
    exact ⟨⟨final, returned, lacking⟩, asked, heeded, named⟩
  · right
    have missing := lacks.missing id gone.2
    exact ⟨id, Call.mem_of_keeps legal (fewer gone.1) missing, missing, missed⟩

/-- Visits in a row give the same answers without the lost payloads, or stop at one of them. -/
theorem visits_survive [LawfulArena Store] (links : map.Links first linked)
    (lacks : Arena.Lacks lost first cut) (number : Nat) :
    ∃ answers after,
      Traversal.visits first number (Traversal.start map) = .ok (answers, after) ∧
        (Traversal.visits cut number (Traversal.start map) = .ok (answers, after) ∧
            (∀ item, some item ∈ answers → (Arena.node? cut item.1).isSome) ∨
          Arena.Misses cut linked (Traversal.visits cut number (Traversal.start map))) := by
  obtain ⟨newer, older, sound, members⟩ := links.inside
  have ahead := Traversal.Ahead.start sound.tables
  obtain ⟨items, _, listed, nodes⟩ := ahead.lists
  obtain ⟨after, visited, _⟩ := (listed.symm ▸ ahead : Traversal.Ahead _ first
    (items.map Prod.fst)).visits nodes number
  refine ⟨_, after, visited, ?_⟩
  have within : map.Within (linked : Set Id) := sound.tables.within fun id => (members id).1
  have both := (Traversal.Within.start within).visits (lacks.mirrors links.closed) number
  rw [visited] at both
  generalize answer : Traversal.visits cut number (Traversal.start map) = other at both
  cases both with
  | value same =>
      obtain rfl := same
      exact .inl ⟨rfl, Traversal.present_of_visits answer⟩
  | missing absent => exact .inr ⟨_, absent.1, lacks.missing _ absent.2, rfl⟩

/-- A map that links its payloads copes with the loss of any of them. -/
theorem copes [LawfulArena Store] (links : map.Links first linked)
    (lacks : Arena.Lacks lost first cut) : map.Copes lost linked first cut where
  calls call allocator legal := by
    obtain ⟨outcome, answered, _⟩ := links.answer allocator (legal.intact lacks)
    exact ⟨outcome, answered, links.survives lacks legal answered⟩
  visits := links.visits_survive lacks
  asked := links.present_of_asked lacks

end Links

/-- A session without the lost payloads is a session over the intact store as well. -/
theorem Session.restored [LawfulArena Store] {seen : List (Observation Id Content Memory)}
    {after : Map Id} {final : Store} {held : Finset Id}
    (session : map.Session cut linked seen after final held) (links : map.Links first linked)
    (lacks : Arena.Lacks lost first cut) :
    ∃ left, map.Session first linked seen after left held ∧ Arena.Lacks lost left final := by
  induction session with
  | nothing => exact ⟨first, .nothing, lacks⟩
  | call call allocator earlier legal answered inductionHypothesis =>
      obtain ⟨left, before, lacking⟩ := inductionHypothesis
      have allowed := legal.intact lacking
      obtain ⟨outcome, returned, _⟩ := (before.links links).answer allocator allowed
      rcases (before.links links).survives lacking legal returned with survives | ⟨id, _, _, missed⟩
      · obtain ⟨final, same, lackingAfter⟩ := survives.returned
        obtain rfl := Except.ok.inj (same.symm.trans answered)
        exact ⟨outcome.store, before.call call allocator allowed returned, lackingAfter⟩
      · exact nomatch answered.symm.trans missed

/-- A payload that is missing from its arena is never returned and never passed over: whatever calls
a reachable map answers without the lost payloads, it answers alike over the intact store, and it
copes with their loss in the next one. -/
theorem Reachable.copes_with_loss [LawfulArena Store] (reachable : map.Reachable first linked)
    (lacks : Arena.Lacks lost first cut) {seen : List (Observation Id Content Memory)}
    {after : Map Id} {final : Store} {held : Finset Id}
    (session : map.Session cut linked seen after final held) :
    ∃ left, map.Session first linked seen after left held ∧ Arena.Lacks lost left final ∧
      after.Copes lost held left final := by
  obtain ⟨left, before, lacking⟩ := session.restored reachable.links lacks
  exact ⟨left, before, lacking, (before.links reachable.links).copes lacking⟩

/-- A map notices a loss when it finds a payload that is left and then stops at a linked one that is
gone, while the intact store gives an answer to both calls. -/
def Notices (map : Map Id) (linked : Finset Id) (intact cut : Store) : Prop :=
  ∃ (id : Id) (seen : List (Observation Id Content Unit)) (after : Map Id) (left final : Store)
      (call : Call Id Content Unit) (outcome : Outcome (Map Id) Store (Reply Id Content Unit)),
    map.Session cut linked seen after final linked ∧
      map.Session intact linked seen after left linked ∧
      seen.map Observation.reply = [.found (some id) ()] ∧
      call.perform .addressSpace after left = .ok outcome ∧
      Arena.Misses final linked (call.perform .addressSpace after final)

/-- A map notices that an indexed arena has lost its tail, and that a keyed arena has lost two payloads
on either side of one that is left. -/
theorem Reachable.copes_with_loss_of_tail_or_keys :
    ∃ map : Map Nat,
      map.Reachable IndexedArena.three {2, 1, 0} ∧
      map.Notices {2, 1, 0} IndexedArena.three (IndexedArena.three.truncate 2) ∧
      map.Reachable KeyedArena.three {2, 1, 0} ∧
      map.Notices {2, 1, 0} KeyedArena.three ([0, 2].foldl KeyedArena.erase KeyedArena.three) := by
  let map : Map Nat := ⟨.idle ⟨#[some 1, some 2, none, some 0], 3, 3⟩, ⟨4, 8, 1⟩⟩
  let search (hash : UInt64) : Call Nat Char Unit :=
    .lookup (.code hash fun _ memory => (true, memory)) ()
  have notices {Store : Type} [Arena Store Nat Char] [LawfulArena Store] {lost : Set Nat}
      {intact cut : Store} (reachable : map.Reachable intact {2, 1, 0})
      (lacks : Arena.Lacks lost intact cut)
      (found : (search 4).perform .addressSpace map cut =
        .ok ⟨.found (some 1) (), map, cut, []⟩)
      (stopped : (search 5).perform .addressSpace map cut = .error (.missing 2)) :
      map.Notices {2, 1, 0} intact cut := by
    have session : map.Session cut {2, 1, 0} _ map cut {2, 1, 0} :=
      .call (search 4) .addressSpace .nothing trivial found
    obtain ⟨left, before, _, copes⟩ := reachable.copes_with_loss lacks session
    obtain ⟨outcome, answered, survives | misses⟩ := copes.calls (search 5) .addressSpace trivial
    · obtain ⟨final, returned, _⟩ := survives.returned
      exact nomatch stopped.symm.trans returned
    · exact ⟨1, _, map, left, cut, search 5, outcome, session, before, rfl, answered, misses⟩
  exact ⟨map, .three, notices .three (IndexedArena.three.lacks_truncate 2) rfl rfl, .three_keyed,
    notices .three_keyed (KeyedArena.three.lacks_erase [0, 2]) rfl rfl⟩

end Map

end IncrementalMap
