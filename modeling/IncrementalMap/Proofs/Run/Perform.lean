/-
This file proves that every legal call returns, answers for the linked payloads, and keeps them.
-/

import IncrementalMap.Proofs.Run.Call

namespace IncrementalMap

/-- A map links a set of payloads when it holds each of them once and nothing else. -/
def Map.Links {Store Id Content : Type} [Arena Store Id Content] [DecidableEq Id] (map : Map Id)
    (store : Store) (linked : Finset Id) : Prop :=
  ∃ listed, map.Holds store listed ∧ listed.toFinset = linked

/-- A performed call has linked and unlinked what its reply says, answered, moved the gauge, and
carried an episode along by one step. -/
structure Call.Performed {Store Id Content Memory : Type} [Arena Store Id Content] [DecidableEq Id]
    (call : Call Id Content Memory) (allocator : Allocator) (map : Map Id) (store : Store)
    (linked : Finset Id)
    (outcome : Outcome (Map Id) Store (Reply Id Content Memory)) : Prop where
  links : outcome.state.Links outcome.store (call.relink outcome.result linked)
  config : outcome.state.config = map.config
  payloads : Arena.SamePayloads store outcome.store
  answers : call.Answers linked store outcome.result
  moves : call.Moves map.config (map.firstCapacity allocator) map.rehash.gauge outcome.result
    outcome.events outcome.state.rehash.gauge
  steps : call.Works → outcome.result.Succeeds →
    ∃ taken, call.StepsOnce allocator map store outcome taken ∧
      (taken.isSome = true ↔ call.Removes outcome.result)

/-- A completed call was performed on a small arena and leaves it small. -/
structure Call.Completed {Store Id Content Memory : Type} [Arena Store Id Content] [DecidableEq Id]
    (call : Call Id Content Memory) (allocator : Allocator) (map : Map Id) (store : Store)
    (linked : Finset Id) (outcome : Outcome (Map Id) Store (Reply Id Content Memory)) : Prop
    extends call.Performed allocator map store linked outcome where
  small : Arena.FewerThan outcome.store (2 ^ 63)

namespace Map.Links

theorem size_eq {Store Id Content : Type} [Arena Store Id Content] [DecidableEq Id] {map : Map Id}
    {store : Store} {linked : Finset Id} (links : map.Links store linked) :
    map.size = linked.card := by
  obtain ⟨listed, holds, rfl⟩ := links
  rw [holds.size_eq, List.toFinset_card_of_nodup holds.nodup]

/-- A small arena has room for a small map only. -/
theorem size_lt {Store Id Content : Type} [Arena Store Id Content] [DecidableEq Id] {map : Map Id}
    {store : Store} {linked : Finset Id} (links : map.Links store linked) {bound : Nat}
    (small : Arena.FewerThan store bound) : map.size < bound := by
  obtain ⟨listed, ⟨newer, older, sound, _⟩, _⟩ := links
  exact sound.tables.size_lt small

theorem valid {Store Id Content : Type} [Arena Store Id Content] [DecidableEq Id] {map : Map Id}
    {store : Store} {linked : Finset Id} (links : map.Links store linked) :
    map.config.validate = .ok () := by
  obtain ⟨listed, ⟨newer, older, sound, _⟩, _⟩ := links
  exact sound.valid

theorem isCapacity {Store Id Content : Type} [Arena Store Id Content] [DecidableEq Id]
    {map : Map Id} {store : Store} {linked : Finset Id} (links : map.Links store linked)
    (allocated : 0 < map.capacity) : IsCapacity map.capacity := by
  obtain ⟨listed, ⟨newer, older, sound, _⟩, _⟩ := links
  exact sound.tables.pair.soundDestination.shaped.isCapacity allocated

/-- A caller may edit the arena as long as the links of the linked payloads stay. -/
theorem congr {Store Id Content : Type} [Arena Store Id Content] [DecidableEq Id] {map : Map Id}
    {before after : Store} {linked : Finset Id} (links : map.Links before linked)
    (same : ∀ id ∈ linked, Arena.link? after id = Arena.link? before id) :
    map.Links after linked := by
  obtain ⟨listed, holds, rfl⟩ := links
  exact ⟨listed, holds.congr fun id member => same id (List.mem_toFinset.2 member), rfl⟩

theorem visit {Store Id Content : Type} [Arena Store Id Content] [DecidableEq Id] {map : Map Id}
    {store : Store} {linked : Finset Id} (links : map.Links store linked) :
    ∃ items, (Traversal.start map).toList store = .ok items ∧
      Call.Visits linked store items := by
  obtain ⟨listed, holds, rfl⟩ := links
  obtain ⟨items, visited, same, nodes⟩ := holds.visit
  exact ⟨items, visited, same.nodup_iff.2 holds.nodup, List.toFinset_eq_of_perm _ _ same, nodes⟩

/-- A lookup is performed. -/
theorem lookup {Store Id Content Memory : Type} [Arena Store Id Content] [LawfulArena Store]
    [DecidableEq Id] {map : Map Id} {store : Store} {linked : Finset Id}
    (links : map.Links store linked) (allocator : Allocator) (query : Query Id Content Memory)
    (memory : Memory) :
    ∃ outcome, (Call.lookup query memory).perform allocator map store = .ok outcome ∧
      (Call.lookup query memory).Performed allocator map store linked outcome := by
  obtain ⟨listed, holds, rfl⟩ := links
  obtain ⟨⟨⟨found, left⟩, after, final, events⟩, candidates, stepped, answered, leaves, offers,
    chosen, carries, rfl⟩ := holds.lookup query.hash query.matcher memory
  have returned : (Call.lookup query memory).perform allocator map store =
      .ok ⟨.found found left, after, final, stepped.events⟩ := by
    rw [Call.perform, query.lookup_eq, answered]
    rfl
  have answers : (Call.lookup query memory).Answers listed.toFinset store (.found found left) := by
    change Call.Chooses query memory listed.toFinset store (.found found left)
    exact ⟨candidates, by simpa using offers, by rw [← chosen]⟩
  have moves : (Call.lookup query memory).Moves map.config (map.firstCapacity allocator)
      map.rehash.gauge (.found found left) stepped.events after.rehash.gauge := by
    rw [show after.rehash.gauge = _ from carries.gauge]
    exact .searched carries.reports
  have steps : (Call.lookup query memory).StepsOnce allocator map store
      ⟨.found found left, after, final, stepped.events⟩ none :=
    ⟨map, store, [], _, [], ⟨rfl, rfl, rfl⟩, carries, (List.append_nil _).symm⟩
  exact ⟨_, returned, ⟨listed, leaves.holds, rfl⟩, leaves.config, leaves.payloads, answers, moves,
    fun _ _ => ⟨none, steps, by simp [Call.Removes]⟩⟩

/-- A deletion is performed. -/
theorem delete {Store Id Content Memory : Type} [Arena Store Id Content] [LawfulArena Store]
    [DecidableEq Id] {map : Map Id} {store : Store} {linked : Finset Id}
    (links : map.Links store linked) (allocator : Allocator) (query : Query Id Content Memory)
    (memory : Memory) :
    ∃ outcome, (Call.delete query memory).perform allocator map store = .ok outcome ∧
      (Call.delete query memory).Performed allocator map store linked outcome := by
  obtain ⟨listed, holds, rfl⟩ := links
  obtain ⟨⟨⟨found, left⟩, after, final, events⟩, candidates, stepped, taken, released, answered,
    offers, chosen, carries, rfl, unlinked⟩ := holds.delete query.hash query.matcher memory
  have returned : (Call.delete query memory).perform allocator map store =
      .ok ⟨.found found left, after, final, stepped.events ++ released⟩ := by
    rw [Call.perform, query.delete_eq, answered]
    rfl
  have answers : (Call.delete query memory).Answers listed.toFinset store (.found found left) := by
    change Call.Chooses query memory listed.toFinset store (.found found left)
    exact ⟨candidates, by simpa using offers, by rw [← chosen]⟩
  have steps : (Call.delete query memory).StepsOnce allocator map store
      ⟨.found found left, after, final, stepped.events ++ released⟩ taken :=
    ⟨map, store, [], _, released, ⟨rfl, rfl, rfl⟩, carries, rfl⟩
  cases found with
  | none =>
      obtain ⟨rfl, leaves⟩ := unlinked
      obtain rfl : released = [] := carries.releases
      have moves : (Call.delete query memory).Moves map.config (map.firstCapacity allocator)
          map.rehash.gauge (.found none left) (stepped.events ++ []) after.rehash.gauge := by
        rw [show after.rehash.gauge = _ from carries.gauge, List.append_nil]
        exact .missed carries.reports
      exact ⟨_, returned, ⟨listed, leaves.holds, rfl⟩, leaves.config, leaves.payloads, answers,
        moves, fun _ _ => ⟨none, steps, by simp [Call.Removes]⟩⟩
  | some id =>
      obtain ⟨rest, side, rfl, splits, leaves⟩ := unlinked
      have distinct := List.nodup_cons.1 (splits.nodup_iff.1 holds.nodup)
      have unlinks : rest.toFinset = listed.toFinset.erase id := by
        rw [List.toFinset_eq_of_perm _ _ splits, List.toFinset_cons,
          Finset.erase_insert (by simpa using distinct.1)]
      have moves : (Call.delete query memory).Moves map.config (map.firstCapacity allocator)
          map.rehash.gauge (.found (some id) left) (stepped.events ++ released) after.rehash.gauge := by
        rw [show after.rehash.gauge = _ from carries.gauge, carries.releases]
        exact .removed side (carries.counted side rfl) carries.reports
      exact ⟨_, returned, ⟨rest, leaves.holds, unlinks⟩, leaves.config, leaves.payloads, answers,
        moves, fun _ _ => ⟨some side, steps, by simp [Call.Removes]⟩⟩

/-- An insertion is performed. -/
theorem insert {Store Id Content Memory : Type} [Arena Store Id Content] [LawfulArena Store]
    [DecidableEq Id] {map : Map Id} {store : Store} {linked : Finset Id}
    (links : map.Links store linked) (allocator : Allocator) {id : Id}
    (present : (Arena.node? store id).isSome) (fresh : id ∉ linked) :
    ∃ outcome, (Call.insert id : Call Id Content Memory).perform allocator map store =
        .ok outcome ∧
      (Call.insert id).Performed allocator map store linked outcome := by
  obtain ⟨listed, holds, rfl⟩ := links
  obtain ⟨⟨result, after, final, events⟩, answered, refused | admitted⟩ :=
    holds.insert allocator present (by simpa using fresh)
  · obtain ⟨error, same, bare, none⟩ := refused
    obtain ⟨rfl, rfl, rfl, rfl⟩ := by simpa using same
    have returned : (Call.insert id : Call Id Content Memory).perform allocator after final =
        .ok ⟨.done (.error error), after, final, []⟩ := by
      rw [Call.perform, answered]
      rfl
    exact ⟨_, returned, ⟨listed, holds, rfl⟩, rfl, .refl _, ⟨_, rfl⟩, .refused bare none,
      fun _ succeeds => absurd rfl (succeeds error)⟩
  · obtain ⟨rfl, leaves, valid, kept, start, linked, grown, stepped, admits, carries, rfl, grows⟩ :=
      admitted
    have returned : (Call.insert id : Call Id Content Memory).perform allocator map store =
        .ok ⟨.done (.ok ()), after, final, grown ++ stepped.events⟩ := by
      rw [Call.perform, answered]
      rfl
    have config : start.config = map.config := by
      obtain ⟨_, _, _, _, _, same⟩ := admits
      exact same
    have moves : (Call.insert id : Call Id Content Memory).Moves map.config
        (map.firstCapacity allocator) map.rehash.gauge (.done (.ok ())) (grown ++ stepped.events)
        after.rehash.gauge := by
      rw [show after.rehash.gauge = _ from carries.gauge, config]
      exact .admitted valid kept grows (config ▸ carries.reports)
    have steps : (Call.insert id : Call Id Content Memory).StepsOnce allocator map store
        ⟨.done (.ok ()), after, final, grown ++ stepped.events⟩ none :=
      ⟨start, linked, grown, stepped, [], admits, carries, (List.append_nil _).symm⟩
    exact ⟨_, returned, ⟨id :: listed, leaves.holds, List.toFinset_cons⟩, leaves.config,
      leaves.payloads, ⟨_, rfl⟩, moves, fun _ _ => ⟨none, steps, by simp [Call.Removes]⟩⟩

/-- A reservation is performed. -/
theorem reserve {Store Id Content Memory : Type} [Arena Store Id Content] [DecidableEq Id]
    {map : Map Id} {store : Store} {linked : Finset Id} (links : map.Links store linked)
    (allocator : Allocator) (requested : Nat) :
    ∃ outcome, (Call.reserve requested : Call Id Content Memory).perform allocator map store =
        .ok outcome ∧
      (Call.reserve requested).Performed allocator map store linked outcome := by
  obtain ⟨listed, holds, rfl⟩ := links
  rcases answered : map.reserve allocator requested with error | ⟨after, events⟩
  · have returned : (Call.reserve requested : Call Id Content Memory).perform allocator map store =
        .ok ⟨.done (.error error), map, store, []⟩ := by
      rw [Call.perform, answered]
    exact ⟨_, returned, ⟨listed, holds, rfl⟩, rfl, .refl _, ⟨_, rfl⟩, .unreserved, False.elim⟩
  · obtain ⟨kept, config, moved⟩ := holds.reserve answered
    have returned : (Call.reserve requested : Call Id Content Memory).perform allocator map store =
        .ok ⟨.done (.ok ()), after, store, events⟩ := by
      rw [Call.perform, answered]
    have moves : (Call.reserve requested : Call Id Content Memory).Moves map.config
        (map.firstCapacity allocator) map.rehash.gauge (.done (.ok ())) events
        after.rehash.gauge := by
      rcases moved with ⟨_, rfl, rfl⟩ | ⟨bare, capacity, rounded, rfl, gauge⟩
      · exact .unreserved
      · rw [gauge]
        exact .reserved bare rounded
    exact ⟨_, returned, ⟨listed, kept, rfl⟩, config, .refl _, ⟨_, rfl⟩, moves, False.elim⟩

/-- A clear is performed. -/
theorem clear {Store Id Content Memory : Type} [Arena Store Id Content] [DecidableEq Id]
    {map : Map Id} {store : Store} {linked : Finset Id} (links : map.Links store linked)
    (allocator : Allocator) :
    ∃ outcome, (Call.clear : Call Id Content Memory).perform allocator map store = .ok outcome ∧
      Call.clear.Performed allocator map store linked outcome := by
  obtain ⟨listed, holds, _⟩ := links
  have reported : map.clear.2 ⊆ [.clear map.rehash.gauge.size] := by
    rw [Map.clear]
    split
    · exact List.Subset.refl _
    · exact List.nil_subset _
  exact ⟨_, rfl, ⟨[], holds.clear, rfl⟩, rfl, .refl _, rfl, .cleared reported, False.elim⟩

/-- A legal call always returns an answer, and it is performed. -/
theorem answer {Store Id Content Memory : Type} [Arena Store Id Content] [LawfulArena Store]
    [DecidableEq Id] {map : Map Id} {store : Store} {linked : Finset Id}
    (links : map.Links store linked) (allocator : Allocator) {call : Call Id Content Memory}
    (legal : call.Legal linked store) :
    ∃ outcome, call.perform allocator map store = .ok outcome ∧
      call.Performed allocator map store linked outcome := by
  cases call with
  | insert id => exact links.insert allocator legal.1 legal.2
  | lookup query memory => exact links.lookup allocator query memory
  | delete query memory => exact links.delete allocator query memory
  | reserve requested => exact links.reserve allocator requested
  | clear => exact links.clear allocator
  | visit =>
      obtain ⟨items, visited, visits⟩ := links.visit
      have returned : (Call.visit : Call Id Content Memory).perform allocator map store =
          .ok ⟨.visited items, map, store, []⟩ := by
        rw [Call.perform, visited]
        rfl
      exact ⟨_, returned, links, rfl, .refl _, ⟨items, rfl, visits⟩, .visited, False.elim⟩
  | resize target =>
      obtain ⟨listed, holds, rfl⟩ := links
      obtain ⟨outcome, answered, leaves, resizes⟩ := holds.resize allocator target
      have returned : (Call.resize target : Call Id Content Memory).perform allocator map store =
          .ok (outcome.withReply .done) := by
        rw [Call.perform, answered]
        rfl
      exact ⟨_, returned, ⟨listed, leaves.holds, rfl⟩, leaves.config, leaves.payloads, ⟨_, rfl⟩,
        .resized resizes, False.elim⟩
  | resizeAtOnce target =>
      obtain ⟨listed, holds, rfl⟩ := links
      obtain ⟨outcome, answered, leaves, resizes⟩ := holds.resizeAtOnce allocator target
      have returned : (Call.resizeAtOnce target : Call Id Content Memory).perform allocator map
          store = .ok (outcome.withReply .done) := by
        rw [Call.perform, answered]
        rfl
      exact ⟨_, returned, ⟨listed, leaves.holds, rfl⟩, leaves.config, leaves.payloads, ⟨_, rfl⟩,
        .resizedAtOnce resizes, False.elim⟩

/-- What a legal call has returned is performed. -/
theorem answered {Store Id Content Memory : Type} [Arena Store Id Content] [LawfulArena Store]
    [DecidableEq Id] {map : Map Id} {store : Store} {linked : Finset Id}
    (links : map.Links store linked) {allocator : Allocator} {call : Call Id Content Memory}
    (legal : call.Legal linked store) {outcome : Outcome (Map Id) Store (Reply Id Content Memory)}
    (returned : call.perform allocator map store = .ok outcome) :
    call.Performed allocator map store linked outcome := by
  obtain ⟨other, same, performed⟩ := links.answer allocator legal
  obtain rfl := Except.ok.inj (same.symm.trans returned)
  exact performed

/-- What a legal call on a small arena has returned is completed. -/
theorem completed {Store Id Content Memory : Type} [Arena Store Id Content] [LawfulArena Store]
    [DecidableEq Id] {map : Map Id} {store : Store} {linked : Finset Id}
    (links : map.Links store linked) (small : Arena.FewerThan store (2 ^ 63))
    {allocator : Allocator} {call : Call Id Content Memory} (legal : call.Legal linked store)
    {outcome : Outcome (Map Id) Store (Reply Id Content Memory)}
    (returned : call.perform allocator map store = .ok outcome) :
    call.Completed allocator map store linked outcome := by
  have performed := links.answered legal returned
  exact ⟨performed, performed.payloads.fewerThan small⟩

/-- A legal call on a small arena always returns, and it is completed. -/
theorem perform {Store Id Content Memory : Type} [Arena Store Id Content] [LawfulArena Store]
    [DecidableEq Id] {map : Map Id} {store : Store} {linked : Finset Id}
    (links : map.Links store linked) (small : Arena.FewerThan store (2 ^ 63))
    (allocator : Allocator) {call : Call Id Content Memory} (legal : call.Legal linked store) :
    ∃ outcome, call.perform allocator map store = .ok outcome ∧
      call.Completed allocator map store linked outcome := by
  obtain ⟨outcome, returned, _⟩ := links.answer allocator legal
  exact ⟨outcome, returned, links.completed small legal returned⟩

end Map.Links

end IncrementalMap
