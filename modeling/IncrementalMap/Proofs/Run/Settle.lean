/-
This file proves that both kinds of resize come to the same table once every episode has ended.
-/

import IncrementalMap.Arena.Indexed
import IncrementalMap.Proofs.Run.Reachable
import IncrementalMap.Proofs.Table.Chains

namespace IncrementalMap.Map

/-- A map settles when lookups that find nothing are made until no episode runs. -/
inductive Settles {Store Id Content : Type} [Arena Store Id Content] :
    Map Id → Store → Map Id → Store → Prop where
  | settled {map : Map Id} (store : Store) (inactive : map.isRehashing = false) :
      Settles map store map store
  | lookup {Memory : Type} {map after : Map Id} {store final : Store}
      (active : map.isRehashing = true) (query : Query Id Content Memory) (memory : Memory)
      {outcome : Outcome (Map Id) Store (Option Id × Memory)}
      (answered : query.lookup map store memory = .ok outcome) (missed : outcome.result.1 = none)
      (rest : Settles outcome.state outcome.store after final) : Settles map store after final

/-- Two maps without an episode have the same slots when they have the same capacity and the chains
of each slot show the same payloads, in any order. -/
structure SameSlots {Store Id Content : Type} [Arena Store Id Content] (map : Map Id)
    (store : Store) (other : Map Id) (last : Store) : Prop where
  inactive : map.isRehashing = false ∧ other.isRehashing = false
  capacity : map.capacity = other.capacity
  chains : ∃ chains others, map.rehash.newer.chains store = .ok chains ∧
    other.rehash.newer.chains last = .ok others ∧ List.Forall₂ List.Perm chains others

/-- Two maps without an episode have the same chains when the chains of each slot are equal, and so
are the links of all linked payloads. -/
structure SameChains {Store Id Content : Type} [Arena Store Id Content] (linked : Finset Id)
    (map : Map Id) (store : Store) (other : Map Id) (last : Store) : Prop where
  inactive : map.isRehashing = false ∧ other.isRehashing = false
  capacity : map.capacity = other.capacity
  chains : ∃ chains, map.rehash.newer.chains store = .ok chains ∧
    other.rehash.newer.chains last = .ok chains
  links : ∀ id ∈ linked, ∃ link, Arena.link? store id = some link ∧ Arena.link? last id = some link

/-- A step keeps the layout that a map is destined for, wherever it stops. -/
theorem Carries.destined {Store Id Content : Type} [Arena Store Id Content] [LawfulArena Store]
    {map after : Map Id} {store final : Store} {stepped : Outcome (Map Id) Store Nat}
    {released : List Event} (carries : map.Carries store stepped none released after final)
    {layout : Layout Id} (destined : map.Destined store layout) :
    after.Destined final layout ∧ Arena.SamePayloads store final := by
  obtain ⟨newer, older, sound, rfl⟩ := destined
  obtain ⟨moved, rehash, linked, events, poured, drained, once, soundAfter, _, payloads, destined⟩ :=
    advance_sound map sound.tables sound.settled.resting sound.valid
  obtain rfl := Except.ok.inj (once.step.symm.trans carries.step)
  cases carries.takes
  exact ⟨⟨poured, drained, soundAfter, destined⟩, payloads⟩

namespace Destined

/-- A lookup keeps the layout that a map is destined for, its capacity and its settings, and moves
the work of one step. -/
theorem lookup {Store Id Content Memory : Type} [Arena Store Id Content] [LawfulArena Store]
    {map : Map Id} {store : Store} {layout : Layout Id} (destined : map.Destined store layout)
    (query : Query Id Content Memory) (memory : Memory)
    {outcome : Outcome (Map Id) Store (Option Id × Memory)}
    (answered : query.lookup map store memory = .ok outcome) :
    outcome.state.Destined outcome.store layout ∧ Arena.SamePayloads store outcome.store ∧
      outcome.state.rehash.gauge = map.rehash.gauge.step map.config.migrationWork := by
  obtain ⟨_, candidates, stepped, returned, _, _, _, carries, _⟩ :=
    destined.holds.lookup query.hash query.matcher memory
  rw [query.lookup_eq] at answered
  obtain rfl := Except.ok.inj (answered.symm.trans returned)
  obtain ⟨kept, payloads⟩ := carries.destined destined
  exact ⟨kept, payloads, carries.gauge⟩

/-- A lookup leaves less to move while an episode runs. -/
theorem older_count_lt {Store Id Content Memory : Type} [Arena Store Id Content]
    [LawfulArena Store] {map : Map Id} {store : Store} {layout : Layout Id}
    (destined : map.Destined store layout) (active : map.isRehashing = true)
    (query : Query Id Content Memory) (memory : Memory)
    {outcome : Outcome (Map Id) Store (Option Id × Memory)}
    (answered : query.lookup map store memory = .ok outcome) :
    outcome.state.rehash.older.count < map.rehash.older.count := by
  obtain ⟨_, _, gauge⟩ := destined.lookup query memory answered
  have moved : outcome.state.rehash.older.count =
      map.rehash.older.count - map.config.migrationWork :=
    (congrArg Gauge.older gauge).trans (Gauge.older_step _ _)
  obtain ⟨newer, older, sound, _⟩ := destined
  obtain ⟨_, _, work⟩ := (Config.validate_eq_ok_iff _).1 sound.valid
  have left : 0 < map.rehash.older.count := by
    rcases sound.settled with idle | ⟨_, counted⟩
    · rw [isRehashing, idle] at active
      exact absurd active Bool.false_ne_true
    · exact counted
  omega

/-- A map that is destined for a layout settles. -/
theorem settles {Store Id Content : Type} [Arena Store Id Content] [LawfulArena Store]
    {map : Map Id} {store : Store} {layout : Layout Id} (destined : map.Destined store layout) :
    ∃ after final, map.Settles store after final := by
  induction left : map.rehash.older.count using Nat.strong_induction_on generalizing map store with
  | _ count inductionHypothesis =>
      cases active : map.isRehashing with
      | false => exact ⟨map, store, .settled store active⟩
      | true =>
          obtain ⟨outcome, candidates, _, answered, _, _, chosen, _⟩ :=
            destined.holds.lookup 0 (.ofPredicate fun _ => false) ()
          have missed : outcome.result.1 = none := by
            rw [chosen, Matcher.choose_unit]
            simp [Matcher.ofPredicate]
          have less := destined.older_count_lt active (.code 0 _) () answered
          obtain ⟨next, _, _⟩ := destined.lookup (.code 0 _) () answered
          obtain ⟨after, final, rest⟩ := inductionHypothesis _ (left ▸ less) next rfl
          exact ⟨after, final, .lookup active (.code 0 _) () answered missed rest⟩

end Destined

/-- A map that has settled shows the layout that it was destined for, in the same table slots. -/
theorem Settles.ends {Store Id Content : Type} [Arena Store Id Content] [LawfulArena Store]
    {map after : Map Id} {store final : Store} (settles : map.Settles store after final)
    {layout : Layout Id} (destined : map.Destined store layout) :
    after.isRehashing = false ∧ after.rehash.newer.Sound final layout ∧
      after.capacity = map.capacity ∧ Arena.SamePayloads store final := by
  induction settles with
  | settled store inactive => exact ⟨inactive, destined.newer_sound inactive, rfl, .refl store⟩
  | lookup active query memory answered missed rest inductionHypothesis =>
      obtain ⟨next, kept, gauge⟩ := destined.lookup query memory answered
      obtain ⟨inactive, sound, slots, payloads⟩ := inductionHypothesis next
      have capacity := (congrArg Gauge.capacity gauge).trans (Gauge.capacity_step _ _)
      exact ⟨inactive, sound, slots.trans capacity, kept.trans payloads⟩

/-- Two tables without an older one beside them that show the same layout have the same chains. -/
theorem SameChains.of_layout {Store Id Content : Type} [Arena Store Id Content] [LawfulArena Store]
    {map other : Map Id} {store last : Store} {layout : Layout Id} {linked : Finset Id}
    (inactive : map.isRehashing = false ∧ other.isRehashing = false)
    (capacity : map.capacity = other.capacity) (left : map.rehash.newer.Sound store layout)
    (right : other.rehash.newer.Sound last layout) (payloads : Arena.SamePayloads store last)
    (listed : ∀ id ∈ linked, id ∈ layout.ids map.capacity) :
    map.SameChains linked store other last := by
  refine ⟨inactive, capacity, ⟨_, left.chains_eq, ?_⟩, ?_⟩
  · rw [right.chains_eq, show other.rehash.newer.capacity = map.capacity from capacity.symm]
    rfl
  · intro id member
    have home := left.mem_ids.1 (listed id member)
    have same := (left.chains _).link?_eq (right.chains _) payloads id home
    obtain ⟨node, found⟩ := Option.isSome_iff_exists.1 (left.present (listed id member))
    have link : Arena.link? store id = some node.link := congrArg (Option.map Node.link) found
    exact ⟨node.link, link, same.symm.trans link⟩

/-- Two tables without an older one beside them that show the same payloads have the same slots. -/
theorem SameSlots.of_perm {Store Id Content : Type} [Arena Store Id Content] [LawfulArena Store]
    {map other : Map Id} {store last : Store} {layout rest : Layout Id}
    (inactive : map.isRehashing = false ∧ other.isRehashing = false)
    (capacity : map.capacity = other.capacity) (left : map.rehash.newer.Sound store layout)
    (right : other.rehash.newer.Sound last rest) (payloads : Arena.SamePayloads store last)
    (ids : (layout.ids map.capacity).Perm (rest.ids other.capacity)) :
    map.SameSlots store other last := by
  refine ⟨inactive, capacity, _, _, left.chains_eq, right.chains_eq, ?_⟩
  rw [show other.rehash.newer.capacity = map.rehash.newer.capacity from capacity.symm,
    List.forall₂_map_left_iff, List.forall₂_map_right_iff, List.forall₂_same]
  intro slot _
  exact left.slot_perm right capacity.symm payloads ids slot

/-- Without an episode both kinds of resize reply the same. Once the one has settled, both maps have
the same chains, and if an episode was running they still have the same slots. -/
theorem Reachable.resize_agrees {Store Id Content : Type} [Arena Store Id Content]
    [LawfulArena Store] [DecidableEq Id] {map : Map Id} {store : Store} {linked : Finset Id}
    (reachable : map.Reachable store linked) (allocator : Allocator) (target : Nat) :
    ∃ outcome direct, map.resize store allocator target = .ok outcome ∧
      map.resizeAtOnce store allocator target = .ok direct ∧
      (map.isRehashing = false → outcome.result = direct.result) ∧
      (outcome.result = .ok () → direct.result = .ok () →
        (∃ after final, outcome.state.Settles outcome.store after final) ∧
        ∀ after final, outcome.state.Settles outcome.store after final →
          (map.isRehashing = false → after.SameChains linked final direct.state direct.store) ∧
          (map.isRehashing = true → after.SameSlots final direct.state direct.store)) := by
  obtain ⟨listed, ⟨newer, older, sound, same⟩, rfl⟩ := reachable.links
  obtain ⟨outcome, answered, resizes⟩ := sound.resize allocator target
  obtain ⟨direct, returned, gathers⟩ := sound.resizeAtOnce allocator target
  have agree (inactive : map.isRehashing = false) :
      (∃ error, outcome.result = .error error ∧ direct.result = .error error) ∨
        ∃ capacity layout,
          map.Resized store (map.rehash.ids newer older) capacity layout outcome ∧
          map.Resized store (map.rehash.ids newer older) capacity layout direct := by
    obtain ⟨_, _, first, second, agree⟩ := sound.resize_eq_resizeAtOnce inactive allocator target
    obtain rfl := Except.ok.inj (answered.symm.trans first)
    obtain rfl := Except.ok.inj (returned.symm.trans second)
    exact agree
  refine ⟨outcome, direct, answered, returned, ?_, ?_⟩
  · intro inactive
    rcases agree inactive with ⟨error, left, right⟩ | ⟨_, _, left, right⟩
    · rw [left, right]
    · rw [left.result, right.result]
  · intro succeeded also
    obtain ⟨error, rfl⟩ | ⟨capacity, layout, goal, resized⟩ := resizes
    · exact nomatch succeeded
    obtain ⟨error, rfl⟩ | ⟨_, rest, sameGoal, still, gathered⟩ := gathers
    · exact nomatch also
    obtain rfl := Except.ok.inj (goal.symm.trans sameGoal)
    refine ⟨resized.destined.settles, ?_⟩
    intro after final settles
    obtain ⟨settled, sound, slots, kept⟩ := settles.ends resized.destined
    have capacities : after.capacity = direct.state.capacity :=
      slots.trans (resized.slots.trans gathered.slots.symm)
    have payloads : Arena.SamePayloads final direct.store :=
      (resized.payloads.trans kept).symm.trans gathered.payloads
    constructor
    · intro inactive
      rcases agree inactive with ⟨error, left, _⟩ | ⟨_, common, left, right⟩
      · exact nomatch left.symm.trans succeeded
      obtain ⟨_, sound, _, _⟩ := settles.ends left.destined
      apply SameChains.of_layout ⟨settled, still⟩ capacities sound
        (right.destined.newer_sound still) payloads
      intro id member
      rw [slots.trans left.slots, (left.ids.trans same).mem_iff]
      exact List.mem_toFinset.1 member
    · intro _
      apply SameSlots.of_perm ⟨settled, still⟩ capacities sound
        (gathered.destined.newer_sound still) payloads
      rw [slots.trans resized.slots, gathered.slots]
      exact resized.ids.trans gathered.ids.symm

/-- Both kinds of resize agree on a map of four slots, and still when the first one has left an
episode on eight slots. -/
theorem Reachable.resize_agrees_three :
    (∃ (map after : Map Nat) (final : IndexedArena Char) (outcome direct : Outcome _ _ _),
        map.Reachable IndexedArena.three {2, 1, 0} ∧ map.isRehashing = false ∧
        map.resize IndexedArena.three .addressSpace 8 = .ok outcome ∧
        map.resizeAtOnce IndexedArena.three .addressSpace 8 = .ok direct ∧
        outcome.state.Settles outcome.store after final ∧
        after.SameChains {2, 1, 0} final direct.state direct.store) ∧
      ∃ (map after : Map Nat) (final : IndexedArena Char) (outcome direct : Outcome _ _ _),
        map.Reachable IndexedArena.three {2, 1, 0} ∧ map.isRehashing = true ∧
        map.resize IndexedArena.three .addressSpace 2 = .ok outcome ∧
        map.resizeAtOnce IndexedArena.three .addressSpace 2 = .ok direct ∧
        outcome.state.Settles outcome.store after final ∧
        after.SameSlots final direct.state direct.store := by
  constructor
  · obtain ⟨outcome, direct, answered, returned, _, agree⟩ :=
      Reachable.three.resize_agrees .addressSpace 8
    have succeeded : outcome.result = .ok () :=
      (Except.ok.inj (congrArg (Except.map Outcome.result) answered)).symm
    have also : direct.result = .ok () :=
      (Except.ok.inj (congrArg (Except.map Outcome.result) returned)).symm
    obtain ⟨⟨after, final, settles⟩, same⟩ := agree succeeded also
    exact ⟨_, after, final, outcome, direct, .three, rfl, answered, returned, settles,
      (same after final settles).1 rfl⟩
  · obtain ⟨outcome, direct, answered, returned, _, agree⟩ :=
      Reachable.three_resized.resize_agrees .addressSpace 2
    have succeeded : outcome.result = .ok () :=
      (Except.ok.inj (congrArg (Except.map Outcome.result) answered)).symm
    have also : direct.result = .ok () :=
      (Except.ok.inj (congrArg (Except.map Outcome.result) returned)).symm
    obtain ⟨⟨after, final, settles⟩, same⟩ := agree succeeded also
    exact ⟨_, after, final, outcome, direct, .three_resized, rfl, answered, returned, settles,
      (same after final settles).2 rfl⟩

end IncrementalMap.Map
