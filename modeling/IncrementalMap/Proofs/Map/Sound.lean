/-
This file proves that lookups and deletions answer for the payloads that a map holds.
-/

import IncrementalMap.Proofs.Map.Carry
import IncrementalMap.Proofs.Rehash.Withdraw

namespace IncrementalMap

/-- The linked payloads offer exactly those with the hash code as candidates. -/
def Arena.Offers {Store Id Content : Type} [Arena Store Id Content] (store : Store)
    (linked : Set Id) (hash : UInt64) (candidates : List (Id × Content)) : Prop :=
  ∀ id content, (id, content) ∈ candidates ↔ id ∈ linked ∧
    ∃ node, Arena.node? store id = some node ∧ node.link.hash = hash ∧ node.content = content

namespace Map

/-- A sound map is a sound and settled rehash with valid settings. -/
structure Sound {Store Id Content : Type} [Arena Store Id Content] (map : Map Id) (store : Store)
    (newer older : Layout Id) : Prop where
  tables : map.rehash.Sound store newer older
  settled : map.rehash.Settled
  valid : map.config.validate = .ok ()

/-- A map is destined for the layout that its newer table shows at the end of the episode. -/
def Destined {Store Id Content : Type} [Arena Store Id Content] (map : Map Id) (store : Store)
    (layout : Layout Id) : Prop :=
  ∃ newer older, map.Sound store newer older ∧ map.rehash.destined store newer older = layout

/-- A map holds the payloads of its two layouts, in any order. -/
def Holds {Store Id Content : Type} [Arena Store Id Content] (map : Map Id) (store : Store)
    (listed : List Id) : Prop :=
  ∃ newer older, map.Sound store newer older ∧ (map.rehash.ids newer older).Perm listed

/-- A call leaves a map that holds the listed payloads, with the settings and the arena payloads
as they were. -/
structure Leaves {Store Id Content Result : Type} [Arena Store Id Content] (map : Map Id)
    (store : Store) (listed : List Id) (outcome : Outcome (Map Id) Store Result) : Prop where
  holds : outcome.state.Holds outcome.store listed
  config : outcome.state.config = map.config
  payloads : Arena.SamePayloads store outcome.store

namespace Destined

/-- A map holds the payloads of the layout that it is destined for. -/
theorem holds {Store Id Content : Type} [Arena Store Id Content] {map : Map Id} {store : Store}
    {layout : Layout Id} (destined : map.Destined store layout) :
    map.Holds store (layout.ids map.capacity) := by
  obtain ⟨newer, older, sound, rfl⟩ := destined
  exact ⟨newer, older, sound, sound.tables.ids_destined.symm⟩

/-- Without an episode the newer table shows the layout already. -/
theorem newer_sound {Store Id Content : Type} [Arena Store Id Content] {map : Map Id} {store : Store}
    {layout : Layout Id} (destined : map.Destined store layout)
    (inactive : map.isRehashing = false) : map.rehash.newer.Sound store layout := by
  obtain ⟨newer, older, sound, rfl⟩ := destined
  rw [Rehash.destined, map.rehash.isActive_eq_false_iff.1 inactive, Layout.ids_zero,
    Layout.pour_nil]
  exact sound.tables.pair.soundDestination

end Destined

/-- An advance is one step of the configured work. -/
theorem advance_stepped {Store Id Content : Type} [Arena Store Id Content] [LawfulArena Store]
    (map : Map Id) {store : Store} {newer older : Layout Id}
    (sound : map.rehash.Sound store newer older) :
    ∃ stepped drained,
      map.rehash.Stepped store newer older map.config.migrationWork stepped drained ∧
      map.advance store =
        .ok ⟨stepped.result, ⟨stepped.state, map.config⟩, stepped.store, stepped.events⟩ := by
  obtain ⟨stepped, drained, answered, step⟩ := sound.step map.config.migrationWork
  refine ⟨stepped, drained, step, ?_⟩
  obtain ⟨rehash, config⟩ := map
  rw [advance, answered]
  rfl

/-- An advance that has stepped carries the episode along and takes nothing. -/
theorem carries_of_stepped {Store Id Content : Type} [Arena Store Id Content] {map : Map Id}
    {store : Store} {newer older drained : Layout Id} {stepped : Outcome (Rehash Id) Store Nat}
    (sound : map.rehash.Sound store newer older)
    (step : map.rehash.Stepped store newer older map.config.migrationWork stepped drained)
    (advanced : map.advance store =
      .ok ⟨stepped.result, ⟨stepped.state, map.config⟩, stepped.store, stepped.events⟩) :
    map.Carries store ⟨stepped.result, ⟨stepped.state, map.config⟩, stepped.store, stepped.events⟩
      none [] ⟨stepped.state, map.config⟩ stepped.store :=
  ⟨advanced, step.moved, .nothing, step.gauge sound, by simp, step.reports, rfl⟩

/-- An advance settles the map, keeps all payloads and carries an episode along. -/
theorem advance_sound {Store Id Content : Type} [Arena Store Id Content] [LawfulArena Store]
    (map : Map Id) {store : Store} {newer older : Layout Id}
    (sound : map.rehash.Sound store newer older)
    (resting : map.rehash.isActive = false → map.rehash = Rehash.idle map.rehash.newer)
    (valid : map.config.validate = .ok ()) :
    ∃ moved rehash linked events poured drained,
      map.Carries store ⟨moved, ⟨rehash, map.config⟩, linked, events⟩ none []
        ⟨rehash, map.config⟩ linked ∧
      Sound ⟨rehash, map.config⟩ linked poured drained ∧
      (rehash.ids poured drained).Perm (map.rehash.ids newer older) ∧
      Arena.SamePayloads store linked ∧
      rehash.destined linked poured drained = map.rehash.destined store newer older := by
  obtain ⟨⟨moved, after, linked, events⟩, drained, step, advanced⟩ := map.advance_stepped sound
  exact ⟨moved, after, linked, events, _, drained, carries_of_stepped sound step advanced,
    ⟨step.sound, step.settled sound resting, valid⟩, step.ids sound, step.rewires.payloads,
    step.destined⟩

/-- A lookup ends after the advance when nothing is found. -/
theorem lookup_of_none {Store Id Content Memory : Type} [Arena Store Id Content] {map after : Map Id}
    {store linked : Store} {moved : Nat} {events : List Event} {hash : UInt64}
    {matcher : Matcher Content Memory} {memory left : Memory}
    (advanced : map.advance store = .ok ⟨moved, after, linked, events⟩)
    (searched : after.rehash.find linked hash matcher memory = .ok (none, left)) :
    map.lookup store hash matcher memory = .ok ⟨(none, left), after, linked, events⟩ := by
  rw [lookup, advanced, ok_bind]
  dsimp only
  rw [searched, ok_bind]
  rfl

/-- A lookup gives the payload that the found position points at. -/
theorem lookup_of_some {Store Id Content Memory : Type} [Arena Store Id Content] {map after : Map Id}
    {store linked : Store} {moved : Nat} {events : List Event} {hash : UInt64}
    {matcher : Matcher Content Memory} {memory left : Memory} {side : Side} {position : Position Id}
    {id : Option Id} (advanced : map.advance store = .ok ⟨moved, after, linked, events⟩)
    (searched : after.rehash.find linked hash matcher memory = .ok (some (side, position), left))
    (aimed : (after.rehash.table side).target linked position = .ok id) :
    map.lookup store hash matcher memory = .ok ⟨(id, left), after, linked, events⟩ := by
  rw [lookup, advanced, ok_bind]
  dsimp only
  rw [searched, ok_bind]
  dsimp only
  rw [aimed, ok_bind]
  rfl

/-- A deletion ends after the advance when nothing is found. -/
theorem delete_of_none {Store Id Content Memory : Type} [Arena Store Id Content] {map after : Map Id}
    {store linked : Store} {moved : Nat} {events : List Event} {hash : UInt64}
    {matcher : Matcher Content Memory} {memory left : Memory}
    (advanced : map.advance store = .ok ⟨moved, after, linked, events⟩)
    (searched : after.rehash.find linked hash matcher memory = .ok (none, left)) :
    map.delete store hash matcher memory = .ok ⟨(none, left), after, linked, events⟩ := by
  rw [delete, advanced, ok_bind]
  dsimp only
  rw [searched, ok_bind]
  rfl

/-- A deletion from the newer table leaves the episode to the next call. -/
theorem delete_of_newer {Store Id Content Memory : Type} [Arena Store Id Content]
    {map after : Map Id} {store linked unlinked : Store} {moved : Nat} {events : List Event}
    {hash : UInt64} {matcher : Matcher Content Memory} {memory left : Memory}
    {position : Position Id} {id : Option Id} {rehash : Rehash Id}
    (advanced : map.advance store = .ok ⟨moved, after, linked, events⟩)
    (searched : after.rehash.find linked hash matcher memory = .ok (some (.newer, position), left))
    (detached : after.rehash.detach linked .newer position = .ok (id, rehash, unlinked)) :
    map.delete store hash matcher memory =
      .ok ⟨(id, left), ⟨rehash, after.config⟩, unlinked, events⟩ := by
  rw [delete, advanced, ok_bind]
  dsimp only
  rw [searched, ok_bind]
  dsimp only
  rw [detached, ok_bind]
  rfl

/-- A deletion from the older table ends the episode when it takes the last payload. -/
theorem delete_of_older {Store Id Content Memory : Type} [Arena Store Id Content]
    {map after : Map Id} {store linked unlinked : Store} {moved : Nat} {events : List Event}
    {hash : UInt64} {matcher : Matcher Content Memory} {memory left : Memory}
    {position : Position Id} {id : Option Id} {rehash : Rehash Id}
    (advanced : map.advance store = .ok ⟨moved, after, linked, events⟩)
    (searched : after.rehash.find linked hash matcher memory = .ok (some (.older, position), left))
    (detached : after.rehash.detach linked .older position = .ok (id, rehash, unlinked)) :
    map.delete store hash matcher memory = .ok ⟨(id, left), ⟨rehash.release.1, after.config⟩,
      unlinked, events ++ rehash.release.2⟩ := by
  rw [delete, advanced, ok_bind]
  dsimp only
  rw [searched, ok_bind]
  dsimp only
  rw [detached, ok_bind]
  rfl

/-- A lookup or a deletion asks its matcher after the advance. -/
def asked {Store Id Content Memory : Type} [Arena Store Id Content] (map : Map Id) (store : Store)
    (hash : UInt64) (matcher : Matcher Content Memory) (memory : Memory) : List (Id × Content) :=
  match map.advance store with
  | .ok ⟨_, after, linked, _⟩ => after.rehash.asked linked hash matcher memory
  | .error _ => []

/-- A map searches when the advance and the search after it are both answered. -/
def Searches {Store Id Content Memory : Type} [Arena Store Id Content] (map : Map Id)
    (store : Store) (hash : UInt64) (matcher : Matcher Content Memory) (memory : Memory) : Prop :=
  ∃ stepped answer, map.advance store = .ok stepped ∧
    stepped.state.rehash.find stepped.store hash matcher memory = .ok answer

/-- A lookup that is answered has searched. -/
theorem searches_of_lookup {Store Id Content Memory : Type} [Arena Store Id Content] {map : Map Id}
    {store : Store} {hash : UInt64} {matcher : Matcher Content Memory} {memory : Memory}
    {outcome : Outcome (Map Id) Store (Option Id × Memory)}
    (answered : map.lookup store hash matcher memory = .ok outcome) :
    map.Searches store hash matcher memory := by
  rw [lookup] at answered
  obtain ⟨stepped, advanced, rest⟩ := exists_of_bind_eq_ok answered
  obtain ⟨answer, found, _⟩ := exists_of_bind_eq_ok rest
  exact ⟨stepped, answer, advanced, found⟩

/-- A deletion that is answered has searched. -/
theorem searches_of_delete {Store Id Content Memory : Type} [Arena Store Id Content] {map : Map Id}
    {store : Store} {hash : UInt64} {matcher : Matcher Content Memory} {memory : Memory}
    {outcome : Outcome (Map Id) Store (Option Id × Memory)}
    (answered : map.delete store hash matcher memory = .ok outcome) :
    map.Searches store hash matcher memory := by
  rw [delete] at answered
  obtain ⟨stepped, advanced, rest⟩ := exists_of_bind_eq_ok answered
  obtain ⟨answer, found, _⟩ := exists_of_bind_eq_ok rest
  exact ⟨stepped, answer, advanced, found⟩

/-- A withdrawal is what a deletion takes after its step. -/
theorem takes_of_withdraws {Store Id Content : Type} [Arena Store Id Content]
    {rehash after : Rehash Id} {store unlinked : Store} {newer older : Layout Id} {id : Id}
    {side : Side} {released : List Event} (config : Config)
    (withdraws : rehash.Withdraws store newer older id side after unlinked released) :
    Takes ⟨rehash, config⟩ store (some side) released ⟨after, config⟩ unlinked := by
  cases withdraws with
  | newer splits answered detached => exact .newer answered
  | older splits answered detached => exact .older answered

/-- These are the candidates that a search meets after a step of the configured work. -/
def offered {Store Id Content : Type} [Arena Store Id Content] (map : Map Id) (store : Store)
    (newer older : Layout Id) (stepped : Outcome (Rehash Id) Store Nat) (drained : Layout Id)
    (hash : UInt64) : List (Id × Content) :=
  stepped.state.reach stepped.store (newer.pour (map.rehash.newer.home store)
    ((older.ids map.rehash.older.capacity).take map.config.migrationWork)) drained hash

/-- A search that has stepped asks about the candidates that it meets. -/
theorem asked_of_stepped {Store Id Content Memory : Type} [Arena Store Id Content]
    [LawfulArena Store] {map : Map Id} {store : Store} {newer older drained : Layout Id}
    {stepped : Outcome (Rehash Id) Store Nat}
    (step : map.rehash.Stepped store newer older map.config.migrationWork stepped drained)
    (advanced : map.advance store =
      .ok ⟨stepped.result, ⟨stepped.state, map.config⟩, stepped.store, stepped.events⟩)
    (hash : UInt64) (matcher : Matcher Content Memory) (memory : Memory) :
    map.asked store hash matcher memory =
      matcher.asked (map.offered store newer older stepped drained hash) memory := by
  rw [asked, advanced]
  exact step.sound.asked_eq hash matcher memory

/-- A lookup that has stepped chooses among the candidates that it meets. -/
theorem lookup_of_stepped {Store Id Content Memory : Type} [Arena Store Id Content]
    [LawfulArena Store] {map : Map Id} {store : Store} {newer older drained : Layout Id}
    {stepped : Outcome (Rehash Id) Store Nat}
    (step : map.rehash.Stepped store newer older map.config.migrationWork stepped drained)
    (advanced : map.advance store =
      .ok ⟨stepped.result, ⟨stepped.state, map.config⟩, stepped.store, stepped.events⟩)
    (hash : UInt64) (matcher : Matcher Content Memory) (memory : Memory) :
    map.lookup store hash matcher memory =
      .ok ⟨matcher.choose (map.offered store newer older stepped drained hash) memory,
        ⟨stepped.state, map.config⟩, stepped.store, stepped.events⟩ := by
  obtain ⟨place, searched, finds⟩ := step.sound.find hash matcher memory
  rw [offered]
  rcases chosen : matcher.choose (stepped.state.reach stepped.store _ drained hash) memory with
    ⟨_ | id, left⟩
  · rw [chosen] at searched finds
    obtain rfl : place = none := finds
    exact lookup_of_none advanced searched
  · rw [chosen] at searched finds
    obtain ⟨side, front, rest, splits, rfl⟩ := finds
    exact lookup_of_some advanced searched (step.sound.target splits)

/-- A deletion that has stepped chooses like a lookup and withdraws the payload that it has
chosen. -/
theorem delete_of_stepped {Store Id Content Memory : Type} [Arena Store Id Content]
    [LawfulArena Store] {map : Map Id} {store : Store} {newer older drained : Layout Id}
    {stepped : Outcome (Rehash Id) Store Nat}
    (step : map.rehash.Stepped store newer older map.config.migrationWork stepped drained)
    (advanced : map.advance store =
      .ok ⟨stepped.result, ⟨stepped.state, map.config⟩, stepped.store, stepped.events⟩)
    (hash : UInt64) (matcher : Matcher Content Memory) (memory : Memory) :
    match matcher.choose (map.offered store newer older stepped drained hash) memory with
    | (none, left) => map.delete store hash matcher memory =
        .ok ⟨(none, left), ⟨stepped.state, map.config⟩, stepped.store, stepped.events⟩
    | (some id, left) => ∃ side after unlinked released,
        stepped.state.Withdraws stepped.store (newer.pour (map.rehash.newer.home store)
          ((older.ids map.rehash.older.capacity).take map.config.migrationWork)) drained id side
          after unlinked released ∧
        map.delete store hash matcher memory =
          .ok ⟨(some id, left), ⟨after, map.config⟩, unlinked, stepped.events ++ released⟩ := by
  obtain ⟨place, searched, finds⟩ := step.sound.find hash matcher memory
  rw [offered]
  rcases chosen : matcher.choose (stepped.state.reach stepped.store _ drained hash) memory with
    ⟨_ | id, left⟩
  · rw [chosen] at searched finds
    obtain rfl : place = none := finds
    exact delete_of_none advanced searched
  · rw [chosen] at searched finds
    obtain ⟨side, front, rest, splits, rfl⟩ := finds
    obtain ⟨cut, unlinked, answered, withdraws⟩ := step.sound.withdraw splits
    cases side with
    | newer =>
        have deleted := delete_of_newer advanced searched answered
        rw [← List.append_nil stepped.events] at deleted
        exact ⟨.newer, cut, unlinked, [], withdraws, deleted⟩
    | older =>
        have deleted := delete_of_older advanced searched answered
        exact ⟨.older, _, unlinked, _, withdraws, deleted⟩

namespace Sound

/-- A lookup makes one step and chooses among the candidates that it then meets. -/
theorem lookup_eq {Store Id Content Memory : Type} [Arena Store Id Content] [LawfulArena Store]
    {map : Map Id} {store : Store} {newer older : Layout Id} (sound : map.Sound store newer older)
    (hash : UInt64) (matcher : Matcher Content Memory) (memory : Memory) :
    ∃ stepped drained,
      map.rehash.Stepped store newer older map.config.migrationWork stepped drained ∧
      map.advance store =
        .ok ⟨stepped.result, ⟨stepped.state, map.config⟩, stepped.store, stepped.events⟩ ∧
      map.lookup store hash matcher memory =
        .ok ⟨matcher.choose (map.offered store newer older stepped drained hash) memory,
          ⟨stepped.state, map.config⟩, stepped.store, stepped.events⟩ := by
  obtain ⟨stepped, drained, step, advanced⟩ := map.advance_stepped sound.tables
  exact ⟨stepped, drained, step, advanced, lookup_of_stepped step advanced hash matcher memory⟩

/-- A deletion chooses like a lookup and withdraws the payload that it has chosen. -/
theorem delete_eq {Store Id Content Memory : Type} [Arena Store Id Content] [LawfulArena Store]
    {map : Map Id} {store : Store} {newer older : Layout Id} (sound : map.Sound store newer older)
    (hash : UInt64) (matcher : Matcher Content Memory) (memory : Memory) :
    ∃ stepped drained,
      map.rehash.Stepped store newer older map.config.migrationWork stepped drained ∧
      map.advance store =
        .ok ⟨stepped.result, ⟨stepped.state, map.config⟩, stepped.store, stepped.events⟩ ∧
      match matcher.choose (map.offered store newer older stepped drained hash) memory with
      | (none, left) => map.delete store hash matcher memory =
          .ok ⟨(none, left), ⟨stepped.state, map.config⟩, stepped.store, stepped.events⟩
      | (some id, left) => ∃ side after unlinked released,
          stepped.state.Withdraws stepped.store (newer.pour (map.rehash.newer.home store)
            ((older.ids map.rehash.older.capacity).take map.config.migrationWork)) drained id side
            after unlinked released ∧
          map.delete store hash matcher memory =
            .ok ⟨(some id, left), ⟨after, map.config⟩, unlinked, stepped.events ++ released⟩ := by
  obtain ⟨stepped, drained, step, advanced⟩ := map.advance_stepped sound.tables
  exact ⟨stepped, drained, step, advanced, delete_of_stepped step advanced hash matcher memory⟩

end Sound

namespace Holds

/-- The size counts the payloads that the map holds. -/
theorem size_eq {Store Id Content : Type} [Arena Store Id Content] {map : Map Id} {store : Store}
    {listed : List Id} (holds : map.Holds store listed) : map.size = listed.length := by
  obtain ⟨newer, older, sound, same⟩ := holds
  rw [size, sound.tables.size_eq, same.length_eq]

theorem nodup {Store Id Content : Type} [Arena Store Id Content] {map : Map Id} {store : Store}
    {listed : List Id} (holds : map.Holds store listed) : listed.Nodup := by
  obtain ⟨newer, older, sound, same⟩ := holds
  exact same.nodup_iff.1 sound.tables.nodup

/-- A caller may edit the arena as long as the links of the held payloads stay. -/
theorem congr {Store Id Content : Type} [Arena Store Id Content] {map : Map Id}
    {before after : Store} {listed : List Id} (holds : map.Holds before listed)
    (same : ∀ id ∈ listed, Arena.link? after id = Arena.link? before id) :
    map.Holds after listed := by
  obtain ⟨newer, older, sound, ids⟩ := holds
  have tables := sound.tables.congr fun id member => same id (ids.mem_iff.1 member)
  exact ⟨newer, older, ⟨tables, sound.settled, sound.valid⟩, ids⟩

/-- The reach of a hash code after a step offers what the map held before. -/
theorem offers {Store Id Content : Type} [Arena Store Id Content] {rehash : Rehash Id}
    {before after : Store} {newer older : Layout Id} (sound : rehash.Sound after newer older)
    {listed : List Id} (same : (rehash.ids newer older).Perm listed)
    (payloads : Arena.SamePayloads before after) (hash : UInt64) :
    Arena.Offers before {id | id ∈ listed} hash (rehash.reach after newer older hash) := by
  intro id content
  rw [sound.mem_reach, same.mem_iff, Set.mem_ofPred_eq]
  apply and_congr_right
  intro _
  constructor
  · rintro ⟨node, found, rfl, rfl⟩
    exact payloads.symm.node found
  · rintro ⟨node, found, rfl, rfl⟩
    exact payloads.node found

/-- A lookup chooses among the payloads with its hash code and keeps all payloads. -/
theorem lookup {Store Id Content Memory : Type} [Arena Store Id Content] [LawfulArena Store]
    {map : Map Id} {store : Store} {listed : List Id} (holds : map.Holds store listed)
    (hash : UInt64) (matcher : Matcher Content Memory) (memory : Memory) :
    ∃ outcome candidates stepped, map.lookup store hash matcher memory = .ok outcome ∧
      map.Leaves store listed outcome ∧ Arena.Offers store {id | id ∈ listed} hash candidates ∧
      outcome.result = matcher.choose candidates memory ∧
      map.Carries store stepped none [] outcome.state outcome.store ∧
      outcome.events = stepped.events := by
  obtain ⟨newer, older, sound, same⟩ := holds
  obtain ⟨stepped, drained, step, advanced, answered⟩ := sound.lookup_eq hash matcher memory
  have after : Sound ⟨stepped.state, map.config⟩ stepped.store _ drained :=
    ⟨step.sound, step.settled sound.tables sound.settled.resting, sound.valid⟩
  have listedAfter := (step.ids sound.tables).trans same
  exact ⟨_, _, _, answered, ⟨⟨_, drained, after, listedAfter⟩, rfl, step.rewires.payloads⟩,
    offers step.sound listedAfter step.rewires.payloads hash, rfl,
    carries_of_stepped sound.tables step advanced, rfl⟩

/-- A deletion chooses like a lookup and removes exactly the chosen payload. -/
theorem delete {Store Id Content Memory : Type} [Arena Store Id Content] [LawfulArena Store]
    {map : Map Id} {store : Store} {listed : List Id} (holds : map.Holds store listed)
    (hash : UInt64) (matcher : Matcher Content Memory) (memory : Memory) :
    ∃ outcome candidates stepped taken released,
      map.delete store hash matcher memory = .ok outcome ∧
      Arena.Offers store {id | id ∈ listed} hash candidates ∧
      outcome.result = matcher.choose candidates memory ∧
      map.Carries store stepped taken released outcome.state outcome.store ∧
      outcome.events = stepped.events ++ released ∧
      match outcome.result.1 with
      | none => taken = none ∧ map.Leaves store listed outcome
      | some id => ∃ left side, taken = some side ∧ listed.Perm (id :: left) ∧
          map.Leaves store left outcome := by
  obtain ⟨newer, older, sound, same⟩ := holds
  obtain ⟨stepped, drained, step, advanced, answered⟩ := sound.delete_eq hash matcher memory
  have settled := step.settled sound.tables sound.settled.resting
  have listedAfter := (step.ids sound.tables).trans same
  have candidates := offers step.sound listedAfter step.rewires.payloads hash
  have carries := carries_of_stepped sound.tables step advanced
  rcases chosen : matcher.choose (map.offered store newer older stepped drained hash) memory with
    ⟨_ | id, left⟩
  · rw [chosen] at answered
    have after : Sound ⟨stepped.state, map.config⟩ stepped.store _ drained :=
      ⟨step.sound, settled, sound.valid⟩
    exact ⟨_, _, _, none, [], answered, candidates, chosen.symm, carries,
      (List.append_nil _).symm, rfl, ⟨_, drained, after, listedAfter⟩, rfl, step.rewires.payloads⟩
  · rw [chosen] at answered
    obtain ⟨side, rehash, unlinked, released, withdraws, deleted⟩ := answered
    obtain ⟨newerAfter, olderAfter, soundAfter, removed⟩ := withdraws.sound
    obtain ⟨counted, moves, reported⟩ := withdraws.gauge step.sound
    obtain ⟨before, rewires, _⟩ := withdraws.rewires step.sound
    have after : Sound ⟨rehash, map.config⟩ unlinked newerAfter olderAfter :=
      ⟨soundAfter, withdraws.settled step.sound settled, sound.valid⟩
    exact ⟨_, _, _, some side, released, deleted, candidates, chosen.symm,
      carries.take (takes_of_withdraws map.config withdraws) counted moves reported, rfl, _, side,
      rfl, listedAfter.symm.trans removed, ⟨newerAfter, olderAfter, after, .refl _⟩, rfl,
      step.rewires.payloads.trans rewires.payloads⟩

end Holds

end Map

end IncrementalMap
