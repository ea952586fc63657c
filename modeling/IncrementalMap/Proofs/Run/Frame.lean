/-
This file proves which successors the calls of a map write, and that they write nothing else.
-/

import IncrementalMap.Proofs.Run.Progress
import IncrementalMap.Proofs.Run.Refusal
import IncrementalMap.Proofs.Run.Session

namespace IncrementalMap

namespace Call

variable {Store Id Content Memory : Type} [Arena Store Id Content]

/-- These calls only read the arena. -/
def Reads (call : Call Id Content Memory) : Prop :=
  match call with
  | .reserve _ | .clear | .visit => True
  | _ => False

/-- A call that only reads the arena leaves it as it is. -/
theorem store_of_reads {call : Call Id Content Memory} (reads : call.Reads) {allocator : Allocator}
    {map : Map Id} {store : Store} {outcome : Outcome (Map Id) Store (Reply Id Content Memory)}
    (answered : call.perform allocator map store = .ok outcome) : outcome.store = store := by
  cases call with
  | reserve requested =>
      rw [perform] at answered
      split at answered <;> exact congrArg Outcome.store (Except.ok.inj answered).symm
  | clear => exact congrArg Outcome.store (Except.ok.inj answered).symm
  | visit =>
      rw [perform] at answered
      obtain ⟨items, _, rfl⟩ := exists_of_map_eq_ok answered
      rfl
  | _ => exact reads.elim

/-- Without an episode a lookup or a deletion that finds nothing changes nothing, a deletion writes
the payload that it returns and the linked one that leads to it, and an insertion that starts no
growth writes its own payload. -/
def Rests (call : Call Id Content Memory) (map : Map Id) (store : Store) (linked : Finset Id)
    (outcome : Outcome (Map Id) Store (Reply Id Content Memory)) : Prop :=
  match call, outcome.result with
  | .lookup .., _ | .delete .., .found none _ => outcome.state = map ∧ outcome.store = store
  | .delete .., .found (some id) _ => ∃ before : Option Id,
      Arena.Rewires {moved | moved = id ∨ before = some moved} store outcome.store ∧
        ∀ last, before = some last → last ∈ linked ∧ Rehash.Leads store id last
  | .insert id, _ => (∀ event ∈ outcome.events, event.startsMigration = false) →
      Arena.Rewires {id} store outcome.store
  | _, _ => True

/-- A call keeps its frame when it only writes successors of payloads that are linked or inserted.
What it removes has no successor afterwards. It writes nothing if it only reads or is refused, and
little without an episode. -/
structure Frames (call : Call Id Content Memory) (map : Map Id) (store : Store)
    (linked : Finset Id) (outcome : Outcome (Map Id) Store (Reply Id Content Memory)) : Prop where
  payloads : Arena.SamePayloads store outcome.store
  others : ∀ id ∉ call.keeps (linked : Set Id),
    Arena.node? outcome.store id = Arena.node? store id
  removed : ∀ id left, call.Removes outcome.result → outcome.result = .found (some id) left →
    (Arena.node? outcome.store id).map (fun node => node.link.next) = some none
  reads : call.Reads → outcome.store = store
  refused : ∀ error, outcome.result = .done (.error error) → outcome.store = store
  rests : map.isRehashing = false → call.Rests map store linked outcome

end Call

namespace Map

/-- Without an episode a map has nothing to advance. -/
theorem advance_of_inactive {Store Id Content : Type} [Arena Store Id Content] {map : Map Id}
    (inactive : map.isRehashing = false) (store : Store) :
    map.advance store = .ok ⟨0, map, store, []⟩ := by
  obtain ⟨rehash, config⟩ := map
  rw [advance, Rehash.step_of_inactive inactive]
  rfl

/-- A growth that reports no start leaves the tables as they are. -/
theorem growIfFull_of_unstarted {Id : Type} {rehash after : Rehash Id} {config : Config}
    {allocator : Allocator} {events : List Event}
    (grows : growIfFull rehash config allocator = (after, events))
    (unstarted : ∀ event ∈ events, event.startsMigration = false) : after = rehash := by
  rw [growIfFull] at grows
  split at grows
  · rw [Rehash.grow] at grows
    split at grows
    · exact (congrArg Prod.fst grows).symm
    · split at grows
      · obtain ⟨_, rfl⟩ := Prod.mk.inj grows
        cases unstarted _ List.mem_cons_self
      · exact (congrArg Prod.fst grows).symm
  · exact (congrArg Prod.fst grows).symm

variable {Store Id Content Memory : Type} [Arena Store Id Content] [LawfulArena Store]
  {map : Map Id} {store : Store} {newer older : Layout Id}

namespace Sound

/-- Without an episode a lookup changes neither the map nor the arena. -/
theorem lookup_rests (sound : map.Sound store newer older) (inactive : map.isRehashing = false)
    (hash : UInt64) (matcher : Matcher Content Memory) (memory : Memory)
    {outcome : Outcome (Map Id) Store (Option Id × Memory)}
    (answered : map.lookup store hash matcher memory = .ok outcome) :
    outcome.state = map ∧ outcome.store = store := by
  obtain ⟨stepped, drained, _, advanced, found⟩ := sound.lookup_eq hash matcher memory
  obtain rfl := Except.ok.inj (found.symm.trans answered)
  have same := Except.ok.inj (advanced.symm.trans (advance_of_inactive inactive store))
  exact ⟨congrArg Outcome.state same, congrArg Outcome.store same⟩

/-- What a deletion returns has no successor afterwards. -/
theorem delete_removed (sound : map.Sound store newer older) (hash : UInt64)
    (matcher : Matcher Content Memory) (memory : Memory)
    {outcome : Outcome (Map Id) Store (Option Id × Memory)}
    (answered : map.delete store hash matcher memory = .ok outcome) {id : Id}
    (found : outcome.result.1 = some id) :
    (Arena.node? outcome.store id).map (fun node => node.link.next) = some none := by
  obtain ⟨stepped, drained, _, _, ends⟩ := sound.delete_eq hash matcher memory
  rcases chosen : matcher.choose (map.offered store newer older stepped drained hash) memory with
    ⟨_ | other, left⟩
  · rw [chosen] at ends
    obtain rfl := Except.ok.inj (ends.symm.trans answered)
    exact nomatch found
  · rw [chosen] at ends
    obtain ⟨side, after, unlinked, released, withdraws, deleted⟩ := ends
    obtain rfl := Except.ok.inj (deleted.symm.trans answered)
    obtain rfl := Option.some.inj found
    exact withdraws.detached

/-- Without an episode a deletion writes what it returns and the payload that leads to it. -/
theorem delete_rests (sound : map.Sound store newer older) (inactive : map.isRehashing = false)
    (hash : UInt64) (matcher : Matcher Content Memory) (memory : Memory)
    {outcome : Outcome (Map Id) Store (Option Id × Memory)}
    (answered : map.delete store hash matcher memory = .ok outcome) :
    match outcome.result.1 with
    | none => outcome.state = map ∧ outcome.store = store
    | some id => ∃ before : Option Id,
        Arena.Rewires {moved | moved = id ∨ before = some moved} store outcome.store ∧
          ∀ last, before = some last →
            last ∈ map.rehash.ids newer older ∧ Rehash.Leads store id last := by
  obtain ⟨stepped, drained, step, advanced, ends⟩ := sound.delete_eq hash matcher memory
  have same := Except.ok.inj (advanced.symm.trans (advance_of_inactive inactive store))
  have state := congrArg Outcome.state same
  have unwritten : stepped.store = store := congrArg Outcome.store same
  rcases chosen : matcher.choose (map.offered store newer older stepped drained hash) memory with
    ⟨_ | id, left⟩
  · rw [chosen] at ends
    obtain rfl := Except.ok.inj (ends.symm.trans answered)
    exact ⟨state, unwritten⟩
  · rw [chosen] at ends
    obtain ⟨side, after, unlinked, released, withdraws, deleted⟩ := ends
    obtain rfl := Except.ok.inj (deleted.symm.trans answered)
    obtain ⟨before, rewires, leads⟩ := withdraws.rewires step.sound
    rw [unwritten] at rewires leads
    refine ⟨before, rewires, ?_⟩
    intro last touched
    obtain ⟨leading, listed⟩ := leads last touched
    exact ⟨(step.ids sound.tables).mem_iff.1 listed, leading⟩

end Sound

/-- Without an episode an insertion that starts none writes its own payload. -/
theorem insert_rests {allocator : Allocator} {id : Id}
    {outcome : Outcome (Map Id) Store (Reply Id Content Memory)}
    (steps : (Call.insert id).StepsOnce allocator map store outcome none)
    (inactive : map.isRehashing = false)
    (unstarted : ∀ event ∈ outcome.events, event.startsMigration = false) :
    Arena.Rewires {id} store outcome.store := by
  obtain ⟨result, after, final, events⟩ := outcome
  obtain ⟨start, linked, grown, stepped, released, admits, carries, reported⟩ := steps
  obtain ⟨first, joined, made, inserted, grows, config⟩ := admits
  have quiet : ∀ event ∈ grown, event.startsMigration = false := by
    intro event member
    apply unstarted
    rw [show events = _ from reported]
    exact List.mem_append_left _ (List.mem_append_left _ member)
  have still : start.isRehashing = false := by
    rw [isRehashing, growIfFull_of_unstarted grows quiet]
    exact inactive
  have advanced := Except.ok.inj (carries.step.symm.trans (advance_of_inactive still linked))
  have takes : stepped.state.Takes stepped.store none released after final := carries.takes
  cases takes
  rw [advanced]
  exact Table.rewires_of_insert inserted

namespace Links

variable [DecidableEq Id] {linked : Finset Id} {allocator : Allocator}
  {call : Call Id Content Memory} {outcome : Outcome (Map Id) Store (Reply Id Content Memory)}

/-- A call writes to linked and inserted payloads only. -/
theorem rewires (links : map.Links store linked)
    (answered : call.perform allocator map store = .ok outcome) :
    Arena.Rewires (call.keeps (linked : Set Id)) store outcome.store := by
  obtain ⟨newer, older, sound, members⟩ := links.inside
  have mirrors := links.mirrors (.refl store) (.refl linked store)
  obtain ⟨more, fewer, _, ⟨_, _, stores⟩ | ⟨id, gone, _⟩⟩ :=
    sound.answer_mirrored mirrors (fun id => (members id).1) answered
  · exact stores.frame.mono fewer
  · exact absurd gone.2 (Set.notMem_empty id)

/-- What a call removes has no successor afterwards. -/
theorem removed (links : map.Links store linked)
    (answered : call.perform allocator map store = .ok outcome) {id : Id} {left : Memory}
    (removes : call.Removes outcome.result) (found : outcome.result = .found (some id) left) :
    (Arena.node? outcome.store id).map (fun node => node.link.next) = some none := by
  obtain ⟨newer, older, sound, _⟩ := links.inside
  cases call with
  | delete query memory =>
      rw [Call.perform, query.delete_eq] at answered
      obtain ⟨deleted, taken, rfl⟩ := exists_of_map_eq_ok answered
      exact sound.delete_removed query.hash query.matcher memory taken (Reply.found.inj found).1
  | _ => exact removes.elim

/-- A call that is refused writes nothing. -/
theorem refused (links : map.Links store linked) (legal : call.Legal linked store)
    (answered : call.perform allocator map store = .ok outcome) {error : MapError}
    (failed : outcome.result = .done (.error error)) : outcome.store = store := by
  obtain ⟨other, same, judged⟩ := links.judged allocator legal
  obtain rfl := Except.ok.inj (same.symm.trans answered)
  exact congrArg Outcome.store (judged.unchanged error failed)

/-- Without an episode a call writes little. -/
theorem rests (links : map.Links store linked) (legal : call.Legal linked store)
    (answered : call.perform allocator map store = .ok outcome)
    (inactive : map.isRehashing = false) : call.Rests map store linked outcome := by
  have performed := links.answered legal answered
  obtain ⟨newer, older, sound, members⟩ := links.inside
  cases call with
  | lookup query memory =>
      rw [Call.perform, query.lookup_eq] at answered
      obtain ⟨found, looked, rfl⟩ := exists_of_map_eq_ok answered
      exact sound.lookup_rests inactive query.hash query.matcher memory looked
  | delete query memory =>
      rw [Call.perform, query.delete_eq] at answered
      obtain ⟨deleted, taken, rfl⟩ := exists_of_map_eq_ok answered
      have rests := sound.delete_rests inactive query.hash query.matcher memory taken
      obtain ⟨⟨_ | id, left⟩, after, final, events⟩ := deleted
      · exact rests
      · obtain ⟨before, rewires, leads⟩ := rests
        refine ⟨before, rewires, ?_⟩
        intro last touched
        obtain ⟨listed, leading⟩ := leads last touched
        exact ⟨(members last).1 listed, leading⟩
  | insert id =>
      intro unstarted
      obtain ⟨error | _, replied⟩ := performed.answers
      · rw [links.refused legal answered replied]
        exact .refl {id} store
      · obtain ⟨_ | side, steps, removes⟩ := performed.steps trivial (replied ▸ .done)
        · exact insert_rests steps inactive unstarted
        · exact (removes.1 rfl).elim
  | _ => trivial

end Links

/-- The calls of a reachable map touch nothing but the successors of linked payloads: every legal
call returns and keeps its frame. -/
theorem Reachable.frames [DecidableEq Id] {linked : Finset Id}
    (reachable : map.Reachable store linked) (call : Call Id Content Memory)
    (allocator : Allocator) (legal : call.Legal linked store) :
    ∃ outcome, call.perform allocator map store = .ok outcome ∧
      call.Frames map store linked outcome := by
  have links := reachable.links
  obtain ⟨outcome, answered, _⟩ := links.answer allocator legal
  have rewires := links.rewires answered
  refine ⟨outcome, answered, ?_⟩
  constructor
  · exact rewires.payloads
  · exact rewires.others
  · intro id left removes found
    exact links.removed answered removes found
  · intro reads
    exact Call.store_of_reads reads answered
  · intro error failed
    exact links.refused legal answered failed
  · exact links.rests legal answered

/-- A deletion without an episode writes the payload that it returns, and no other if none leads to
it. -/
theorem Reachable.frames_deletion :
    ∃ (map : Map Nat) (outcome : Outcome (Map Nat) (IndexedArena Char) (Reply Nat Char Unit)),
      map.Reachable IndexedArena.three {2, 1, 0} ∧ map.isRehashing = false ∧
      (Call.delete (.code 4 fun _ memory => (true, memory)) ()).perform .addressSpace map
        IndexedArena.three = .ok outcome ∧
      outcome.result = .found (some 1) () ∧ Arena.Rewires {1} IndexedArena.three outcome.store := by
  obtain ⟨outcome, answered, frames⟩ := Reachable.three.frames
    (.delete (.code 4 fun _ memory => (true, memory)) () : Call Nat Char Unit) .addressSpace trivial
  have found : outcome.result = .found (some 1) () :=
    congrArg Outcome.result (Except.ok.inj answered).symm
  have rests := frames.rests rfl
  unfold Call.Rests at rests
  rw [found] at rests
  obtain ⟨before, rewires, leads⟩ := rests
  have alone : before = none := by
    rcases before with _ | last
    · rfl
    · obtain ⟨member, leading⟩ := leads last rfl
      fin_cases member <;> exact nomatch leading
  subst alone
  exact ⟨_, outcome, .three, rfl, answered, found, rewires.mono (by simp)⟩

end Map

end IncrementalMap
