/-
This file proves which payloads a lookup or a deletion asks its matcher about, and in which order.
-/

import IncrementalMap.Proofs.Run.Reachable
import IncrementalMap.Proofs.Run.Recording

namespace IncrementalMap

namespace Matcher

variable {Id Content Memory : Type} {matcher : Matcher Content Memory}

/-- A matcher rejects candidates one after the other, each with the memory that the one before
left. -/
inductive Rejects (matcher : Matcher Content Memory) :
    List (Id × Content) → Memory → Memory → Prop where
  | nil (memory : Memory) : Rejects matcher [] memory memory
  | cons {id : Id} {content : Content} {rest : List (Id × Content)} {memory between left : Memory}
      (rejected : matcher content memory = (false, between))
      (others : Rejects matcher rest between left) :
      Rejects matcher ((id, content) :: rest) memory left

/-- An inquiry asks about candidates from the front until the matcher accepts one, which it gives,
or has rejected them all. -/
inductive Inquires (matcher : Matcher Content Memory) (memory : Memory) :
    List (Id × Content) → List (Id × Content) → Option Id → Memory → Prop where
  | exhausted {candidates : List (Id × Content)} {left : Memory}
      (rejected : matcher.Rejects candidates memory left) :
      Inquires matcher memory candidates candidates none left
  | accepted {front rest : List (Id × Content)} {id : Id} {content : Content}
      {between left : Memory} (rejected : matcher.Rejects front memory between)
      (accepted : matcher content between = (true, left)) :
      Inquires matcher memory (front ++ (id, content) :: rest) (front ++ [(id, content)]) (some id)
        left

/-- An inquiry goes on behind a candidate that the matcher rejects. -/
theorem Inquires.reject {memory between left : Memory} {candidates questions : List (Id × Content)}
    {chosen : Option Id} {id : Id} {content : Content}
    (rejected : matcher content memory = (false, between))
    (others : matcher.Inquires between candidates questions chosen left) :
    matcher.Inquires memory ((id, content) :: candidates) ((id, content) :: questions) chosen
      left := by
  cases others with
  | exhausted all => exact .exhausted (.cons rejected all)
  | accepted front accepted => exact .accepted (.cons rejected front) accepted

/-- The listed questions are those of an inquiry, and so are the choice and the memory. -/
theorem inquires_asked (matcher : Matcher Content Memory) (candidates : List (Id × Content))
    (memory : Memory) :
    matcher.Inquires memory candidates (matcher.asked candidates memory)
      (matcher.choose candidates memory).1 (matcher.choose candidates memory).2 := by
  induction candidates generalizing memory with
  | nil => exact .exhausted (.nil memory)
  | cons candidate rest inductionHypothesis =>
      obtain ⟨id, content⟩ := candidate
      rcases answer : matcher content memory with ⟨_ | _, between⟩
      · simp only [asked, choose, answer]
        exact (inductionHypothesis between).reject answer
      · simp only [asked, choose, answer]
        exact .accepted (.nil memory) answer

end Matcher

namespace Rehash

variable {Store Id Content : Type} [Arena Store Id Content]

/-- A rehash meets the payloads with the hash code in the chains of its slots, in chain order and
those of the newer table first. An unallocated older table has none. -/
def Meets (rehash : Rehash Id) (store : Store) (hash : UInt64)
    (candidates : List (Id × Content)) : Prop :=
  ∃ newest oldest, Chain store (rehash.newer.head? (rehash.newer.slotFor hash)) newest ∧
    Chain store (rehash.older.head? (rehash.older.slotFor hash)) oldest ∧
    candidates = Arena.candidates store hash (newest ++ oldest)

variable {rehash : Rehash Id} {store : Store} {newer older : Layout Id}

/-- A sound rehash meets the payloads of its reach. -/
theorem Sound.meets (sound : rehash.Sound store newer older) (hash : UInt64) :
    rehash.Meets store hash (rehash.reach store newer older hash) :=
  ⟨_, _, sound.pair.soundDestination.chains _, sound.pair.soundSource.chains _, rfl⟩

/-- No payload is met twice. -/
theorem Sound.nodup_reach (sound : rehash.Sound store newer older) (hash : UInt64) :
    ((rehash.reach store newer older hash).map Prod.fst).Nodup := by
  have newest := sound.pair.soundDestination
  have oldest := sound.pair.soundSource
  have apart : List.Disjoint (newer (rehash.newer.slotFor hash))
      (older (rehash.older.slotFor hash)) := fun id left right =>
    sound.pair.apart id (oldest.mem_ids_of_mem right) (newest.mem_ids_of_mem left)
  have distinct := (newest.chains _).nodup.append (oldest.chains _).nodup apart
  exact distinct.sublist (Arena.fst_candidates_sublist store hash _)

end Rehash

namespace Map

variable {Store Id Content Memory : Type} [Arena Store Id Content] {map : Map Id} {store : Store}

/-- A map inquires about the candidates that it meets after its step. They are all the linked
payloads with the hash code, each of them once. A lookup and a deletion both put the same questions
to the matcher and reply what the inquiry gives. -/
structure Inquires (map : Map Id) (store : Store) (linked : Set Id) (hash : UInt64)
    (matcher : Matcher Content Memory) (memory : Memory)
    (candidates questions : List (Id × Content)) (chosen : Option Id) (left : Memory) : Prop where
  meets : ∃ stepped, map.advance store = .ok stepped ∧
    stepped.state.rehash.Meets stepped.store hash candidates
  distinct : (candidates.map Prod.fst).Nodup
  offers : Arena.Offers store linked hash candidates
  inquires : matcher.Inquires memory candidates questions chosen left
  looked : Puts (map.lookup store hash) matcher memory questions (chosen, left)
  deleted : Puts (map.delete store hash) matcher memory questions (chosen, left)

/-- A deletion that has stepped replies what it chooses. -/
theorem delete_result_of_stepped [LawfulArena Store] {newer older drained : Layout Id}
    {stepped : Outcome (Rehash Id) Store Nat}
    (step : map.rehash.Stepped store newer older map.config.migrationWork stepped drained)
    (advanced : map.advance store =
      .ok ⟨stepped.result, ⟨stepped.state, map.config⟩, stepped.store, stepped.events⟩)
    (hash : UInt64) (matcher : Matcher Content Memory) (memory : Memory) :
    ∃ outcome, map.delete store hash matcher memory = .ok outcome ∧ outcome.result =
      matcher.choose (map.offered store newer older stepped drained hash) memory := by
  have deleted := delete_of_stepped step advanced hash matcher memory
  rcases chosen : matcher.choose (map.offered store newer older stepped drained hash) memory with
    ⟨_ | id, left⟩ <;> rw [chosen] at deleted
  · exact ⟨_, deleted, rfl⟩
  · obtain ⟨_, _, _, _, _, deleted⟩ := deleted
    exact ⟨_, deleted, rfl⟩

/-- Lookups and deletions in a reachable map inquire about the linked payloads with the hash code,
in the order in which they meet them. -/
theorem Reachable.inquires_in_order [LawfulArena Store] [DecidableEq Id] {linked : Finset Id}
    (reachable : map.Reachable store linked) (hash : UInt64) (matcher : Matcher Content Memory)
    (memory : Memory) :
    ∃ candidates questions chosen left,
      map.Inquires store linked hash matcher memory candidates questions chosen left := by
  obtain ⟨listed, ⟨newer, older, sound, same⟩, rfl⟩ := reachable.links
  obtain ⟨stepped, drained, step, advanced⟩ := map.advance_stepped sound.tables
  have asked := asked_of_stepped step advanced hash matcher memory
  have looked := puts_of_lookup (lookup_of_stepped step advanced hash matcher memory)
  obtain ⟨outcome, answered, replied⟩ :=
    delete_result_of_stepped step advanced hash matcher memory
  have deleted := puts_of_delete answered
  have offers := Holds.offers step.sound ((step.ids sound.tables).trans same)
    step.rewires.payloads hash
  rw [asked] at looked deleted
  rw [replied] at deleted
  refine ⟨_, _, _, _, ⟨_, advanced, step.sound.meets hash⟩, step.sound.nodup_reach hash, ?_,
    matcher.inquires_asked _ memory, looked, deleted⟩
  simpa using offers

/-- Three payloads have the same hash code, and a resize has moved the last one so far. -/
theorem Reachable.triplets_resized :
    Reachable ⟨⟨⟨#[none, none, none, none, some 2, none, none, none], 7, 1⟩,
        ⟨#[some 1, none, none, none], 3, 2⟩, 0⟩, ⟨4, 8, 1⟩⟩
      (#[⟨⟨4, none⟩, 'a'⟩, ⟨⟨4, some 0⟩, 'b'⟩, ⟨⟨4, none⟩, 'c'⟩] : IndexedArena Char)
      {2, 1, 0} := by
  have start : Reachable _ (#[⟨.detached 4, 'a'⟩, ⟨.detached 4, 'b'⟩, ⟨.detached 4, 'c'⟩] :
      IndexedArena Char) ∅ := .built (.ofConfig ⟨4, 8, 1⟩ rfl) _
  have first := start.called (.insert 0 : Call Nat Char Unit) .addressSpace ⟨rfl, by decide⟩ rfl
  have second := first.called (.insert 1 : Call Nat Char Unit) .addressSpace ⟨rfl, by decide⟩ rfl
  have third : Reachable ⟨.idle ⟨#[some 2, none, none, none], 3, 3⟩, ⟨4, 8, 1⟩⟩
      (#[⟨⟨4, none⟩, 'a'⟩, ⟨⟨4, some 0⟩, 'b'⟩, ⟨⟨4, some 1⟩, 'c'⟩] : IndexedArena Char) _ :=
    second.called (.insert 2 : Call Nat Char Unit) .addressSpace ⟨rfl, by decide⟩ rfl
  exact third.called (.resize 8 : Call Nat Char Unit) .addressSpace trivial rfl

/-- A matcher that accepts its third question gets the payload that the step has just moved first,
then the one before it, and then the one that is still in the older table. -/
theorem Reachable.inquires_in_order_triplets :
    ∃ (map : Map Nat) (store : IndexedArena Char) (matcher : Matcher Char Nat)
      (candidates questions : List (Nat × Char)) (chosen : Option Nat) (left : Nat),
      map.Reachable store {2, 1, 0} ∧
        map.Inquires store ↑({2, 1, 0} : Finset Nat) 4 matcher 0 candidates questions chosen left ∧
        questions.map Prod.snd = ['b', 'c', 'a'] ∧ chosen = some 0 ∧ left = 3 := by
  obtain ⟨candidates, questions, chosen, left, inquires⟩ :=
    Reachable.triplets_resized.inquires_in_order 4 (fun _ count => (count == 2, count + 1)) 0
  obtain ⟨outcome, answered, replied, recorded⟩ := inquires.looked
  have reply : (some 0, 3) = outcome.result := congrArg Outcome.result (Except.ok.inj answered)
  have record : ['b', 'c', 'a'] = [] ++ questions.map Prod.snd :=
    congrArg (fun outcome => outcome.result.2.2) (Except.ok.inj (recorded []))
  obtain ⟨rfl, rfl⟩ := Prod.mk.inj (reply.trans replied)
  exact ⟨_, _, _, candidates, questions, _, _, .triplets_resized, inquires, record.symm, rfl, rfl⟩

end Map

end IncrementalMap
