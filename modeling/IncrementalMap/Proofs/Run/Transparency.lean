/-
This file proves that two maps give the same answers however their tables grow.
-/

import IncrementalMap.Proofs.Run.Refinement

namespace IncrementalMap

namespace History

/-- This is the arena as the latest call has left it. -/
def store {Store Id Content Memory : Type} (arena : Store) : History Store Id Content Memory → Store
  | [] => arena
  | entry :: _ => entry.outcome.store

/-- An arena stays untouched when every call meets it as the call before has left it. -/
def Untouched {Store Id Content Memory : Type} (arena : Store) :
    History Store Id Content Memory → Prop
  | [] => True
  | entry :: earlier => entry.store = store arena earlier ∧ Untouched arena earlier

end History

/-- A query with a unique key fits at most one linked payload. -/
def Query.Unique {Store Id Content : Type} [Arena Store Id Content] (query : Query Id Content Unit)
    (linked : Finset Id) (store : Store) : Prop :=
  ∀ first ∈ linked, ∀ second ∈ linked, query.Fits store first → query.Fits store second →
    first = second

instance {Store Id Content : Type} [Arena Store Id Content] [DecidableEq Id]
    (query : Query Id Content Unit) (linked : Finset Id) (store : Store) :
    Decidable (query.Unique linked store) :=
  inferInstanceAs (Decidable (∀ first ∈ linked, ∀ second ∈ linked, _))

/-- A common entry is a successful insertion, a clear, or a search with a unique key. -/
def Entry.Common {Store Id Content : Type} [Arena Store Id Content]
    (entry : Entry Store Id Content Unit) (linked : Finset Id) : Prop :=
  match entry.call with
  | .insert _ => entry.outcome.result = .done (.ok ())
  | .lookup query _ | .delete query _ => query.Unique linked entry.store
  | .clear => True
  | _ => False

/-- An extra call is a further lookup or visit, or it only concerns the capacity. -/
def Call.Extra {Id Content Memory : Type} (call : Call Id Content Memory) : Prop :=
  match call with
  | .lookup .. | .visit | .reserve _ | .resize _ | .resizeAtOnce _ => True
  | _ => False

/-- Two histories are paired when they have the same common calls in the same order, and each of
them has any extra calls in between. -/
inductive History.Paired {Store Id Content : Type} [Arena Store Id Content] [DecidableEq Id] :
    History Store Id Content Unit → History Store Id Content Unit →
      List (Entry Store Id Content Unit × Entry Store Id Content Unit) → Prop where
  | start : Paired [] [] []
  | common {left right : History Store Id Content Unit}
      {pairs : List (Entry Store Id Content Unit × Entry Store Id Content Unit)}
      {first second : Entry Store Id Content Unit} (earlier : Paired left right pairs)
      (same : first.call = second.call) (firstCommon : first.Common left.linked)
      (secondCommon : second.Common right.linked) :
      Paired (first :: left) (second :: right) ((first, second) :: pairs)
  | extraLeft {left right : History Store Id Content Unit}
      {pairs : List (Entry Store Id Content Unit × Entry Store Id Content Unit)}
      {entry : Entry Store Id Content Unit} (earlier : Paired left right pairs)
      (extra : entry.call.Extra) : Paired (entry :: left) right pairs
  | extraRight {left right : History Store Id Content Unit}
      {pairs : List (Entry Store Id Content Unit × Entry Store Id Content Unit)}
      {entry : Entry Store Id Content Unit} (earlier : Paired left right pairs)
      (extra : entry.call.Extra) : Paired left (entry :: right) pairs

/-- Two maps agree when they have the same size and visit the same payloads. -/
structure Map.Agrees {Store Id Content : Type} [Arena Store Id Content] (first : Map Id)
    (firstStore : Store) (second : Map Id) (secondStore : Store) : Prop where
  size : first.size = second.size
  visits : ∃ firstItems secondItems, (Traversal.start first).toList firstStore = .ok firstItems ∧
    (Traversal.start second).toList secondStore = .ok secondItems ∧
    (firstItems.map Prod.fst).Perm (secondItems.map Prod.fst)

/-- Two entries agree when they give the same reply and leave maps that agree. -/
structure Entry.Agrees {Store Id Content : Type} [Arena Store Id Content]
    (first second : Entry Store Id Content Unit) : Prop where
  replies : first.outcome.result = second.outcome.result
  maps : first.outcome.state.Agrees first.outcome.store second.outcome.state second.outcome.store

/-- Maps that link the same payloads agree. -/
theorem Map.Links.agrees {Store Id Content : Type} [Arena Store Id Content] [DecidableEq Id]
    {first second : Map Id} {firstStore secondStore : Store} {linked : Finset Id}
    (left : first.Links firstStore linked) (right : second.Links secondStore linked) :
    first.Agrees firstStore second secondStore := by
  obtain ⟨items, visited, visits⟩ := left.visit
  obtain ⟨others, visitedOthers, visitsOthers⟩ := right.visit
  have same : (items.map Prod.fst).Perm (others.map Prod.fst) := by
    apply List.perm_of_nodup_nodup_toFinset_eq visits.once visitsOthers.once
    rw [visits.all, visitsOthers.all]
  exact ⟨left.size_eq.trans right.size_eq.symm, items, others, visited, visitedOthers, same⟩

/-- An extra call changes no linked payload. -/
theorem Call.Extra.relink {Id Content Memory : Type} [DecidableEq Id]
    {call : Call Id Content Memory} (extra : call.Extra) (reply : Reply Id Content Memory)
    (linked : Finset Id) : call.relink reply linked = linked := by
  cases call with
  | insert id => exact extra.elim
  | delete query memory => exact extra.elim
  | clear => exact extra.elim
  | lookup query memory => rfl
  | visit => rfl
  | reserve requested => rfl
  | resize target => rfl
  | resizeAtOnce target => rfl

namespace Query

/-- Fitting depends on the payloads only. -/
theorem Fits.congr {Store Id Content : Type} [Arena Store Id Content]
    {query : Query Id Content Unit} {before after : Store}
    (same : Arena.SamePayloads before after) {id : Id} (fits : query.Fits before id) :
    query.Fits after id := by
  obtain ⟨node, found, code, accepted⟩ := fits
  obtain ⟨moved, present, hash, content⟩ := same.node found
  exact ⟨moved, present, hash.trans code, content ▸ accepted⟩

/-- A unique key leaves no choice. -/
theorem Unique.selects_eq {Store Id Content : Type} [Arena Store Id Content]
    {query : Query Id Content Unit} {linked : Finset Id} {firstStore secondStore : Store}
    (unique : query.Unique linked firstStore) (same : Arena.SamePayloads firstStore secondStore)
    {first second : Option Id} (left : query.Selects linked firstStore first)
    (right : query.Selects linked secondStore second) : first = second := by
  cases first with
  | none =>
      cases second with
      | none => rfl
      | some other => exact absurd (right.2.congr same.symm) (left other right.1)
  | some id =>
      cases second with
      | none => exact absurd (left.2.congr same) (right id left.1)
      | some other =>
          exact congrArg some (unique id left.1 other right.1 left.2 (right.2.congr same.symm))

end Query

/-- The same common call gives the same reply when the same payloads are linked. -/
theorem Entry.Common.replies_eq {Store Id Content : Type} [Arena Store Id Content] [DecidableEq Id]
    {first second : Entry Store Id Content Unit} {linked : Finset Id}
    (same : first.call = second.call) (firstCommon : first.Common linked)
    (secondCommon : second.Common linked)
    (left : first.call.Answers linked first.store first.outcome.result)
    (right : second.call.Answers linked second.store second.outcome.result)
    (payloads : Arena.SamePayloads first.store second.store) :
    first.outcome.result = second.outcome.result := by
  unfold Entry.Common at firstCommon secondCommon
  rw [← same] at secondCommon right
  cases called : first.call with
  | insert id =>
      rw [called] at firstCommon secondCommon
      exact firstCommon.trans secondCommon.symm
  | lookup query memory =>
      rw [called] at firstCommon left right
      obtain ⟨found, reply, selects⟩ := Call.Chooses.selects left
      obtain ⟨other, otherReply, otherSelects⟩ := Call.Chooses.selects right
      rw [reply, otherReply, firstCommon.selects_eq payloads selects otherSelects]
  | delete query memory =>
      rw [called] at firstCommon left right
      obtain ⟨found, reply, selects⟩ := Call.Chooses.selects left
      obtain ⟨other, otherReply, otherSelects⟩ := Call.Chooses.selects right
      rw [reply, otherReply, firstCommon.selects_eq payloads selects otherSelects]
  | clear =>
      rw [called] at left right
      exact Eq.trans left (Eq.symm right)
  | resize target => simp [called] at firstCommon
  | resizeAtOnce target => simp [called] at firstCommon
  | reserve requested => simp [called] at firstCommon
  | visit => simp [called] at firstCommon

/-- This arena has two payloads with the same hash code and one with another. -/
def IndexedArena.twins : IndexedArena Char :=
  #[⟨.detached 3, 'a'⟩, ⟨.detached 3, 'b'⟩, ⟨.detached 4, 'c'⟩]

namespace Run

/-- An untouched arena keeps its payloads through a run. -/
theorem payloads {Store Id Content Memory : Type} [Arena Store Id Content] [LawfulArena Store]
    [DecidableEq Id] {origin map : Map Id} {arena store : Store}
    {history : History Store Id Content Memory} (run : Run origin arena history map store)
    (untouched : History.Untouched arena history) :
    History.store arena history = store ∧ Arena.SamePayloads arena store := by
  induction run with
  | start built small => exact ⟨rfl, .refl arena⟩
  | call call allocator earlier careful small legal answered inductionHypothesis =>
      obtain ⟨left, same⟩ := inductionHypothesis untouched.2
      have met : Arena.SamePayloads arena _ := untouched.1.trans left ▸ same
      have performed := (earlier.call call allocator careful small legal answered).performed
      exact ⟨rfl, met.trans performed.payloads⟩

/-- The latest call of a run meets the payloads of an untouched arena. -/
theorem payloads_met {Store Id Content Memory : Type} [Arena Store Id Content] [LawfulArena Store]
    [DecidableEq Id] {origin map : Map Id} {arena store : Store}
    {entry : Entry Store Id Content Memory} {earlier : History Store Id Content Memory}
    (run : Run origin arena (entry :: earlier) map store)
    (untouched : History.Untouched arena (entry :: earlier)) :
    Arena.SamePayloads arena entry.store := by
  cases run with
  | call call allocator before careful small legal answered =>
      obtain ⟨left, same⟩ := before.payloads untouched.2
      exact untouched.1.trans left ▸ same

/-- Paired runs on the same arena link the same payloads, and their common calls agree. -/
theorem agree_of_paired {Store Id Content : Type} [Arena Store Id Content] [LawfulArena Store]
    [DecidableEq Id] {firstOrigin secondOrigin firstMap secondMap : Map Id}
    {arena firstStore secondStore : Store} {left right : History Store Id Content Unit}
    {pairs : List (Entry Store Id Content Unit × Entry Store Id Content Unit)}
    (paired : History.Paired left right pairs)
    (first : Run firstOrigin arena left firstMap firstStore)
    (firstUntouched : History.Untouched arena left)
    (second : Run secondOrigin arena right secondMap secondStore)
    (secondUntouched : History.Untouched arena right) :
    History.linked left = History.linked right ∧ ∀ pair ∈ pairs, pair.1.Agrees pair.2 := by
  -- An extra call goes back on one side only, so the maps of the two sides vary on their own.
  induction paired generalizing firstMap secondMap firstStore secondStore with
  | start => exact ⟨rfl, by simp⟩
  | @common left right pairs entry other earlier same entryCommon otherCommon
      inductionHypothesis =>
      obtain ⟨_, _, firstEarlier⟩ := first.earlier
      obtain ⟨_, _, secondEarlier⟩ := second.earlier
      obtain ⟨linked, agree⟩ := inductionHypothesis firstEarlier firstUntouched.2 secondEarlier
        secondUntouched.2
      have performed := first.performed
      have otherPerformed := second.performed
      rw [← linked] at otherPerformed otherCommon
      have met := (first.payloads_met firstUntouched).symm.trans
        (second.payloads_met secondUntouched)
      have replies := Entry.Common.replies_eq same entryCommon otherCommon performed.answers
        otherPerformed.answers met
      have relinked : other.call.relink other.outcome.result left.linked =
          entry.call.relink entry.outcome.result left.linked := by rw [same, replies]
      constructor
      · rw [History.linked, History.linked, ← linked, relinked]
      · intro pair member
        rcases List.mem_cons.1 member with rfl | member
        · exact ⟨replies, performed.links.agrees (relinked ▸ otherPerformed.links)⟩
        · exact agree pair member
  | extraLeft earlier extra inductionHypothesis =>
      obtain ⟨_, _, firstEarlier⟩ := first.earlier
      obtain ⟨linked, agree⟩ := inductionHypothesis firstEarlier firstUntouched.2 second
        secondUntouched
      exact ⟨(extra.relink _ _).trans linked, agree⟩
  | extraRight earlier extra inductionHypothesis =>
      obtain ⟨_, _, secondEarlier⟩ := second.earlier
      obtain ⟨linked, agree⟩ := inductionHypothesis first firstUntouched secondEarlier
        secondUntouched.2
      exact ⟨linked.trans (extra.relink _ _).symm, agree⟩

/-- Two maps with any settings and capacities, on the same arena, give the same replies to their
common calls, and agree after each of them and at the end. -/
theorem transparent {Store Id Content : Type} [Arena Store Id Content] [LawfulArena Store]
    [DecidableEq Id] {firstOrigin secondOrigin firstMap secondMap : Map Id}
    {arena firstStore secondStore : Store} {left right : History Store Id Content Unit}
    {pairs : List (Entry Store Id Content Unit × Entry Store Id Content Unit)}
    (first : Run firstOrigin arena left firstMap firstStore)
    (firstUntouched : History.Untouched arena left)
    (second : Run secondOrigin arena right secondMap secondStore)
    (secondUntouched : History.Untouched arena right)
    (paired : History.Paired left right pairs) :
    (∀ pair ∈ pairs, pair.1.Agrees pair.2) ∧
      firstMap.Agrees firstStore secondMap secondStore := by
  obtain ⟨linked, agree⟩ := agree_of_paired paired first firstUntouched second secondUntouched
  exact ⟨agree, first.links.1.agrees (linked ▸ second.links.1)⟩

/-- Both maps delete one of two payloads with the same hash code. The resize of one of them is still
under way then, and stays unnoticed. -/
theorem transparent_resize :
    ∃ (left right : History (IndexedArena Char) Nat Char Unit) (firstMap secondMap : Map Nat)
      (firstStore secondStore : IndexedArena Char)
      (pairs : List (Entry (IndexedArena Char) Nat Char Unit ×
        Entry (IndexedArena Char) Nat Char Unit)),
      Run (Map.empty ⟨4, 8, 1⟩) IndexedArena.twins left firstMap firstStore ∧
        Run (Map.empty ⟨2, 1, 128⟩) IndexedArena.twins right secondMap secondStore ∧
        left.length = 6 ∧ right.length = 5 ∧
        pairs.map (fun pair => pair.1.before.isRehashing) = [false, true, false, false, false] ∧
        pairs.map (fun pair => pair.1.outcome.result) =
          [.found (some 1) (), .found (some 0) (), .done (.ok ()), .done (.ok ()), .done (.ok ())] ∧
        (∀ pair ∈ pairs, pair.1.Agrees pair.2) ∧
        firstMap.Agrees firstStore secondMap secondStore := by
  let search (accepted : Char) : Query Nat Char Unit := .code 3 (.ofPredicate (· == accepted))
  have start (config : Config) (built : Map.ofConfig config = .ok (Map.empty config)) :
      Run (Map.empty config) IndexedArena.twins ([] : History _ Nat Char Unit) _ _ :=
    .start (.ofConfig config built) (Arena.fewerThan_of_size (by decide))
  have first := (start ⟨4, 8, 1⟩ rfl).next (.insert 0) .addressSpace ⟨rfl, by decide⟩ rfl
  have second := first.next (.insert 1) .addressSpace ⟨rfl, by decide⟩ rfl
  have third := second.next (.insert 2) .addressSpace ⟨rfl, by decide⟩ rfl
  have resized : Run _ IndexedArena.twins _
      ⟨⟨⟨#[none, none, none, none, some 2, none, none, none], 7, 1⟩,
        ⟨#[none, none, none, some 1], 3, 2⟩, 0⟩, ⟨4, 8, 1⟩⟩
      #[⟨⟨3, none⟩, 'a'⟩, ⟨⟨3, some 0⟩, 'b'⟩, ⟨⟨4, none⟩, 'c'⟩] :=
    third.next (.resize 8) .addressSpace trivial rfl
  have deleted := resized.next (.delete (search 'a') ()) .addressSpace trivial rfl
  have found := deleted.next (.lookup (search 'b') ()) .addressSpace trivial rfl
  have one := (start ⟨2, 1, 128⟩ rfl).next (.insert 0) .addressSpace ⟨rfl, by decide⟩ rfl
  have two : Run _ IndexedArena.twins _ ⟨.idle ⟨#[none, none, none, some 0], 3, 2⟩, ⟨2, 1, 128⟩⟩
      #[⟨⟨3, some 1⟩, 'a'⟩, ⟨⟨3, none⟩, 'b'⟩, ⟨⟨4, none⟩, 'c'⟩] :=
    one.next (.insert 1) .addressSpace ⟨rfl, by decide⟩ rfl
  have three := two.next (.insert 2) .addressSpace ⟨rfl, by decide⟩ rfl
  have gone := three.next (.delete (search 'a') ()) .addressSpace trivial rfl
  have left := gone.next (.lookup (search 'b') ()) .addressSpace trivial rfl
  refine ⟨_, _, _, _, _, _, _, found, left, rfl, rfl, rfl, rfl,
    found.transparent ⟨rfl, rfl, rfl, rfl, rfl, rfl, trivial⟩ left
      ⟨rfl, rfl, rfl, rfl, rfl, trivial⟩
      (.common (.common (.extraLeft (.common (.common (.common .start rfl rfl rfl) rfl rfl rfl)
        rfl rfl rfl) trivial) rfl ?_ ?_) rfl ?_ ?_)⟩
  -- Two payloads have the hash code of the searches, and each search accepts one of them.
  all_goals
    change Query.Unique _ _ _
    decide

end Run

end IncrementalMap
