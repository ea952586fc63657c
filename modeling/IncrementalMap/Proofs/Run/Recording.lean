/-
This file proves that a search asks its matcher the listed questions and no others.
-/

import IncrementalMap.Proofs.Run.Call

namespace IncrementalMap

namespace Matcher

variable {Id Content Memory : Type}

/-- A recording matcher answers as the matcher does and writes down every question. -/
def recording (matcher : Matcher Content Memory) : Matcher Content (Memory × List Content) :=
  fun content (memory, record) =>
    let (accepted, left) := matcher content memory
    (accepted, left, record ++ [content])

/-- The record has grown by the questions. -/
def noted {Answer : Type} (record : List Content) (questions : List (Id × Content)) :
    Answer × Memory → Answer × Memory × List Content :=
  fun (answer, left) => (answer, left, record ++ questions.map Prod.snd)

/-- No questions leave the record as it is. -/
theorem noted_nil {Answer : Type} (record : List Content) (answer : Answer × Memory) :
    noted record ([] : List (Id × Content)) answer = (answer.1, answer.2, record) := by
  simp [noted]

/-- Questions may be written down in two parts. -/
theorem noted_append {Answer : Type} (record : List Content) (first second : List (Id × Content))
    (answer : Answer × Memory) :
    noted record (first ++ second) answer =
      noted (record ++ first.map Prod.snd) second answer := by
  simp [noted]

end Matcher

variable {Store Id Content Memory : Type} [Arena Store Id Content]

namespace Table

/-- A recorded search is the search with its questions written down. -/
theorem search_recording (store : Store) (hash : UInt64) (matcher : Matcher Content Memory)
    (limit : Nat) (position : Position Id) (head : Option Id) (memory : Memory)
    (record : List Content) :
    search store hash matcher.recording limit position head (memory, record) =
      (search store hash matcher limit position head memory).map
        (Matcher.noted record (askedFrom store hash matcher limit head memory)) := by
  induction limit generalizing position head memory record with
  | zero =>
      cases head with
      | none =>
          rw [search, search, askedFrom]
          exact congrArg Except.ok (Matcher.noted_nil record (none, memory)).symm
      | some id => rfl
  | succ limit inductionHypothesis =>
      cases head with
      | none =>
          rw [search, search, askedFrom]
          exact congrArg Except.ok (Matcher.noted_nil record (none, memory)).symm
      | some id =>
          rw [search, search, askedFrom]
          rcases found : Arena.node? store id with _ | node
          · rw [Arena.fetch_of_node?_eq_none found]
            rfl
          · rw [Arena.fetch_of_node? found, ok_bind, ok_bind]
            by_cases code : node.link.hash = hash
            · simp only [if_pos code, Matcher.recording]
              rcases matcher node.content memory with ⟨_ | _, left⟩
              · -- This question is in the record already when the search goes on.
                simp only [Bool.false_eq_true, if_false, inductionHypothesis]
                exact congrArg (Except.map · _) (funext fun answer =>
                  (Matcher.noted_append record [(id, node.content)] _ answer).symm)
              · rfl
            · simp only [if_neg code, Bool.false_eq_true, if_false, inductionHypothesis]

/-- A recorded lookup is the lookup with its questions written down. -/
theorem lookup_recording (table : Table Id) (store : Store) (hash : UInt64)
    (matcher : Matcher Content Memory) (memory : Memory) (record : List Content) :
    table.lookup store hash matcher.recording (memory, record) =
      (table.lookup store hash matcher memory).map
        (Matcher.noted record (table.asked store hash matcher memory)) :=
  search_recording store hash matcher _ _ _ memory record

end Table

namespace Rehash

/-- A recorded search through both tables is the search with its questions written down. -/
theorem find_recording (rehash : Rehash Id) (store : Store) (hash : UInt64)
    (matcher : Matcher Content Memory) (memory : Memory) (record : List Content) :
    rehash.find store hash matcher.recording (memory, record) =
      (rehash.find store hash matcher memory).map
        (Matcher.noted record (rehash.asked store hash matcher memory)) := by
  rw [find, find, asked, Table.lookup_recording]
  rcases rehash.newer.lookup store hash matcher memory with fault | ⟨_ | position, left⟩
  · rfl
  · rw [Except.map, ok_bind, ok_bind]
    dsimp only [Matcher.noted]
    rw [Table.lookup_recording]
    rcases rehash.older.lookup store hash matcher left with fault | ⟨place, last⟩
    · rfl
    · exact congrArg Except.ok (Matcher.noted_append record _ _ (place.map _, last)).symm
  · rw [Except.map, ok_bind, ok_bind, List.append_nil]
    rfl

end Rehash

namespace Map

/-- A call puts questions to its matcher and gives the reply when it does so for the matcher alone,
and when the matcher that writes down every question gets the same outcome, with these questions as
its record. -/
def Puts (call : ∀ {Memory : Type}, Matcher Content Memory → Memory →
      Except (Fault Id) (Outcome (Map Id) Store (Option Id × Memory)))
    (matcher : Matcher Content Memory) (memory : Memory) (questions : List (Id × Content))
    (reply : Option Id × Memory) : Prop :=
  ∃ outcome, call matcher memory = .ok outcome ∧ outcome.result = reply ∧
    ∀ record, call matcher.recording (memory, record) =
      .ok (outcome.withReply (Matcher.noted record questions))

/-- A recorded lookup in a map is the lookup with its questions written down. -/
theorem lookup_recording (map : Map Id) (store : Store) (hash : UInt64)
    (matcher : Matcher Content Memory) (memory : Memory) (record : List Content) :
    map.lookup store hash matcher.recording (memory, record) =
      (map.lookup store hash matcher memory).map
        (.withReply (Matcher.noted record (map.asked store hash matcher memory))) := by
  rw [lookup, lookup, asked]
  rcases map.advance store with fault | ⟨moved, after, linked, events⟩
  · rfl
  · rw [ok_bind, ok_bind]
    dsimp only
    rw [Rehash.find_recording]
    rcases after.rehash.find linked hash matcher memory with
      fault | ⟨_ | ⟨side, position⟩, left⟩
    · rfl
    · rfl
    · rw [Except.map, ok_bind, ok_bind]
      dsimp only [Matcher.noted]
      rcases (after.rehash.table side).target linked position with fault | id
      · rfl
      · rfl

/-- A recorded deletion is the deletion with its questions written down. -/
theorem delete_recording (map : Map Id) (store : Store) (hash : UInt64)
    (matcher : Matcher Content Memory) (memory : Memory) (record : List Content) :
    map.delete store hash matcher.recording (memory, record) =
      (map.delete store hash matcher memory).map
        (.withReply (Matcher.noted record (map.asked store hash matcher memory))) := by
  rw [delete, delete, asked]
  rcases map.advance store with fault | ⟨moved, ⟨rehash, config⟩, linked, events⟩
  · rfl
  · rw [ok_bind, ok_bind]
    dsimp only
    rw [Rehash.find_recording]
    rcases rehash.find linked hash matcher memory with
      fault | ⟨_ | ⟨_ | _, position⟩, left⟩
    · rfl
    · rfl
    · rw [Except.map, ok_bind, ok_bind]
      dsimp only [Matcher.noted]
      rcases rehash.detach linked .newer position with fault | ⟨id, cut, unlinked⟩
      · rfl
      · rfl
    · rw [Except.map, ok_bind, ok_bind]
      dsimp only [Matcher.noted]
      rcases rehash.detach linked .older position with fault | ⟨id, cut, unlinked⟩
      · rfl
      · rfl

/-- A lookup puts the listed questions to its matcher. -/
theorem puts_of_lookup {map : Map Id} {store : Store} {hash : UInt64}
    {matcher : Matcher Content Memory} {memory : Memory}
    {outcome : Outcome (Map Id) Store (Option Id × Memory)}
    (answered : map.lookup store hash matcher memory = .ok outcome) :
    Puts (map.lookup store hash) matcher memory (map.asked store hash matcher memory)
      outcome.result := by
  refine ⟨outcome, answered, rfl, fun record => ?_⟩
  have recorded := map.lookup_recording store hash matcher memory record
  rwa [answered] at recorded

/-- A deletion puts the same questions to its matcher as a lookup. -/
theorem puts_of_delete {map : Map Id} {store : Store} {hash : UInt64}
    {matcher : Matcher Content Memory} {memory : Memory}
    {outcome : Outcome (Map Id) Store (Option Id × Memory)}
    (answered : map.delete store hash matcher memory = .ok outcome) :
    Puts (map.delete store hash) matcher memory (map.asked store hash matcher memory)
      outcome.result := by
  refine ⟨outcome, answered, rfl, fun record => ?_⟩
  have recorded := map.delete_recording store hash matcher memory record
  rwa [answered] at recorded

end Map

end IncrementalMap
