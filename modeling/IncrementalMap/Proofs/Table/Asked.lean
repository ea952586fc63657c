/-
This file lists the payloads with which a search asks its matcher.
-/

import IncrementalMap.Proofs.Table.Search

namespace IncrementalMap

namespace Matcher

variable {Id Content Memory : Type}

/-- A matcher is asked about the candidates in order, up to the first that it accepts. -/
def asked (matcher : Matcher Content Memory) : List (Id × Content) → Memory → List (Id × Content)
  | [], _ => []
  | candidate :: rest, memory =>
      candidate ::
        match matcher candidate.2 memory with
        | (true, _) => []
        | (false, memory) => asked matcher rest memory

/-- What the matcher is asked decides what it chooses and what it remembers. -/
theorem choose_asked (matcher : Matcher Content Memory) (list : List (Id × Content))
    (memory : Memory) : matcher.choose (matcher.asked list memory) memory =
      matcher.choose list memory := by
  induction list generalizing memory with
  | nil => rfl
  | cons candidate rest inductionHypothesis =>
      obtain ⟨id, content⟩ := candidate
      simp only [asked, choose]
      rcases matcher content memory with ⟨_ | _, left⟩
      · exact inductionHypothesis left
      · rfl

/-- The candidates of a second list are asked when the first list has nothing to accept. -/
theorem asked_append (matcher : Matcher Content Memory) (first second : List (Id × Content))
    (memory : Memory) : matcher.asked (first ++ second) memory =
      matcher.asked first memory ++
        match matcher.choose first memory with
        | (some _, _) => []
        | (none, left) => matcher.asked second left := by
  induction first generalizing memory with
  | nil => rfl
  | cons candidate rest inductionHypothesis =>
      obtain ⟨id, content⟩ := candidate
      simp only [List.cons_append, asked, choose]
      rcases matcher content memory with ⟨_ | _, left⟩
      · exact congrArg _ (inductionHypothesis left)
      · rfl

/-- The chosen candidate is among those that the matcher was asked about. -/
theorem mem_of_choose {matcher : Matcher Content Memory} {list : List (Id × Content)}
    {memory left : Memory} {id : Id} (chosen : matcher.choose list memory = (some id, left)) :
    ∃ content, (id, content) ∈ list := by
  induction list generalizing memory with
  | nil => exact nomatch chosen
  | cons candidate rest inductionHypothesis =>
      obtain ⟨other, content⟩ := candidate
      rw [choose] at chosen
      rcases answer : matcher content memory with ⟨_ | _, between⟩ <;> rw [answer] at chosen
      · obtain ⟨found, member⟩ := inductionHypothesis chosen
        exact ⟨found, List.mem_cons_of_mem _ member⟩
      · obtain ⟨rfl, -⟩ := by simpa using chosen
        exact ⟨content, List.mem_cons_self⟩

end Matcher

namespace Table

variable {Store Id Content Memory : Type} [Arena Store Id Content]

/-- A search asks the matcher about each payload with the hash code that it meets, until it accepts
one or the search ends. -/
def askedFrom (store : Store) (hash : UInt64) (matcher : Matcher Content Memory) :
    Nat → Option Id → Memory → List (Id × Content)
  | _, none, _ => []
  | 0, some _, _ => []
  | limit + 1, some id, memory =>
      match Arena.node? store id with
      | none => []
      | some node =>
          if node.link.hash = hash then
            (id, node.content) ::
              match matcher node.content memory with
              | (true, _) => []
              | (false, memory) => askedFrom store hash matcher limit node.link.next memory
          else
            askedFrom store hash matcher limit node.link.next memory

/-- A lookup asks about the payloads of the slot that the hash code selects. -/
def asked (table : Table Id) (store : Store) (hash : UInt64) (matcher : Matcher Content Memory)
    (memory : Memory) : List (Id × Content) :=
  askedFrom store hash matcher (searchLimit store) (table.head? (table.slotFor hash)) memory

/-- A matcher is only asked about payloads of the arena. -/
theorem present_of_askedFrom {store : Store} {hash : UInt64} {matcher : Matcher Content Memory}
    {limit : Nat} {head : Option Id} {memory : Memory} {candidate : Id × Content}
    (member : candidate ∈ askedFrom store hash matcher limit head memory) :
    (Arena.node? store candidate.1).isSome := by
  induction limit generalizing head memory with
  | zero => cases head <;> exact absurd member List.not_mem_nil
  | succ limit inductionHypothesis =>
      cases head with
      | none => exact absurd member List.not_mem_nil
      | some id =>
          rw [askedFrom] at member
          rcases found : Arena.node? store id with _ | node <;> rw [found] at member
          · exact absurd member List.not_mem_nil
          · dsimp only at member
            split at member
            · rcases List.mem_cons.1 member with rfl | later
              · rw [found, Option.isSome_some]
              · split at later
                · exact absurd later List.not_mem_nil
                · exact inductionHypothesis later
            · exact inductionHypothesis member

/-- Along a chain a matcher is asked about the candidates. -/
theorem askedFrom_eq {store : Store} {head : Option Id} {ids : List Id}
    (chain : Chain store head ids) {limit : Nat} (enough : ids.length ≤ limit) (hash : UInt64)
    (matcher : Matcher Content Memory) (memory : Memory) :
    askedFrom store hash matcher limit head memory =
      matcher.asked (Arena.candidates store hash ids) memory := by
  induction chain generalizing limit memory with
  | nil => cases limit <;> rfl
  | @cons id node rest found _ inductionHypothesis =>
      obtain ⟨limit, rfl⟩ := Nat.exists_eq_add_one.2 (Nat.zero_lt_of_lt enough)
      have later := inductionHypothesis (Nat.le_of_succ_le_succ enough)
      rw [Arena.candidates_cons found, askedFrom, found]
      dsimp only
      split
      · rw [Matcher.asked]
        rcases matcher node.content memory with ⟨_ | _, left⟩
        · exact congrArg _ (later left)
        · rfl
      · exact later memory

/-- A lookup in a sound table asks about the candidates of one slot. -/
theorem Sound.asked_eq [LawfulArena Store] {table : Table Id} {store : Store} {layout : Layout Id}
    (sound : table.Sound store layout) (hash : UInt64) (matcher : Matcher Content Memory)
    (memory : Memory) : table.asked store hash matcher memory =
      matcher.asked (Arena.candidates store hash (layout (table.slotFor hash))) memory :=
  askedFrom_eq (sound.chains _) (length_le_searchLimit (sound.chains _)) hash matcher memory

end Table

end IncrementalMap
