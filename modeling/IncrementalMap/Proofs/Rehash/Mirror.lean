/-
This file proves that an episode takes the same course in two stores that mirror each other.
-/

import IncrementalMap.Proofs.Rehash.Find
import IncrementalMap.Proofs.Table.Mirror

namespace IncrementalMap

/-- Two outcomes mirror each other when they differ in their stores only, and these stores mirror
each other. -/
inductive Outcome.Mirrors {Store Id Content State Result : Type} [Arena Store Id Content]
    (kept lost : Set Id) (origin : Store) (confined : State → Prop) :
    Outcome State Store Result → Outcome State Store Result → Prop where
  | intro {result : Result} {state : State} {first second : Store} {events : List Event}
      (inside : confined state) (stores : Arena.Mirrors kept lost origin first second) :
      Mirrors kept lost origin confined ⟨result, state, first, events⟩
        ⟨result, state, second, events⟩

/-- Beside an answer, a mirrored one differs in its store only, or it fails at a payload that was
lost. -/
theorem Corresponds.answer {Store Id Content State Result : Type} [Arena Store Id Content]
    {kept lost gone : Set Id} {origin : Store} {confined : State → Prop}
    {left right : Except (Fault Id) (Outcome State Store Result)} {outcome : Outcome State Store Result}
    (mirrored : Corresponds gone (Outcome.Mirrors kept lost origin confined) left right)
    (answered : left = .ok outcome) :
    (∃ final, right = .ok ⟨outcome.result, outcome.state, final, outcome.events⟩ ∧
      Arena.Mirrors kept lost origin outcome.store final) ∨
      ∃ id ∈ gone, right = .error (.missing id) := by
  cases mirrored with
  | failure failure => exact nomatch answered
  | value holds =>
      obtain rfl := Except.ok.inj answered
      obtain ⟨_, stores⟩ := holds
      exact .inl ⟨_, rfl, stores⟩
  | missing absent => exact .inr ⟨_, absent, rfl⟩

namespace Rehash

/-- A rehash is within a set of payloads when both of its tables are. -/
structure Within {Id : Type} (kept : Set Id) (rehash : Rehash Id) : Prop where
  newer : rehash.newer.Within kept
  older : rehash.older.Within kept

namespace Within

variable {Id : Type} {kept : Set Id} {rehash : Rehash Id}

theorem mono {more : Set Id} (within : rehash.Within kept) (fewer : kept ⊆ more) :
    rehash.Within more :=
  ⟨within.newer.mono fewer, within.older.mono fewer⟩

theorem idle {table : Table Id} (within : table.Within kept) : (Rehash.idle table).Within kept :=
  ⟨within, .unallocated kept⟩

theorem release (within : rehash.Within kept) : rehash.release.1.Within kept := by
  rw [Rehash.release]
  split
  · exact .idle within.newer
  · exact within

theorem table (within : rehash.Within kept) (side : Side) : (rehash.table side).Within kept := by
  cases side with
  | newer => exact within.newer
  | older => exact within.older

end Within

/-- A search finds a position of the payloads that it has met. -/
theorem Finds.within {Id : Type} {rehash : Rehash Id} {newer older : Layout Id} {hash : UInt64}
    {chosen : Option Id} {side : Side} {position : Position Id}
    (finds : rehash.Finds newer older hash chosen (some (side, position))) {kept : Set Id}
    (inside : ∀ slot, ∀ id ∈ side.layout newer older slot, id ∈ kept) : position.Within kept := by
  cases chosen with
  | none => exact nomatch finds
  | some id =>
      obtain ⟨other, front, rest, splits, same⟩ := finds
      obtain ⟨rfl, rfl⟩ := Prod.mk.inj (Option.some.inj same)
      rcases List.eq_nil_or_concat' front with rfl | ⟨front, before, rfl⟩
      · exact trivial
      · rw [Position.following_concat]
        apply inside _ before
        rw [splits]
        simp

variable {Store Id Content : Type} [Arena Store Id Content] {kept lost : Set Id}
  {origin first second : Store} {rehash : Rehash Id}

namespace Within

/-- A scan moves the same payload in both stores. -/
theorem scan [LawfulArena Store] (within : rehash.Within kept)
    (mirrors : Arena.Mirrors kept lost origin first second) :
    Corresponds (kept ∩ lost)
      (Alongside (fun _ => True) (Alongside (Within kept) (Arena.Mirrors kept lost origin)))
      (rehash.scan first) (rehash.scan second) := by
  obtain ⟨newer, older, cursor⟩ := rehash
  have inside : (Position.head cursor).Within kept := trivial
  rw [Rehash.scan, Rehash.scan]
  refine (within.older.detach mirrors inside).bind ?_
  rintro ⟨found, cut, unlinked⟩ _ - ⟨member, withinCut, moved⟩
  cases found with
  | none => exact .value ⟨trivial, ⟨within.newer, withinCut⟩, moved⟩
  | some id =>
      refine (within.newer.insert_of_mem moved (member id rfl)).bind ?_
      rintro ⟨grown, linked⟩ _ - ⟨withinGrown, joined⟩
      exact .value ⟨trivial, ⟨withinGrown, withinCut⟩, joined⟩

/-- The scans of one step move the same payloads in both stores. -/
theorem scanUpTo [LawfulArena Store] (within : rehash.Within kept)
    (mirrors : Arena.Mirrors kept lost origin first second) (work limit moved : Nat) :
    Corresponds (kept ∩ lost)
      (Alongside (fun _ => True) (Alongside (Within kept) (Arena.Mirrors kept lost origin)))
      (rehash.scanUpTo work limit moved first) (rehash.scanUpTo work limit moved second) := by
  induction limit generalizing rehash first second moved with
  | zero =>
      rw [Rehash.scanUpTo, Rehash.scanUpTo]
      split
      · exact .failure _
      · exact .value ⟨trivial, within, mirrors⟩
  | succ limit inductionHypothesis =>
      rw [Rehash.scanUpTo, Rehash.scanUpTo]
      split
      · refine (within.scan mirrors).bind ?_
        rintro ⟨found, after, linked⟩ _ - ⟨-, withinAfter, scanned⟩
        cases found with
        | none => exact inductionHypothesis withinAfter scanned moved
        | some id => exact inductionHypothesis withinAfter scanned (moved + 1)
      · exact .value ⟨trivial, within, mirrors⟩

/-- A step does the same in both stores. -/
theorem step [LawfulArena Store] (within : rehash.Within kept)
    (mirrors : Arena.Mirrors kept lost origin first second) (work : Nat) :
    Corresponds (kept ∩ lost) (Outcome.Mirrors kept lost origin (Within kept)) (rehash.step first work)
      (rehash.step second work) := by
  rw [Rehash.step, Rehash.step]
  split
  · refine (within.scanUpTo mirrors work _ 0).bind ?_
    rintro ⟨moved, after, linked⟩ _ - ⟨-, withinAfter, scanned⟩
    exact .value ⟨withinAfter.release, scanned⟩
  · exact .value ⟨within, mirrors⟩

/-- A payload is detached from its side in both stores alike. -/
theorem detach [LawfulArena Store] (within : rehash.Within kept)
    (mirrors : Arena.Mirrors kept lost origin first second) (side : Side) {position : Position Id}
    (inside : position.Within kept) :
    Corresponds (kept ∩ lost)
      (Alongside (fun _ => True) (Alongside (Within kept) (Arena.Mirrors kept lost origin)))
      (rehash.detach first side position) (rehash.detach second side position) := by
  obtain ⟨newer, older, cursor⟩ := rehash
  cases side with
  | newer =>
      rw [Rehash.detach, Rehash.detach]
      refine (within.newer.detach mirrors inside).bind ?_
      rintro ⟨found, cut, unlinked⟩ _ - ⟨-, withinCut, moved⟩
      exact .value ⟨trivial, ⟨withinCut, within.older⟩, moved⟩
  | older =>
      rw [Rehash.detach, Rehash.detach]
      refine (within.older.detach mirrors inside).bind ?_
      rintro ⟨found, cut, unlinked⟩ _ - ⟨-, withinCut, moved⟩
      exact .value ⟨trivial, ⟨within.newer, withinCut⟩, moved⟩

end Within

namespace Sound

variable {newer older : Layout Id}

/-- A payload of one side is a payload of the rehash. -/
theorem mem_ids_of_side (sound : rehash.Sound first newer older) {side : Side} {slot : Nat} {id : Id}
    (member : id ∈ side.layout newer older slot) : id ∈ rehash.ids newer older := by
  cases side with
  | newer => exact List.mem_append_left _ (sound.pair.soundDestination.mem_ids_of_mem member)
  | older => exact List.mem_append_right _ (sound.pair.soundSource.mem_ids_of_mem member)

/-- The tables of a sound rehash start with its own payloads. -/
theorem within (sound : rehash.Sound first newer older)
    (inside : ∀ id ∈ rehash.ids newer older, id ∈ kept) : rehash.Within kept where
  newer := sound.pair.soundDestination.within fun id member =>
    inside id (List.mem_append_left _ member)
  older := sound.pair.soundSource.within fun id member =>
    inside id (List.mem_append_right _ member)

/-- The payloads of a sound rehash lead to each other only. -/
theorem closed (sound : rehash.Sound first newer older) {id next : Id}
    (member : id ∈ rehash.ids newer older) {node : Node Id Content}
    (found : Arena.node? first id = some node) (leads : node.link.next = some next) :
    next ∈ rehash.ids newer older := by
  rcases List.mem_append.1 member with left | right
  · exact List.mem_append_left _ (sound.pair.soundDestination.closed left found leads)
  · exact List.mem_append_right _ (sound.pair.soundSource.closed right found leads)

/-- A search of both tables gives the same answer in both stores, and asks about the same payloads,
unless it meets one that was lost. -/
theorem find_mirrored [LawfulArena Store] (sound : rehash.Sound first newer older)
    (mirrors : Arena.Mirrors kept lost origin first second)
    (inside : ∀ id ∈ rehash.ids newer older, id ∈ kept) {Memory : Type} (hash : UInt64)
    (matcher : Matcher Content Memory) (memory : Memory) :
    Corresponds (kept ∩ lost) (fun answer mirrored => mirrored = answer)
        (rehash.find first hash matcher memory) (rehash.find second hash matcher memory) ∧
      ∀ answer, rehash.find second hash matcher memory = .ok answer →
        rehash.asked second hash matcher memory = rehash.asked first hash matcher memory := by
  obtain ⟨newest, asksNewest⟩ := sound.pair.soundDestination.lookup_mirrored mirrors
    (fun id member => inside id (List.mem_append_left _ member)) hash matcher memory
  have oldest := sound.pair.soundSource.lookup_mirrored mirrors
    (fun id member => inside id (List.mem_append_right _ member)) hash matcher
  constructor
  · rw [Rehash.find, Rehash.find]
    refine newest.bind ?_
    rintro ⟨_ | position, left⟩ _ - rfl
    · refine (oldest left).1.bind ?_
      rintro ⟨place, last⟩ _ - rfl
      exact .value rfl
    · exact .value rfl
  · intro answer answered
    obtain ⟨between, searched, rest⟩ := exists_of_bind_eq_ok answered
    rw [Rehash.asked, Rehash.asked, asksNewest between searched]
    rw [searched] at newest ⊢
    generalize rehash.newer.lookup first hash matcher memory = origin at newest ⊢
    cases newest with
    | value same =>
        subst same
        rcases between with ⟨_ | position, left⟩
        · obtain ⟨place, oldestSearched, _⟩ := exists_of_bind_eq_ok rest
          exact congrArg _ ((oldest left).2 place oldestSearched)
        · rfl

end Sound

end Rehash

end IncrementalMap
