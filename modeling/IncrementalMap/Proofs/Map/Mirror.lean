/-
This file proves that the calls of a map do the same in two stores that mirror each other.
-/

import IncrementalMap.Map.Resize
import IncrementalMap.Proofs.Map.Sound
import IncrementalMap.Proofs.Rehash.Mirror

namespace IncrementalMap.Map

/-- A map is within a set of payloads when its tables are. -/
def Within {Id : Type} (kept : Set Id) (map : Map Id) : Prop := map.rehash.Within kept

variable {Store Id Content Memory : Type} [Arena Store Id Content] {kept lost : Set Id}
  {origin first second : Store} {map : Map Id}

namespace Within

/-- A growth brings blank tables only. -/
theorem growIfFull {rehash : Rehash Id} (within : rehash.Within kept) (config : Config)
    (allocator : Allocator) : (Map.growIfFull rehash config allocator).1.Within kept := by
  rw [Map.growIfFull, Rehash.grow]
  split
  · split
    · exact within
    · split <;> rename_i made
      · exact ⟨.allocate made kept, within.newer⟩
      · exact within
  · exact within

theorem firstTable (within : map.Within kept) {allocator : Allocator} {first : Table Id}
    (made : map.firstTable allocator = .ok first) : first.Within kept := by
  rw [Map.firstTable] at made
  split at made
  · rw [← Except.ok.inj made]
    exact within.newer
  · exact .allocate made kept

/-- A map advances alike in both stores. -/
theorem advance [LawfulArena Store] (within : map.Within kept)
    (mirrors : Arena.Mirrors kept lost origin first second) :
    Corresponds (kept ∩ lost) (Outcome.Mirrors kept lost origin (Within kept)) (map.advance first)
      (map.advance second) := by
  obtain ⟨rehash, config⟩ := map
  rw [Map.advance, Map.advance]
  refine (Rehash.Within.step within mirrors _).bind ?_
  rintro _ _ - ⟨inside, stores⟩
  exact .value ⟨inside, stores⟩

/-- An insertion that has a table links its payload alike in both stores. -/
theorem insert [LawfulArena Store] (within : map.Within kept)
    (mirrors : Arena.Mirrors kept lost origin first second) {allocator : Allocator} {table : Table Id}
    (made : map.firstTable allocator = .ok table) (id : Id) :
    Corresponds (Insert.insert id kept ∩ lost)
      (Outcome.Mirrors (Insert.insert id kept) lost origin (Within (Insert.insert id kept)))
      (map.insert first allocator id) (map.insert second allocator id) := by
  have more := Rehash.Within.mono within (Set.subset_insert id kept)
  have arriving := within.firstTable made
  rw [Map.insert, Map.insert, made]
  refine (arriving.insert mirrors id).bind ?_
  rintro ⟨joined, linked⟩ _ - ⟨withinJoined, stores⟩
  have both : Rehash.Within (Insert.insert id kept)
      ⟨joined, map.rehash.older, map.rehash.cursor⟩ := ⟨withinJoined, more.older⟩
  have grown : Within (Insert.insert id kept) ⟨(Map.growIfFull
      ⟨joined, map.rehash.older, map.rehash.cursor⟩ map.config allocator).1, map.config⟩ :=
    growIfFull both map.config allocator
  refine (advance grown stores).bind ?_
  rintro _ _ - ⟨inside, final⟩
  exact .value ⟨inside, final⟩

/-- A resize does the same in both stores. -/
theorem resize [LawfulArena Store] (within : map.Within kept)
    (mirrors : Arena.Mirrors kept lost origin first second) (allocator : Allocator) (target : Nat) :
    Corresponds (kept ∩ lost) (Outcome.Mirrors kept lost origin (Within kept))
      (map.resize first allocator target) (map.resize second allocator target) := by
  have drain := Rehash.Within.step within mirrors wordLimit
  unfold Map.resize
  rcases map.resizeGoal target with error | capacity
  · exact .value ⟨within, mirrors⟩
  dsimp only
  split
  · refine drain.bind ?_
    rintro _ _ - ⟨inside, stores⟩
    exact .value ⟨inside, stores⟩
  rcases made : (Table.allocate allocator capacity : Except MapError (Table Id)) with error | fresh
  · exact .value ⟨within, mirrors⟩
  have blank := Table.Within.allocate made kept
  refine drain.bind ?_
  rintro ⟨moved, drained, linked, events⟩ _ - ⟨inside, stores⟩
  dsimp only
  split
  · have started : Within kept ⟨(drained.start fresh).1, map.config⟩ := ⟨blank, inside.newer⟩
    refine (advance started stores).bind ?_
    rintro _ _ - ⟨after, final⟩
    exact .value ⟨after, final⟩
  · exact .value ⟨⟨blank, inside.older⟩, stores⟩

/-- A resize at once does the same in both stores. -/
theorem resizeAtOnce [LawfulArena Store] (within : map.Within kept)
    (mirrors : Arena.Mirrors kept lost origin first second) (allocator : Allocator) (target : Nat) :
    Corresponds (kept ∩ lost) (Outcome.Mirrors kept lost origin (Within kept))
      (map.resizeAtOnce first allocator target) (map.resizeAtOnce second allocator target) := by
  unfold Map.resizeAtOnce
  rcases map.resizeGoal target with error | capacity
  · exact .value ⟨within, mirrors⟩
  dsimp only
  split
  · exact .value ⟨within, mirrors⟩
  rcases made : (Table.allocate allocator capacity : Except MapError (Table Id)) with error | fresh
  · exact .value ⟨within, mirrors⟩
  have blank := Table.Within.allocate made kept
  refine (Table.Within.transfer (Rehash.Within.older within) blank mirrors).bind ?_
  rintro ⟨emptied, half, linked⟩ _ - ⟨-, filled, stores⟩
  refine (Table.Within.transfer (Rehash.Within.newer within) filled stores).bind ?_
  rintro ⟨rest, full, final⟩ _ - ⟨-, gathered, ended⟩
  exact .value ⟨.idle gathered, ended⟩

end Within

namespace Sound

variable {newer older : Layout Id}

/-- A step leaves a sound map of the same payloads. -/
theorem advanced [LawfulArena Store] (sound : map.Sound first newer older)
    {outcome : Outcome (Map Id) Store Nat} (answered : map.advance first = .ok outcome) :
    ∃ poured drained, outcome.state.Sound outcome.store poured drained ∧
      (outcome.state.rehash.ids poured drained).Perm (map.rehash.ids newer older) := by
  obtain ⟨moved, rehash, linked, events, poured, drained, carries, soundAfter, same, _⟩ :=
    advance_sound map sound.tables sound.settled.resting sound.valid
  obtain rfl := Except.ok.inj (carries.step.symm.trans answered)
  exact ⟨poured, drained, soundAfter, same⟩

/-- After a step a search takes the same course in both stores and ends at a kept position, unless it
meets a payload that was lost. -/
theorem find_advanced [LawfulArena Store] (sound : map.Sound first newer older)
    (inside : ∀ id ∈ map.rehash.ids newer older, id ∈ kept) {outcome : Outcome (Map Id) Store Nat}
    (answered : map.advance first = .ok outcome) {other : Store}
    (mirrors : Arena.Mirrors kept lost origin outcome.store other) (hash : UInt64)
    (matcher : Matcher Content Memory) (memory : Memory) :
    Corresponds (kept ∩ lost) (fun answer mirrored => mirrored = answer)
        (outcome.state.rehash.find outcome.store hash matcher memory)
        (outcome.state.rehash.find other hash matcher memory) ∧
      (∀ answer, outcome.state.rehash.find other hash matcher memory = .ok answer →
        outcome.state.rehash.asked other hash matcher memory =
          outcome.state.rehash.asked outcome.store hash matcher memory) ∧
      ∀ side position left, outcome.state.rehash.find outcome.store hash matcher memory =
        .ok (some (side, position), left) → position.Within kept := by
  obtain ⟨poured, drained, soundAfter, same⟩ := sound.advanced answered
  have insideAfter : ∀ id ∈ outcome.state.rehash.ids poured drained, id ∈ kept :=
    fun id member => inside id (same.mem_iff.1 member)
  obtain ⟨corresponds, asks⟩ := soundAfter.tables.find_mirrored mirrors insideAfter hash matcher memory
  refine ⟨corresponds, asks, ?_⟩
  intro side position left found
  obtain ⟨place, searched, finds⟩ := soundAfter.tables.find hash matcher memory
  obtain ⟨rfl, -⟩ := Prod.mk.inj (Except.ok.inj (searched.symm.trans found))
  exact finds.within fun slot id member =>
    insideAfter id (soundAfter.tables.mem_ids_of_side member)

/-- A lookup finds the same payload in both stores. -/
theorem lookup_mirrored [LawfulArena Store] (sound : map.Sound first newer older)
    (mirrors : Arena.Mirrors kept lost origin first second)
    (inside : ∀ id ∈ map.rehash.ids newer older, id ∈ kept) (hash : UInt64)
    (matcher : Matcher Content Memory) (memory : Memory) :
    Corresponds (kept ∩ lost) (Outcome.Mirrors kept lost origin (Within kept))
      (map.lookup first hash matcher memory) (map.lookup second hash matcher memory) := by
  have within : map.Within kept := sound.tables.within inside
  rw [Map.lookup, Map.lookup]
  refine (within.advance mirrors).bind ?_
  rintro ⟨moved, after, linked, events⟩ _ advanced ⟨withinAfter, stores⟩
  obtain ⟨corresponds, _, aims⟩ := sound.find_advanced inside advanced stores hash matcher memory
  refine corresponds.bind ?_
  rintro ⟨_ | ⟨side, position⟩, left⟩ _ found rfl
  · exact .value ⟨withinAfter, stores⟩
  · refine ((Rehash.Within.table withinAfter side).target stores
      (aims side position left found)).bind ?_
    rintro _ id - ⟨rfl, -⟩
    exact .value ⟨withinAfter, stores⟩

/-- A deletion detaches the same payload in both stores. -/
theorem delete_mirrored [LawfulArena Store] (sound : map.Sound first newer older)
    (mirrors : Arena.Mirrors kept lost origin first second)
    (inside : ∀ id ∈ map.rehash.ids newer older, id ∈ kept) (hash : UInt64)
    (matcher : Matcher Content Memory) (memory : Memory) :
    Corresponds (kept ∩ lost) (Outcome.Mirrors kept lost origin (Within kept))
      (map.delete first hash matcher memory) (map.delete second hash matcher memory) := by
  have within : map.Within kept := sound.tables.within inside
  rw [Map.delete, Map.delete]
  refine (within.advance mirrors).bind ?_
  rintro ⟨moved, after, linked, events⟩ _ advanced ⟨withinAfter, stores⟩
  obtain ⟨corresponds, _, aims⟩ := sound.find_advanced inside advanced stores hash matcher memory
  refine corresponds.bind ?_
  rintro ⟨_ | ⟨_ | _, position⟩, left⟩ _ found rfl
  · exact .value ⟨withinAfter, stores⟩
  · refine (Rehash.Within.detach withinAfter stores .newer (aims _ position left found)).bind ?_
    rintro ⟨id, rehash, unlinked⟩ _ - ⟨-, withinLeft, final⟩
    exact .value ⟨withinLeft, final⟩
  · refine (Rehash.Within.detach withinAfter stores .older (aims _ position left found)).bind ?_
    rintro ⟨id, rehash, unlinked⟩ _ - ⟨-, withinLeft, final⟩
    exact .value ⟨withinLeft.release, final⟩

/-- A search that is answered over the second store has asked about the same payloads. -/
theorem asked_mirrored [LawfulArena Store] (sound : map.Sound first newer older)
    (mirrors : Arena.Mirrors kept lost origin first second)
    (inside : ∀ id ∈ map.rehash.ids newer older, id ∈ kept) {hash : UInt64}
    {matcher : Matcher Content Memory} {memory : Memory}
    (searches : map.Searches second hash matcher memory) :
    map.asked second hash matcher memory = map.asked first hash matcher memory := by
  have within : map.Within kept := sound.tables.within inside
  obtain ⟨stepped, answer, advanced, found⟩ := searches
  have both := within.advance mirrors
  rw [advanced] at both
  rw [asked, asked, advanced]
  generalize answered : map.advance first = earlier at both ⊢
  cases both with
  | value holds =>
      obtain ⟨_, stores⟩ := holds
      exact (sound.find_advanced inside answered stores hash matcher memory).2.1 answer found

end Sound

end IncrementalMap.Map
