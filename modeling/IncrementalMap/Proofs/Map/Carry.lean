/-
This file says how a call carries an episode along: by one step, and by the payload that it takes.
-/

import IncrementalMap.Map.Basic
import IncrementalMap.Proofs.Rehash.Gauge

namespace IncrementalMap.Map

/-- After its step a call leaves the map as it is or takes a payload from one side. The last payload
of the older table takes the episode along. -/
inductive Takes {Store Id Content : Type} [Arena Store Id Content] (map : Map Id) (store : Store) :
    Option Side → List Event → Map Id → Store → Prop where
  | nothing : Takes map store none [] map store
  | newer {position : Position Id} {id : Id} {rehash : Rehash Id} {unlinked : Store}
      (detached : map.rehash.detach store .newer position = .ok (some id, rehash, unlinked)) :
      Takes map store (some .newer) [] ⟨rehash, map.config⟩ unlinked
  | older {position : Position Id} {id : Id} {rehash : Rehash Id} {unlinked : Store}
      (detached : map.rehash.detach store .older position = .ok (some id, rehash, unlinked)) :
      Takes map store (some .older) rehash.release.2 ⟨rehash.release.1, map.config⟩ unlinked

/-- A call carries an episode along when it makes one step of the configured work, which moves as
many payloads as the older table has at most, and then takes nothing or one payload. -/
structure Carries {Store Id Content : Type} [Arena Store Id Content] (map : Map Id) (store : Store)
    (stepped : Outcome (Map Id) Store Nat) (taken : Option Side) (released : List Event)
    (after : Map Id) (final : Store) : Prop where
  step : map.advance store = .ok stepped
  moved : stepped.result = min map.config.migrationWork map.rehash.older.count
  takes : stepped.state.Takes stepped.store taken released after final
  gauge : after.rehash.gauge = (map.rehash.gauge.step map.config.migrationWork).take taken
  counted : ∀ side, taken = some side →
    0 < (map.rehash.gauge.step map.config.migrationWork).count side
  reports : map.rehash.gauge.Reports map.config.migrationWork stepped.events
  releases : released = (map.rehash.gauge.step map.config.migrationWork).releases taken

/-- A call that has made its step may take a payload that a side counts. -/
theorem Carries.take {Store Id Content : Type} [Arena Store Id Content] {map after : Map Id}
    {store final : Store} {stepped : Outcome (Map Id) Store Nat} {side : Side}
    {released : List Event}
    (carries : map.Carries store stepped none [] stepped.state stepped.store)
    (takes : stepped.state.Takes stepped.store (some side) released after final)
    (counted : 0 < stepped.state.rehash.gauge.count side)
    (gauge : after.rehash.gauge = stepped.state.rehash.gauge.detach side)
    (releases : released = stepped.state.rehash.gauge.releases (some side)) :
    map.Carries store stepped (some side) released after final := by
  have moved : stepped.state.rehash.gauge = map.rehash.gauge.step map.config.migrationWork :=
    carries.gauge
  rw [moved] at counted gauge releases
  constructor
  · exact carries.step
  · exact carries.moved
  · exact takes
  · exact gauge
  · intro other same
    rwa [← Option.some.inj same]
  · exact carries.reports
  · exact releases

end IncrementalMap.Map
