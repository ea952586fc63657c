/-
This file turns keys into the hash codes that links carry.
-/

import IncrementalMap.Hash.Feed
import IncrementalMap.Link

namespace IncrementalMap

/-- A coder is any hash function that a caller brings. It absorbs the bytes of a key one at a time
and reads a 64-bit code off its last state. -/
structure Coder (State : Type) where
  start : State
  absorb : State → UInt8 → State
  finish : State → UInt64

/-- The code of a key is read off after its last byte. -/
def Coder.hashCode {State Key : Type} [Feed Key] (coder : Coder State) (key : Key) : UInt64 :=
  coder.finish ((bytes key).foldl coder.absorb coder.start)

/-- A payload joins a map through a detached link with the code of its key. -/
def Coder.link {State Id Key : Type} [Feed Key] (coder : Coder State) (key : Key) : Link Id :=
  Link.detached (coder.hashCode key)

@[simp] theorem Coder.hash_link {State Id Key : Type} [Feed Key] (coder : Coder State) (key : Key) :
    (coder.link key : Link Id).hash = coder.hashCode key := rfl

end IncrementalMap
