/-
This file holds the link that a payload embeds.
-/

namespace IncrementalMap

/-- A link carries the hash code of its payload and the next payload of the same chain. -/
structure Link (Id : Type) where
  hash : UInt64
  next : Option Id
  deriving DecidableEq

/-- A detached link has no successor. -/
def Link.detached {Id : Type} (hash : UInt64) : Link Id := ⟨hash, none⟩

/-- The successor changes and the hash code stays. -/
def Link.withNext {Id : Type} (link : Link Id) (next : Option Id) : Link Id :=
  { link with next }

@[simp] theorem Link.hash_withNext {Id : Type} (link : Link Id) (next : Option Id) :
    (link.withNext next).hash = link.hash := rfl

@[simp] theorem Link.next_withNext {Id : Type} (link : Link Id) (next : Option Id) :
    (link.withNext next).next = next := rfl

/-- A node is a payload: a link together with content that the map never reads. -/
structure Node (Id Content : Type) where
  link : Link Id
  content : Content
  deriving DecidableEq

/-- The node points at another successor. -/
def Node.withNext {Id Content : Type} (node : Node Id Content) (next : Option Id) :
    Node Id Content :=
  { node with link := node.link.withNext next }

@[simp] theorem Node.hash_withNext {Id Content : Type} (node : Node Id Content)
    (next : Option Id) : (node.withNext next).link.hash = node.link.hash := rfl

@[simp] theorem Node.next_withNext {Id Content : Type} (node : Node Id Content)
    (next : Option Id) : (node.withNext next).link.next = next := rfl

@[simp] theorem Node.content_withNext {Id Content : Type} (node : Node Id Content)
    (next : Option Id) : (node.withNext next).content = node.content := rfl

end IncrementalMap
