/-
This file says which bytes a key feeds to a coder.
-/

namespace IncrementalMap

/-- The lowest byte of a number comes first. -/
def littleEndian (width value : Nat) : List UInt8 :=
  (List.range width).map fun place => UInt8.ofNat (value >>> (8 * place))

/-- A type is fed to a coder as a list of bytes. -/
class Feed (Key : Type) where
  bytes : Key → List UInt8

export Feed (bytes)

instance : Feed UInt8 := ⟨fun key => littleEndian 1 key.toNat⟩
instance : Feed UInt16 := ⟨fun key => littleEndian 2 key.toNat⟩
instance : Feed UInt32 := ⟨fun key => littleEndian 4 key.toNat⟩
instance : Feed UInt64 := ⟨fun key => littleEndian 8 key.toNat⟩

/-- Signed numbers feed the bytes of their two's complement. -/
instance : Feed Int8 := ⟨fun key => bytes key.toUInt8⟩
instance : Feed Int16 := ⟨fun key => bytes key.toUInt16⟩
instance : Feed Int32 := ⟨fun key => bytes key.toUInt32⟩
instance : Feed Int64 := ⟨fun key => bytes key.toUInt64⟩

instance : Feed Bool := ⟨fun key => [if key then 1 else 0]⟩
instance : Feed Char := ⟨fun key => bytes key.val⟩
instance : Feed Unit := ⟨fun _ => []⟩

/-- A text ends with a byte that no encoded text contains. -/
instance : Feed String := ⟨fun key => key.toUTF8.data.toList ++ [0xff]⟩

/-- A list starts with its length. -/
instance {Key : Type} [Feed Key] : Feed (List Key) :=
  ⟨fun keys => littleEndian 8 keys.length ++ keys.flatMap bytes⟩

/-- An optional key starts with a word that tells whether it is present. -/
instance {Key : Type} [Feed Key] : Feed (Option Key) :=
  ⟨fun
    | none => littleEndian 8 0
    | some key => littleEndian 8 1 ++ bytes key⟩

instance {First Second : Type} [Feed First] [Feed Second] : Feed (First × Second) :=
  ⟨fun keys => bytes keys.1 ++ bytes keys.2⟩

end IncrementalMap
