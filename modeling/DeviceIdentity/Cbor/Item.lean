import DeviceIdentity.Bytes

/-!
# CBOR items

A `CborItem` is one data item of CBOR, without regard to how it was spelled: lengths that were left
open and numbers that were written with more octets than needed are the same item as their shortest
spelling.

`CborItem.encode` writes the shortest spelling with every length stated.
-/

namespace DeviceIdentity

/-- One CBOR data item. -/
inductive CborItem where
  /-- The integer `value`. -/
  | unsigned (value : UInt64)
  /-- The integer `-1 - offset`. -/
  | negative (offset : UInt64)
  /-- A byte string. -/
  | bytes (content : Bytes)
  /-- A text string. -/
  | text (content : String)
  /-- An array. -/
  | array (items : List CborItem)
  /-- A map, in the order its entries are written. -/
  | map (entries : List (CborItem × CborItem))
  /-- An item with a tag. -/
  | tagged (tag : UInt64) (item : CborItem)
  /-- A truth value. -/
  | bool (value : Bool)
  /-- Null, or undefined. -/
  | null
  /-- A number of the pattern `bits` in double precision. -/
  | float (bits : UInt64)

namespace CborItem

/-- The item of an integer of 64 bits with sign. -/
def ofInt (n : Int) : CborItem :=
  if 0 ≤ n then unsigned (UInt64.ofNat n.toNat) else negative (UInt64.ofNat (-1 - n).toNat)

/-- Whether the item is the integer `n`. -/
def isInt (n : Int) : CborItem → Bool
  | unsigned value => (value.toNat : Int) = n
  | negative offset => -1 - (offset.toNat : Int) = n
  | _ => false

/-- The head of an item: its major type and the shortest spelling of its argument. -/
def head (major : Nat) (argument : Nat) : Bytes :=
  let first (n : Nat) : UInt8 := UInt8.ofNat (32 * major + n)
  if argument < 24 then [first argument]
  else if argument < 2 ^ 8 then first 24 :: Bytes.ofNat 1 argument
  else if argument < 2 ^ 16 then first 25 :: Bytes.ofNat 2 argument
  else if argument < 2 ^ 32 then first 26 :: Bytes.ofNat 4 argument
  else first 27 :: Bytes.ofNat 8 argument

mutual

/-- The shortest spelling of an item. -/
def encode : CborItem → Bytes
  | unsigned value => head 0 value.toNat
  | negative offset => head 1 offset.toNat
  | bytes content => head 2 content.length ++ content
  | text content => head 3 (Bytes.ofText content).length ++ Bytes.ofText content
  | array items => head 4 items.length ++ encodeAll items
  | map entries => head 5 entries.length ++ encodeEntries entries
  | tagged tag item => head 6 tag.toNat ++ encode item
  | bool value => head 7 (if value then 21 else 20)
  | null => head 7 22
  | float bits => 0xFB :: Bytes.ofNat 8 bits.toNat

/-- The spellings of items, one after the other. -/
def encodeAll : List CborItem → Bytes
  | [] => []
  | item :: rest => encode item ++ encodeAll rest

/-- The spellings of entries, each the key and then the value. -/
def encodeEntries : List (CborItem × CborItem) → Bytes
  | [] => []
  | (key, value) :: rest => encode key ++ encode value ++ encodeEntries rest

end

end CborItem

end DeviceIdentity
