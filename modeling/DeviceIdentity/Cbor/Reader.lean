import DeviceIdentity.Cbor.Item
import DeviceIdentity.Ieee.Format

/-!
# Reading CBOR

`CborItem.read?` reads the item at the front of some octets and returns what follows it;
`CborItem.readExactly?` wants nothing to follow.

Any well-formed spelling is read: numbers may take more octets than needed, and strings, arrays and
maps may leave their length open and end with a break.  These rules go beyond the syntax:

* arrays, maps and tags nest at most 256 deep;
* chunks of a string without stated length have the type of the string, may themselves leave their
  length open, and in a text each chunk is valid UTF-8 on its own;
* of the simple values, only the truth values, null and undefined are known;
* tags 2 and 3 spell large integers when a byte string of stated length follows, of at most sixteen
  octets; for tag 3 they stay below `2 ^ 127`.  An integer that fits major type 0 or 1 is read as
  such, and a larger one as its tag around the octets without leading zeros.  Before anything else
  these tags are like any other.

The reader is a recursion on the depth that is left.  Loops over the parts of one item take the
reader of a part as an argument, and a loop without stated length is bounded by the octets left,
since every part takes at least one.
-/

namespace DeviceIdentity

namespace CborItem

open Ieee (BinaryFormat)

/-- What stands at the front of an item; an argument of `none` leaves the length open. -/
inductive Head where
  /-- A non-negative integer. -/
  | unsigned (value : UInt64)
  /-- The integer `-1 - offset`. -/
  | negative (offset : UInt64)
  /-- A byte string. -/
  | bytes (length : Option Nat)
  /-- A text string. -/
  | text (length : Option Nat)
  /-- An array. -/
  | array (length : Option Nat)
  /-- A map. -/
  | map (length : Option Nat)
  /-- A tag. -/
  | tag (number : UInt64)
  /-- A simple value. -/
  | simple (number : Nat)
  /-- A floating-point number, as a pattern in double precision. -/
  | float (bits : UInt64)
  /-- The end of an item without stated length. -/
  | stop
  deriving DecidableEq, Repr

/-- Splits off the first `n` octets, if there are as many. -/
def split? (n : Nat) (bs : Bytes) : Option (Bytes × Bytes) :=
  let front := bs.take n
  if front.length = n then some (front, bs.drop n) else none

/-- The head of major type `major` with a stated argument. -/
def Head.ofArgument (major : Nat) (argument : Nat) : Option Head :=
  match major with
  | 0 => some (.unsigned (UInt64.ofNat argument))
  | 1 => some (.negative (UInt64.ofNat argument))
  | 2 => some (.bytes (some argument))
  | 3 => some (.text (some argument))
  | 4 => some (.array (some argument))
  | 5 => some (.map (some argument))
  | 6 => some (.tag (UInt64.ofNat argument))
  | _ => none

/-- The head of major type `major` without an argument. -/
def Head.ofOpen (major : Nat) : Option Head :=
  match major with
  | 2 => some (.bytes none)
  | 3 => some (.text none)
  | 4 => some (.array none)
  | 5 => some (.map none)
  | 7 => some .stop
  | _ => none

/-- The head of major type 7 whose argument takes `width` octets. -/
def Head.ofSimple (width argument : Nat) : Head :=
  match width with
  | 2 => .float (UInt64.ofNat (BinaryFormat.half.convert .double argument))
  | 4 => .float (UInt64.ofNat (BinaryFormat.single.convert .double argument))
  | 8 => .float (UInt64.ofNat argument)
  | _ => .simple argument

/-- How many octets of argument follow a first octet with low bits `info`. -/
def argumentWidth? (info : Nat) : Option Nat :=
  if info < 24 then some 0
  else if info < 28 then some (2 ^ (info - 24))
  else none

/-- Reads the head at the front. -/
def readHead? : Bytes → Option (Head × Bytes)
  | [] => none
  | first :: rest =>
    let major := first.toNat / 32
    let info := first.toNat % 32
    if info = 31 then (Head.ofOpen major).map (·, rest)
    else do
      let width ← argumentWidth? info
      let (octets, rest) ← split? width rest
      let argument := if width = 0 then info else Bytes.toNat octets
      if major = 7 then some (Head.ofSimple width argument, rest)
      else (Head.ofArgument major argument).map (·, rest)

/-! ## Strings -/

/-- Reads the chunks of a string up to the break that closes it.  `chunk?` says of a head whether it
is of the string's type, and gives its length; `nested` counts the open breaks. -/
def readChunks? (chunk? : Head → Option (Option Nat)) :
    (fuel nested : Nat) → Bytes → Option (List Bytes × Bytes)
  | 0, _, _ => none
  | fuel + 1, nested, bs => do
    let (head, bs) ← readHead? bs
    if head = .stop then
      if nested ≤ 1 then some ([], bs) else readChunks? chunk? fuel (nested - 1) bs
    else match chunk? head with
      | none => none
      | some none => readChunks? chunk? fuel (nested + 1) bs
      | some (some length) => do
        let (octets, bs) ← split? length bs
        let (chunks, bs) ← readChunks? chunk? fuel nested bs
        some (octets :: chunks, bs)

/-- The chunks of a string: one if its length is stated, else all up to its break. -/
def readString? (chunk? : Head → Option (Option Nat)) (length : Option Nat) (bs : Bytes) :
    Option (List Bytes × Bytes) :=
  match length with
  | some length => (split? length bs).map fun (octets, bs) => ([octets], bs)
  | none => readChunks? chunk? bs.length 1 bs

/-- The length of a head that is a byte string. -/
def Head.bytesChunk? : Head → Option (Option Nat)
  | .bytes length => some length
  | _ => none

/-- The length of a head that is a text string. -/
def Head.textChunk? : Head → Option (Option Nat)
  | .text length => some length
  | _ => none

/-- The text of chunks that are valid UTF-8, each on its own. -/
def joinText? (chunks : List Bytes) : Option String :=
  (chunks.mapM Bytes.toText?).map String.join

/-! ## Large integers -/

/-- The most octets of a large integer. -/
def maxBignum : Nat := 16

/-- The octets of the large integer that tag 2 or 3 stands before, if one follows. -/
def bignumOctets? (bs : Bytes) : Option (Bytes × Bytes) :=
  match readHead? bs with
  | some (.bytes (some length), rest) => if length ≤ maxBignum then split? length rest else none
  | _ => none

/-- The item of the integer that tag 2 or 3 spells over `octets`. -/
def ofBignum? (tag : UInt64) (octets : Bytes) : Option CborItem :=
  let magnitude := octets.dropWhile (· == 0)
  let n := Bytes.toNat magnitude
  if tag = 3 ∧ 2 ^ 127 ≤ n then none
  else if n < 2 ^ 64 then
    some (if tag = 2 then .unsigned (UInt64.ofNat n) else .negative (UInt64.ofNat n))
  else some (.tagged tag (.bytes magnitude))

/-- Reads what follows a tag; the item after it is read by `item?`, unless the tag spells a large
integer. -/
def readTagged? (item? : Bytes → Option (CborItem × Bytes)) (tag : UInt64) (bs : Bytes) :
    Option (CborItem × Bytes) :=
  match if tag = 2 ∨ tag = 3 then bignumOctets? bs else none with
  | some (octets, rest) => (ofBignum? tag octets).map (·, rest)
  | none => (item? bs).map fun (item, rest) => (.tagged tag item, rest)

/-! ## Arrays and maps -/

/-- Reads `n` parts. -/
def readTimes? {α : Type} (part? : Bytes → Option (α × Bytes)) :
    (n : Nat) → Bytes → Option (List α × Bytes)
  | 0, bs => some ([], bs)
  | n + 1, bs => do
    let (x, bs) ← part? bs
    let (xs, bs) ← readTimes? part? n bs
    some (x :: xs, bs)

/-- Whether a break stands at the front, and what follows it. -/
def afterStop? (bs : Bytes) : Option Bytes :=
  match readHead? bs with
  | some (.stop, rest) => some rest
  | _ => none

/-- Reads parts up to a break. -/
def readUntilStop? {α : Type} (part? : Bytes → Option (α × Bytes)) :
    (fuel : Nat) → Bytes → Option (List α × Bytes)
  | 0, _ => none
  | fuel + 1, bs =>
    match afterStop? bs with
    | some rest => some ([], rest)
    | none => do
      let (x, bs) ← part? bs
      let (xs, bs) ← readUntilStop? part? fuel bs
      some (x :: xs, bs)

/-- Reads `length` parts, or parts up to a break. -/
def readParts? {α : Type} (part? : Bytes → Option (α × Bytes)) (length : Option Nat) (bs : Bytes) :
    Option (List α × Bytes) :=
  match length with
  | some length => readTimes? part? length bs
  | none => readUntilStop? part? bs.length bs

/-- Reads the two items of an entry. -/
def readPair? (item? : Bytes → Option (CborItem × Bytes)) (bs : Bytes) :
    Option ((CborItem × CborItem) × Bytes) := do
  let (key, bs) ← item? bs
  let (value, bs) ← item? bs
  some ((key, value), bs)

/-! ## Items -/

/-- The item of a simple value. -/
def ofSimple? (number : Nat) : Option CborItem :=
  match number with
  | 20 => some (.bool false)
  | 21 => some (.bool true)
  | 22 => some .null
  | 23 => some .null
  | _ => none

/-- Reads what follows a head, the parts of an item being read by `item?`. -/
def readBody? (item? : Bytes → Option (CborItem × Bytes)) (head : Head) (bs : Bytes) :
    Option (CborItem × Bytes) :=
  match head with
  | .unsigned value => some (.unsigned value, bs)
  | .negative offset => some (.negative offset, bs)
  | .bytes length => do
    let (chunks, bs) ← readString? Head.bytesChunk? length bs
    some (.bytes chunks.flatten, bs)
  | .text length => do
    let (chunks, bs) ← readString? Head.textChunk? length bs
    let content ← joinText? chunks
    some (.text content, bs)
  | .array length => do
    let (items, bs) ← readParts? item? length bs
    some (.array items, bs)
  | .map length => do
    let (entries, bs) ← readParts? (readPair? item?) length bs
    some (.map entries, bs)
  | .tag number => readTagged? item? number bs
  | .simple number => (ofSimple? number).map (·, bs)
  | .float bits => some (.float bits, bs)
  | .stop => none

/-- Whether an item that starts with a head opens a level.  A tag opens one, unless it turns out to
spell a large integer. -/
def Head.opensLevel : Head → Bool
  | .array _ | .map _ => true
  | _ => false

/-- Reads the item at the front, when `depth` more levels may be opened. -/
def readWithin? : (depth : Nat) → Bytes → Option (CborItem × Bytes)
  | 0, bs => do
    let (head, bs) ← readHead? bs
    if head.opensLevel then none else readBody? (fun _ => none) head bs
  | depth + 1, bs => do
    let (head, bs) ← readHead? bs
    readBody? (readWithin? depth) head bs

/-- How deep arrays, maps and tags may nest. -/
def maxDepth : Nat := 256

/-- Reads the item at the front and returns what follows it. -/
def read? (bs : Bytes) : Option (CborItem × Bytes) :=
  readWithin? maxDepth bs

/-- Reads an item that nothing follows. -/
def readExactly? (bs : Bytes) : Option CborItem :=
  match read? bs with
  | some (item, []) => some item
  | _ => none

end CborItem

end DeviceIdentity
