import DeviceIdentity.Der.Tail

/-!
# Writing DER

Each function puts one piece of DER in front of what a `Tail` already holds and returns how many
octets it added, so that the content length of an enclosing element is a sum of what was returned.
A piece that does not fit fails with `bufferTooSmall`; a piece whose parts were already written
when the failure came leaves them in place.

* `Der.raw`, `Der.octet`, `Der.lengthField`, `Der.header` are the building blocks.
* `Der.tagged`, `Der.oid`, `Der.utf8Text`, `Der.bitString`, `Der.unsigned` write whole elements.
* `Der.signature` writes an ECDSA signature as a sequence of two integers.
-/

namespace DeviceIdentity

namespace Der

/-- A step that writes into a buffer from its end. -/
abbrev Write := Action Tail

/-! ## Tags -/

/-- The tag of an INTEGER. -/
def integerTag : UInt8 := 0x02

/-- The tag of a BIT STRING. -/
def bitStringTag : UInt8 := 0x03

/-- The tag of an OBJECT IDENTIFIER. -/
def oidTag : UInt8 := 0x06

/-- The tag of a UTF8String. -/
def utf8StringTag : UInt8 := 0x0C

/-- The tag of a SEQUENCE. -/
def sequenceTag : UInt8 := 0x30

/-- The tag of a SET. -/
def setTag : UInt8 := 0x31

/-- The context-specific constructed tag `[0]`. -/
def context0Tag : UInt8 := 0xA0

/-! ## Building blocks -/

/-- Puts `bs` in front.  If it does not fit, nothing is written. -/
def raw (bs : Bytes) : Write Nat := fun t =>
  match t.prepend? bs with
  | some u => ⟨.ok bs.length, u, []⟩
  | none => ⟨.error .bufferTooSmall, t, []⟩

/-- Puts one octet in front. -/
def octet (b : UInt8) : Write Nat := raw [b]

/-- The shortest length field for a content of `n` octets; none is needed above two octets. -/
def lengthOctets? (n : Nat) : Option Bytes :=
  if n < 0x80 then some [UInt8.ofNat n]
  else if n < 0x100 then some [0x81, UInt8.ofNat n]
  else if n < 0x10000 then some [0x82, UInt8.ofNat (n / 256), UInt8.ofNat (n % 256)]
  else none

/-- Puts the length field of a content of `n` octets in front. -/
def lengthField (n : Nat) : Write Nat :=
  match lengthOctets? n with
  | some field => raw field
  | none => Action.fail .encodingFailed

/-- Puts the header of a content of `n` octets in front: the length field, and then the tag before
it. -/
def header (tag : UInt8) (n : Nat) : Write Nat := do
  let field ← lengthField n
  let tagged ← octet tag
  return field + tagged

/-- The header of a SEQUENCE. -/
def sequenceHeader (n : Nat) : Write Nat := header sequenceTag n

/-- Forgets what was written. -/
def reset : Write Unit := Action.modify Tail.reset

/-- The octets written so far. -/
def written : Write Bytes := do
  return (← Action.get).written

/-! ## Elements -/

/-- A primitive element. -/
def tagged (tag : UInt8) (content : Bytes) : Write Nat := do
  let body ← raw content
  let head ← header tag content.length
  return body + head

/-- An OBJECT IDENTIFIER from its encoded arcs. -/
def oid (arcs : Bytes) : Write Nat := tagged oidTag arcs

/-- A UTF8String. -/
def utf8Text (text : String) : Write Nat := tagged utf8StringTag (Bytes.ofText text)

/-- Closes a BIT STRING without unused bits around the `n` octets just written. -/
def closeBitString (n : Nat) : Write Nat := do
  let unused ← octet 0x00
  let head ← header bitStringTag (n + unused)
  return n + unused + head

/-- A BIT STRING without unused bits. -/
def bitString (bits : Bytes) : Write Nat := do
  let body ← raw bits
  closeBitString body

/-- `magnitude` without its leading zero octets; of a zero, the last octet stays. -/
def significant : Bytes → Bytes
  | [] => []
  | [b] => [b]
  | b :: c :: rest => if b = 0 then significant (c :: rest) else b :: c :: rest

/-- A non-negative INTEGER from its magnitude, in its shortest form: a zero octet is put before a
first octet whose high bit is set.  An empty magnitude is refused. -/
def unsigned (magnitude : Bytes) : Write Nat :=
  match significant magnitude with
  | [] => Action.fail .encodingFailed
  | first :: rest => do
    let body ← raw (first :: rest)
    let sign ← if 0x80 ≤ first then octet 0x00 else pure 0
    let head ← header integerTag (body + sign)
    return body + sign + head

/-- A small non-negative INTEGER. -/
def smallInteger (value : UInt8) : Write Nat := unsigned [value]

/-- One half of a signature as an INTEGER.  Zero, which no valid signature contains, is refused. -/
def signatureHalf (half : Bytes) : Write Nat :=
  if half.all (· == 0) then Action.fail .encodingFailed else unsigned half

/-- A sequence of two integers from the two halves of a raw signature. -/
def signature (pair : Bytes) : Write Nat :=
  if pair.isEmpty || pair.length % 2 != 0 then Action.fail .encodingFailed
  else do
    let s ← signatureHalf (pair.drop (pair.length / 2))
    let r ← signatureHalf (pair.take (pair.length / 2))
    let head ← sequenceHeader (s + r)
    return s + r + head

/-! ## What the building blocks do -/

/-- A length field exists exactly for contents of fewer than `2 ^ 16` octets. -/
theorem lengthOctets?_isSome_iff (n : Nat) : (lengthOctets? n).isSome ↔ n < 0x10000 := by
  unfold lengthOctets?
  split
  · simp; omega
  split
  · simp; omega
  split
  · simpa
  · simpa using by omega

/-- Dropping leading zeros keeps the number. -/
theorem toNat_significant (magnitude : Bytes) :
    Bytes.toNat (significant magnitude) = Bytes.toNat magnitude := by
  fun_induction significant magnitude with
  | case1 => rfl
  | case2 => rfl
  | case3 c rest ih => rw [ih]; rfl
  | case4 => rfl

end Der

end DeviceIdentity
