/-!
# Octet strings

Everything this library hashes, signs, writes or reads is a list of octets.

* `Bytes.toNat`, `Bytes.ofNat` read and write unsigned numbers, most significant octet first.
* `Bytes.toNatLE`, `Bytes.ofNatLE` do the same with the least significant octet first.
* `Bytes.ofText`, `Bytes.toText?` are the UTF-8 encoding of a text and its partial inverse.

Main statements: a written number has the width asked for (`Bytes.length_ofNat`) and reading it
back gives the number modulo the width (`Bytes.toNat_ofNat`).
-/

-- Powers of numbers stay the same terms in modules that also import powers in a monoid.
attribute [instance(2000), default_instance(20000)] instPowNat

namespace DeviceIdentity

/-- A string of octets. -/
abbrev Bytes := List UInt8

namespace Bytes

/-- The unsigned number that `bs` spells, most significant octet first. -/
def toNat (bs : Bytes) : Nat :=
  bs.foldl (fun n b => 256 * n + b.toNat) 0

/-- The low `width` octets of `n`, most significant first. -/
def ofNat : (width : Nat) → (n : Nat) → Bytes
  | 0, _ => []
  | width + 1, n => ofNat width (n / 256) ++ [UInt8.ofNat (n % 256)]

/-- The unsigned number that `bs` spells, least significant octet first. -/
def toNatLE (bs : Bytes) : Nat :=
  toNat bs.reverse

/-- The low `width` octets of `n`, least significant first. -/
def ofNatLE (width n : Nat) : Bytes :=
  (ofNat width n).reverse

/-- The UTF-8 encoding of `text`. -/
def ofText (text : String) : Bytes :=
  text.toByteArray.data.toList

/-- The text that `bs` encodes, if `bs` is valid UTF-8. -/
def toText? (bs : Bytes) : Option String :=
  String.fromUTF8? ⟨bs.toArray⟩

@[simp] theorem length_ofNat (width n : Nat) : (ofNat width n).length = width := by
  induction width generalizing n with
  | zero => rfl
  | succ width ih => simp [ofNat, ih]

@[simp] theorem length_ofNatLE (width n : Nat) : (ofNatLE width n).length = width := by
  simp [ofNatLE]

@[simp] theorem toNat_nil : toNat [] = 0 := rfl

/-- Appending one octet shifts the number by one place. -/
@[simp] theorem toNat_concat (bs : Bytes) (b : UInt8) :
    toNat (bs ++ [b]) = 256 * toNat bs + b.toNat := by
  simp [toNat, List.foldl_append]

/-- A number written in `width` octets reads back modulo `256 ^ width`. -/
theorem toNat_ofNat (width n : Nat) : toNat (ofNat width n) = n % 256 ^ width := by
  induction width generalizing n with
  | zero => simp [ofNat, Nat.mod_one]
  | succ width ih =>
    have hb : (UInt8.ofNat (n % 256)).toNat = n % 256 := by simp
    rw [ofNat, toNat_concat, ih, hb, Nat.pow_succ, Nat.mul_comm (256 ^ width) 256,
      Nat.mod_mul]
    omega

end Bytes

end DeviceIdentity
