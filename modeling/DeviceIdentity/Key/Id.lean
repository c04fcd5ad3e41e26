import DeviceIdentity.Failure
import DeviceIdentity.Text.Blank
import DeviceIdentity.Text.Numeral
import DeviceIdentity.Text.Pad

/-!
# Key identifiers

A key is known to the secure service by a 32-bit number.  It is written in hexadecimal after `0x`,
as wide as its column, and read in hexadecimal or decimal, with any blank characters around it.
-/

namespace DeviceIdentity

/-- The number by which the secure service knows a key. -/
structure KeyId where
  /-- The number itself. -/
  value : UInt32
  deriving DecidableEq, Repr

namespace KeyId

/-- The key that authenticates TLS clients. -/
def clientTls : KeyId := ⟨0x5001⟩

/-- The key that signs values. -/
def coseSign : KeyId := ⟨0x5002⟩

/-- The key for encryption. -/
def coseEncrypt : KeyId := ⟨0x5003⟩

/-- The written form. -/
def text (id : KeyId) : String :=
  "0x" ++ Numeral.lowerHex id.value.toNat

/-- The written form in a column. -/
def padded (alignment : Pad.Alignment) (width : Nat) (id : KeyId) : String :=
  Pad.aligned alignment width id.text

/-- The number that a text without surrounding blank characters spells. -/
def number? : List Char → Option Nat
  | '0' :: 'x' :: digits => Numeral.readSigned? 16 digits
  | '0' :: 'X' :: digits => Numeral.readSigned? 16 digits
  | digits => Numeral.readSigned? 10 digits

/-- Reads an identifier: hexadecimal after `0x` or `0X`, else decimal, below `2 ^ 32`. -/
def parse (text : String) : Except Failure KeyId :=
  match (number? (Blank.trim text.toList)).filter (· < 2 ^ 32) with
  | some n => .ok ⟨UInt32.ofNat n⟩
  | none => .error (.invalidInput ("not a key id: " ++ text))

end KeyId

end DeviceIdentity
