/-!
# Permitted uses of a key

A usage is a set of operations, kept as flag bits.
-/

namespace DeviceIdentity

/-- The operations a stored key may be used for. -/
structure KeyUsage where
  /-- One flag bit for each permitted operation. -/
  bits : UInt32
  deriving DecidableEq, Repr

namespace KeyUsage

/-- Sign a message hash. -/
def signHash : KeyUsage := ⟨0x1000⟩

/-- Verify a message hash. -/
def verifyHash : KeyUsage := ⟨0x2000⟩

/-- Encrypt. -/
def encrypt : KeyUsage := ⟨0x100⟩

/-- What either usage permits. -/
def union (a b : KeyUsage) : KeyUsage := ⟨a.bits ||| b.bits⟩

/-- Whether `a` permits all that `b` permits. -/
def contains (a b : KeyUsage) : Bool := a.bits &&& b.bits == b.bits

/-- A union permits what its left part permits. -/
theorem contains_union_left (a b : KeyUsage) : (a.union b).contains a = true := by
  simp only [contains, union, beq_iff_eq]
  apply UInt32.toBitVec_inj.1
  simp only [UInt32.toBitVec_and, UInt32.toBitVec_or]
  ext i
  simp only [BitVec.getElem_and, BitVec.getElem_or]
  cases a.bits.toBitVec[i] <;> simp

end KeyUsage

end DeviceIdentity
