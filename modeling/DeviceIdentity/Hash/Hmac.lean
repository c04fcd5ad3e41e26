import DeviceIdentity.Hash.Sha256

/-!
# HMAC and HKDF over SHA-256

* `Hmac.mac` authenticates a message with a key.
* `Hkdf.derive` expands a secret into as many octets as wanted, up to 255 blocks.

Main statement: `Hkdf.length_derive`, exactly as many octets are derived as asked for.
-/

namespace DeviceIdentity

namespace Hmac

/-- The key brought to the length of a block: hashed if it is longer, and padded with zeros. -/
def blockKey (key : Bytes) : Bytes :=
  let short := if 64 < key.length then Sha256.hash key else key
  short ++ List.replicate (64 - short.length) 0

/-- The code of a message under a key. -/
def mac (key message : Bytes) : Bytes :=
  let block := blockKey key
  let inner := Sha256.hash (block.map (· ^^^ 0x36) ++ message)
  Sha256.hash (block.map (· ^^^ 0x5C) ++ inner)

@[simp] theorem length_mac (key message : Bytes) : (mac key message).length = 32 := by
  simp [mac]

end Hmac

namespace Hkdf

/-- `count` blocks of output: each is the code of the block before it, the label and the number of
the block. -/
def blocks (key label : Bytes) : (count : Nat) → (number : Nat) → (previous : Bytes) → Bytes
  | 0, _, _ => []
  | count + 1, number, previous =>
    let block := Hmac.mac key (previous ++ label ++ [UInt8.ofNat number])
    block ++ blocks key label count (number + 1) block

theorem length_blocks (key label : Bytes) (count number : Nat) (previous : Bytes) :
    (blocks key label count number previous).length = 32 * count := by
  induction count generalizing number previous with
  | zero => rfl
  | succ count ih => simp [blocks, ih]; omega

/-- `length` octets derived from a secret under a salt and a label. -/
def derive (salt secret label : Bytes) (length : Nat) : Bytes :=
  let key := Hmac.mac salt secret
  (blocks key label ((length + 31) / 32) 1 []).take length

/-- Exactly as many octets are derived as asked for. -/
@[simp] theorem length_derive (salt secret label : Bytes) (length : Nat) :
    (derive salt secret label length).length = length := by
  simp only [derive, List.length_take, length_blocks]
  omega

end Hkdf

end DeviceIdentity
