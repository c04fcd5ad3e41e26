import DeviceIdentity.Action
import DeviceIdentity.Bytes

/-!
# A buffer filled from its end

DER puts the length of an element before its content, so content is written first, at the end of
the buffer, and its header in front of it: every length is known when it is written.  A `Tail` is
such a buffer, split at the cursor into the octets that are still free and those written.

Main statements: writing keeps the size of the buffer (`Tail.length_buffer_prepend?`), keeps what
was written before as the end of what is written after, and leaves the free octets in front of the
cursor alone (`Tail.prepend?_eq_some_iff`).
-/

namespace DeviceIdentity

/-- A buffer that is filled from its end. -/
structure Tail where
  /-- The octets before the cursor, which have not been written yet. -/
  free : Bytes
  /-- The octets written, which end the buffer. -/
  written : Bytes
  deriving DecidableEq, Repr

namespace Tail

/-- The buffer `octets` with nothing written. -/
def ofBuffer (octets : Bytes) : Tail := ⟨octets, []⟩

/-- A buffer of `size` zero octets with nothing written. -/
def zeros (size : Nat) : Tail := ofBuffer (List.replicate size 0)

/-- The whole buffer. -/
def buffer (t : Tail) : Bytes := t.free ++ t.written

/-- Writes `bs` in front of the octets written, if it fits. -/
def prepend? (bs : Bytes) (t : Tail) : Option Tail :=
  if bs.length ≤ t.free.length then
    some ⟨t.free.take (t.free.length - bs.length), bs ++ t.written⟩
  else none

/-- Forgets what was written; the octets stay in the buffer. -/
def reset (t : Tail) : Tail := ofBuffer t.buffer

/-- Writing in front succeeds exactly when there is room, and then uses up the last free octets. -/
theorem prepend?_eq_some_iff {bs : Bytes} {t u : Tail} :
    t.prepend? bs = some u ↔
      ∃ rest spent, t.free = rest ++ spent ∧ spent.length = bs.length ∧
        u = ⟨rest, bs ++ t.written⟩ := by
  constructor
  · intro h
    unfold prepend? at h
    split at h
    · next hle =>
      refine ⟨t.free.take (t.free.length - bs.length), t.free.drop (t.free.length - bs.length),
        (List.take_append_drop _ _).symm, ?_, ?_⟩
      · simp only [List.length_drop]; omega
      · exact (Option.some.inj h).symm
    · exact absurd h (by simp)
  · rintro ⟨rest, spent, hf, hl, rfl⟩
    have hle : bs.length ≤ t.free.length := by simp [hf, hl]
    have ht : t.free.take (t.free.length - bs.length) = rest := by simp [hf, hl]
    simp [prepend?, hle, ht]

/-- Writing keeps the size of the buffer. -/
theorem length_buffer_prepend? {bs : Bytes} {t u : Tail} (h : t.prepend? bs = some u) :
    u.buffer.length = t.buffer.length := by
  obtain ⟨rest, spent, hf, hl, rfl⟩ := prepend?_eq_some_iff.1 h
  simp [buffer, hf, hl]

end Tail

end DeviceIdentity
