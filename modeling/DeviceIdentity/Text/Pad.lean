/-!
# Columns

Texts padded with spaces to a least width, counted in characters.  A text that is already as wide
is left alone.

* `Pad.aligned` pads a text so that it stands at the left, at the right or in the middle.
-/

namespace DeviceIdentity

namespace Pad

/-- A text of `n` spaces. -/
def spaces (n : Nat) : String :=
  String.ofList (List.replicate n ' ')

/-- `text` at the left of a column. -/
def left (width : Nat) (text : String) : String :=
  text ++ spaces (width - text.length)

/-- `text` at the right of a column. -/
def right (width : Nat) (text : String) : String :=
  spaces (width - text.length) ++ text

/-- `text` in the middle of a column; an odd space goes to the right. -/
def centre (width : Nat) (text : String) : String :=
  let missing := width - text.length
  spaces (missing / 2) ++ text ++ spaces (missing - missing / 2)

/-- Where in its column a text stands. -/
inductive Alignment where
  /-- At the left. -/
  | left
  /-- At the right. -/
  | right
  /-- In the middle. -/
  | centre
  deriving DecidableEq, Repr

/-- `text` in a column. -/
def aligned : Alignment → Nat → String → String
  | .left => left
  | .right => right
  | .centre => centre

/-- A text in a column is the text between spaces. -/
theorem exists_aligned (alignment : Alignment) (width : Nat) (text : String) :
    ∃ before after, aligned alignment width text = spaces before ++ text ++ spaces after := by
  cases alignment with
  | left => exact ⟨0, width - text.length, by simp [aligned, left, spaces]⟩
  | right => exact ⟨width - text.length, 0, by simp [aligned, right, spaces]⟩
  | centre => exact ⟨_, _, rfl⟩

end Pad

end DeviceIdentity
