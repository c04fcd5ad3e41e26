/-!
# Rows of equal length

`rows width xs` cuts a list into rows of `width` elements for printing; only the last row may be
shorter.

Main statements: the rows hold the elements in order (`flatten_rows`), and no row is empty
(`ne_nil_of_mem_rows`).
-/

namespace DeviceIdentity

variable {α : Type}

/-- `xs` cut into rows of `width` elements (of one element for a `width` of zero). -/
def rows (width : Nat) : List α → List (List α)
  | [] => []
  | x :: xs => (x :: xs.take (width - 1)) :: rows width (xs.drop (width - 1))
termination_by xs => xs.length
decreasing_by simp only [List.length_drop, List.length_cons]; omega

/-- The rows hold all elements, in order. -/
theorem flatten_rows (width : Nat) (xs : List α) : (rows width xs).flatten = xs := by
  fun_induction rows width xs with
  | case1 => rfl
  | case2 x xs ih => simp [ih]

/-- No row is empty. -/
theorem ne_nil_of_mem_rows {width : Nat} {xs row : List α} (h : row ∈ rows width xs) :
    row ≠ [] := by
  fun_induction rows width xs with
  | case1 => simp at h
  | case2 x xs ih =>
    rcases List.mem_cons.1 h with rfl | h
    · simp
    · exact ih h

end DeviceIdentity
