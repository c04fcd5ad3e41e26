/-!
# Blank characters

A character is blank when it has the Unicode property White_Space.  `Blank.trim` removes blank
characters from both ends of a text.

Main statements: core's class of white space lies inside this one (`Blank.isBlank_of_isWhitespace`),
a text without blank ends is left alone (`Blank.trim_eq_self`), what is removed is blank
(`Blank.exists_trim`), and blank characters at the ends make no difference (`Blank.trim_append`).
-/

namespace DeviceIdentity

namespace Blank

/-- Whether `c` has the Unicode property White_Space. -/
def isBlank (c : Char) : Bool :=
  let n := c.toNat
  (9 ≤ n && n ≤ 13) || n == 0x20 || n == 0x85 || n == 0xA0 || n == 0x1680
    || (0x2000 ≤ n && n ≤ 0x200A) || n == 0x2028 || n == 0x2029 || n == 0x202F || n == 0x205F
    || n == 0x3000

/-- `cs` without the blank characters at its front. -/
def trimStart (cs : List Char) : List Char :=
  cs.dropWhile isBlank

/-- `cs` without the blank characters at its back. -/
def trimEnd (cs : List Char) : List Char :=
  (cs.reverse.dropWhile isBlank).reverse

/-- `cs` without the blank characters at its ends. -/
def trim (cs : List Char) : List Char :=
  trimEnd (trimStart cs)

/-- Every character that core calls white space is blank. -/
theorem isBlank_of_isWhitespace {c : Char} (h : c.isWhitespace = true) : isBlank c = true := by
  simp only [Char.isWhitespace, Bool.or_eq_true, decide_eq_true_eq] at h
  rcases h with ((rfl | rfl) | rfl) | rfl <;> decide

/-- Trimming leaves a text alone when neither its first nor its last character is blank. -/
theorem trim_eq_self {cs : List Char} (first : ∀ c ∈ cs.head?, isBlank c = false)
    (last : ∀ c ∈ cs.getLast?, isBlank c = false) : trim cs = cs := by
  have hs : trimStart cs = cs := by
    cases cs with
    | nil => rfl
    | cons c cs => simp [trimStart, first c (by simp)]
  have he : trimEnd cs = cs := by
    unfold trimEnd
    cases h : cs.reverse with
    | nil => simp_all
    | cons c r =>
      have hc : isBlank c = false := last c (by simp [List.getLast?_eq_head?_reverse, h])
      rw [List.dropWhile_cons_of_neg (by simp [hc]), ← h, List.reverse_reverse]
  rw [trim, hs, he]

/-- A text is its trimmed form between blank characters. -/
theorem exists_trim (cs : List Char) :
    ∃ before after, (∀ c ∈ before, isBlank c = true) ∧ (∀ c ∈ after, isBlank c = true) ∧
      cs = before ++ (trim cs ++ after) := by
  have hblank : ∀ l : List Char, ∀ c ∈ l.takeWhile isBlank, isBlank c = true := by
    intro l c hc
    exact List.all_eq_true.1 List.all_takeWhile c hc
  refine ⟨cs.takeWhile isBlank, ((trimStart cs).reverse.takeWhile isBlank).reverse, hblank cs,
    fun c hc => hblank _ c (List.mem_reverse.1 hc), ?_⟩
  have hend : trimEnd (trimStart cs) ++ ((trimStart cs).reverse.takeWhile isBlank).reverse =
      trimStart cs := by
    rw [trimEnd, ← List.reverse_append, List.takeWhile_append_dropWhile, List.reverse_reverse]
  rw [trim, hend, trimStart, List.takeWhile_append_dropWhile]

theorem trimEnd_append {after : List Char} (h : ∀ c ∈ after, isBlank c = true) (cs : List Char) :
    trimEnd (cs ++ after) = trimEnd cs := by
  rw [trimEnd, trimEnd, List.reverse_append,
    List.dropWhile_append_of_pos fun c hc => h c (List.mem_reverse.1 hc)]

/-- Blank characters at the ends of a text are removed with those that it has there itself. -/
theorem trim_append {before after : List Char} (hbefore : ∀ c ∈ before, isBlank c = true)
    (hafter : ∀ c ∈ after, isBlank c = true) (cs : List Char) :
    trim (before ++ (cs ++ after)) = trim cs := by
  rw [trim, trim, trimStart, List.dropWhile_append_of_pos hbefore, List.dropWhile_append]
  split
  · next hempty =>
    have hnone : after.dropWhile isBlank = [] := by
      rw [← List.append_nil after, List.dropWhile_append_of_pos hafter, List.dropWhile_nil]
    rw [trimStart, List.isEmpty_iff.1 hempty, hnone]
  · exact trimEnd_append hafter _

end Blank

end DeviceIdentity
