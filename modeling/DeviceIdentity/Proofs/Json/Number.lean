import Mathlib.Tactic.Lemma
import Mathlib.Tactic.SplitIfs
import DeviceIdentity.Json.Token
import DeviceIdentity.Proofs.Text.Numeral

/-!
# Numbers of JSON read back

A number has no mark at its end, so it is read back only in front of something that cannot go on
with it: another digit, a point or an exponent.  That is the difference to all other tokens.

* `EndsNumber` — what may follow a number.
* `JsonNumber.IsWritable` — a number that has a point has digits behind it.
* `readWhole?_toDigits`, `readFraction?_fraction`, `readExponent?_exponent` — the three parts of a
  number.
* **`read?_number`** — a number reads back in front of what may follow it.
-/

namespace DeviceIdentity

namespace JsonNumber

/-- A number with a point has one digit or more behind it. -/
def IsWritable (number : JsonNumber) : Prop :=
  ∀ digits ∈ number.fraction, digits ≠ [] ∧ ∀ c ∈ digits, c.isDigit = true

/-- The point and the digits behind it. -/
def fractionText : Option (List Char) → List Char
  | none => []
  | some digits => '.' :: digits

/-- The exponent with its mark. -/
def exponentText : Option Int → List Char
  | none => []
  | some e => 'e' :: (toString e).toList

lemma toList_print (number : JsonNumber) :
    number.print.toList =
      (if number.negative then ['-'] else []) ++ (Nat.toDigits 10 number.whole ++
        (fractionText number.fraction ++ exponentText number.exponent)) := by
  obtain ⟨negative, whole, fraction, exponent⟩ := number
  cases negative <;> cases fraction <;> cases exponent <;>
    simp [print, fractionText, exponentText]

end JsonNumber

namespace JsonToken

open JsonNumber (IsWritable fractionText exponentText)

variable {cs rest : List Char}

/-- What follows is no part of a number that stands in front of it. -/
def EndsNumber (rest : List Char) : Prop :=
  ∀ c ∈ rest.head?, c.isDigit = false ∧ c ≠ '.' ∧ c ≠ 'e' ∧ c ≠ 'E'

/-! ## Digits -/

/-- What follows is no digit. -/
def EndsDigits (rest : List Char) : Prop := ∀ c ∈ rest.head?, c.isDigit = false

lemma EndsNumber.endsDigits (h : EndsNumber rest) : EndsDigits rest := fun c hc => (h c hc).1

lemma takeWhile_isDigit (hcs : ∀ c ∈ cs, c.isDigit = true) (hrest : EndsDigits rest) :
    (cs ++ rest).takeWhile Char.isDigit = cs ∧ (cs ++ rest).dropWhile Char.isDigit = rest := by
  have hstop : rest.takeWhile Char.isDigit = [] ∧ rest.dropWhile Char.isDigit = rest := by
    cases rest with
    | nil => exact ⟨rfl, rfl⟩
    | cons c rest =>
      have hc : ¬c.isDigit = true := by simp [hrest c rfl]
      exact ⟨List.takeWhile_cons_of_neg hc, List.dropWhile_cons_of_neg hc⟩
  rw [List.takeWhile_append_of_pos hcs, List.dropWhile_append_of_pos hcs, hstop.1, hstop.2,
    List.append_nil]
  exact ⟨rfl, rfl⟩

lemma notMem_of_isDigit {c : Char} {others : List Char}
    (hothers : others.any Char.isDigit = false) (h : c.isDigit = true) : c ∉ others :=
  fun hmem => Bool.false_ne_true (hothers.symm.trans (List.any_eq_true.2 ⟨c, hmem, h⟩))

lemma isDigit_of_mem_toDigits {n : Nat} : ∀ c ∈ Nat.toDigits 10 n, c.isDigit = true :=
  fun _ => Nat.isDigit_of_mem_toDigits (by decide) (by decide)

lemma read?_toDigits (n : Nat) : Numeral.read? 10 (Nat.toDigits 10 n) = some n :=
  Numeral.read?_eq_some_iff.2 (Numeral.spells_toDigits (by decide) (by decide) n)

/-- A number is written with a first digit, and only zero with a zero there. -/
lemma exists_toDigits_eq_cons (n : Nat) :
    ∃ c cs, Nat.toDigits 10 n = c :: cs ∧ c.isDigit = true ∧ (n ≠ 0 → c ≠ '0') := by
  induction n using Nat.strongRecOn with
  | ind n ih =>
    rw [Nat.toDigits_eq_if (by decide)]
    split_ifs with hn
    · have hall : ∀ k < 10, k.digitChar.isDigit = true ∧ (k ≠ 0 → k.digitChar ≠ '0') := by decide
      exact ⟨_, [], rfl, hall n hn⟩
    · obtain ⟨c, cs, hcs, hdigit, hzero⟩ := ih (n / 10) (by omega)
      refine ⟨c, cs ++ [_], by rw [hcs]; rfl, hdigit, fun _ => hzero (by omega)⟩

/-! ## The three parts of a number -/

lemma readWhole?_toDigits (n : Nat) (hrest : EndsDigits rest) :
    readWhole? (Nat.toDigits 10 n ++ rest) = some (n, rest) := by
  by_cases hn : n = 0
  · subst hn
    rfl
  · obtain ⟨c, cs, hcs, -, hzero⟩ := exists_toDigits_eq_cons n
    obtain ⟨htake, hdrop⟩ := takeWhile_isDigit (isDigit_of_mem_toDigits (n := n)) hrest
    rw [readWhole?.eq_2, htake, hdrop, read?_toDigits]
    · rfl
    · rintro more heq
      rw [hcs] at heq
      exact hzero hn (List.cons.inj heq).1

lemma readFraction?_fraction {fraction : Option (List Char)}
    (h : ∀ digits ∈ fraction, digits ≠ [] ∧ ∀ c ∈ digits, c.isDigit = true)
    (hdigits : EndsDigits rest) (hpoint : ∀ c ∈ rest.head?, c ≠ '.') :
    readFraction? (fractionText fraction ++ rest) = some (fraction, rest) := by
  cases fraction with
  | none =>
    rw [fractionText, List.nil_append, readFraction?.eq_2]
    rintro more rfl
    exact hpoint _ rfl rfl
  | some digits =>
    obtain ⟨hne, hall⟩ := h digits rfl
    obtain ⟨htake, hdrop⟩ := takeWhile_isDigit hall hdigits
    rw [fractionText, List.cons_append, readFraction?, htake, hdrop]
    simp [hne]

/-- An exponent is written with a minus sign or without a sign. -/
lemma toList_toString_int (e : Int) :
    (toString e).toList =
      (if 0 ≤ e then [] else ['-']) ++ Nat.toDigits 10 e.natAbs := by
  rw [Int.toString_eq_repr, Int.repr_eq_if]
  split_ifs with he
  · rw [Nat.toList_repr, List.nil_append]
    congr 1
    omega
  · rw [String.toList_append, Nat.toList_repr]
    have habs : (-e).toNat = e.natAbs := by omega
    rw [habs]
    rfl

lemma readExponent?_exponent (exponent : Option Int) (hrest : EndsNumber rest) :
    readExponent? (exponentText exponent ++ rest) = some (exponent, rest) := by
  cases exponent with
  | none =>
    cases rest with
    | nil => rfl
    | cons c rest =>
      obtain ⟨-, -, hlower, hupper⟩ := hrest c rfl
      simp only [exponentText, List.nil_append, readExponent?, hlower, hupper, or_self, if_false]
  | some e =>
    obtain ⟨htake, hdrop⟩ :=
      takeWhile_isDigit (isDigit_of_mem_toDigits (n := e.natAbs)) hrest.endsDigits
    obtain ⟨c, cs, hcs, hdigit, -⟩ := exists_toDigits_eq_cons e.natAbs
    rw [exponentText, toList_toString_int]
    split_ifs with he
    · -- the first digit is no sign
      have hsign : ∀ sign ∈ ['-', '+'], ∀ more,
          Nat.toDigits 10 e.natAbs ++ rest ≠ sign :: more := by
        intro sign hmem more heq
        rw [hcs] at heq
        obtain ⟨rfl, -⟩ := List.cons.inj heq
        exact notMem_of_isDigit (by decide) hdigit hmem
      rw [List.nil_append, List.cons_append, readExponent?.eq_4 _ _ (hsign '-' (by decide))
        (hsign '+' (by decide)), if_pos (.inl rfl), htake, hdrop, read?_toDigits]
      have hvalue : 1 * (e.natAbs : Int) = e := by omega
      exact congrArg (fun n => some (some n, rest)) hvalue
    · rw [List.cons_append, List.singleton_append, List.cons_append, readExponent?.eq_2,
        if_pos (.inl rfl), htake, hdrop, read?_toDigits]
      have hvalue : -1 * (e.natAbs : Int) = e := by omega
      exact congrArg (fun n => some (some n, rest)) hvalue

/-! ## Numbers -/

/-- Behind the digits in front of a point or an exponent no digit follows, and behind those in front
of an exponent no point either. -/
lemma ends_exponentText (exponent : Option Int) (hrest : EndsNumber rest) :
    ∀ c ∈ (exponentText exponent ++ rest).head?, c.isDigit = false ∧ c ≠ '.' := by
  cases exponent with
  | none => exact fun c hc => ⟨(hrest c hc).1, (hrest c hc).2.1⟩
  | some e =>
    rintro _ ⟨⟩
    decide

lemma endsDigits_fractionText (fraction : Option (List Char)) (exponent : Option Int)
    (hrest : EndsNumber rest) :
    EndsDigits (fractionText fraction ++ (exponentText exponent ++ rest)) := by
  cases fraction with
  | none => exact fun c hc => (ends_exponentText exponent hrest c hc).1
  | some digits =>
    rintro _ ⟨⟩
    decide

lemma readNumber?_print {number : JsonNumber} (h : number.IsWritable) (hrest : EndsNumber rest) :
    readNumber? number.negative (Nat.toDigits 10 number.whole ++
        (fractionText number.fraction ++ (exponentText number.exponent ++ rest))) =
      some (number, rest) := by
  have hexponent := ends_exponentText number.exponent hrest
  rw [readNumber?, readWhole?_toDigits _ (endsDigits_fractionText _ _ hrest)]
  simp only [Option.bind_eq_bind, Option.bind_some]
  rw [readFraction?_fraction h (fun c hc => (hexponent c hc).1) fun c hc => (hexponent c hc).2]
  simp only [Option.bind_some]
  rw [readExponent?_exponent _ hrest]
  rfl

/-- What starts with a digit is read as a number. -/
lemma read?_of_isDigit {c : Char} (h : c.isDigit = true) (more : List Char) :
    read? (c :: more) =
      (readNumber? false (c :: more)).map fun (value, tail) => (number value, tail) := by
  have hmark : c ∉ "\x7b\x7d[]:,ntf\"-".toList := notMem_of_isDigit (by decide) h
  rw [read?.eq_12]
  all_goals
    rintro rest heq
    obtain ⟨rfl, -⟩ := List.cons.inj heq
    exact hmark (by decide)

/-- **A number reads back in front of what may follow it.** -/
lemma read?_number {value : JsonNumber} (h : value.IsWritable) (hrest : EndsNumber rest) :
    read? (value.print.toList ++ rest) = some (number value, rest) := by
  have hread := readNumber?_print h hrest
  rw [JsonNumber.toList_print, List.append_assoc, List.append_assoc, List.append_assoc]
  cases hnegative : value.negative with
  | true =>
    rw [hnegative] at hread
    rw [if_pos rfl, List.singleton_append, read?, hread, Option.map_some]
  | false =>
    obtain ⟨c, cs, hcs, hdigit, -⟩ := exists_toDigits_eq_cons value.whole
    rw [hnegative, hcs, List.cons_append] at hread
    rw [if_neg Bool.false_ne_true, List.nil_append, hcs, List.cons_append, read?_of_isDigit hdigit,
      hread, Option.map_some]

/-- A number starts with no white space. -/
lemma isSpace_head_number (value : JsonNumber) :
    ∃ first cs, value.print.toList = first :: cs ∧ isSpace first = false := by
  rw [JsonNumber.toList_print]
  cases value.negative with
  | true => exact ⟨'-', _, rfl, by decide⟩
  | false =>
    obtain ⟨c, cs, hcs, hdigit, -⟩ := exists_toDigits_eq_cons value.whole
    have hblank : c ∉ [' ', '\t', '\n', '\r'] := notMem_of_isDigit (by decide) hdigit
    rw [hcs]
    exact ⟨c, _, rfl, by simpa [isSpace, and_assoc] using hblank⟩

end JsonToken

end DeviceIdentity
