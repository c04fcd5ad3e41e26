import DeviceIdentity.Key.Id
import DeviceIdentity.Proofs.Text.Numeral

/-!
# Which texts are key identifiers

A key identifier is read in decimal, or in hexadecimal behind a mark, and is written behind the mark
alone.  The mark, the sign, the radix and the white space around all of it are taken off one after
the other, and the number must not be too large for a word.  How such a text is spelled is said here
on its own, so that nothing is read that is not spelled so: a mark needs digits behind it, a sign
stands behind the mark and not in front of it, and white space stands at the ends alone.

* `IsNumeral` — the mark, sign and digits of a number; `Spells` — these between white space.
* `IsNumeral.isBlank_eq_false` — no white space in between; `number?_eq_some_iff` — exactly these
  are read.
* `parse_eq_ok_iff`, `parse_eq_error_iff` — exactly the texts that spell a word are read.
* `spells_text`, `spells_decimal` — how an identifier is written spells it; `parse_padded` — so does
  what is written in a column.
* **`identifiers_read_exactly`** — all of this together.
-/

namespace DeviceIdentity

namespace KeyId

open Numeral (SpellsSigned)

/-! ## How a key identifier is spelled -/

/-- What spells a number: digits of radix sixteen behind the mark, or decimal digits. -/
inductive IsNumeral : List Char → Nat → Prop
  | hexadecimal {x : Char} {digits : List Char} {n : Nat} (mark : x = 'x' ∨ x = 'X')
      (h : SpellsSigned 16 digits n) : IsNumeral ('0' :: x :: digits) n
  | decimal {digits : List Char} {n : Nat} (h : SpellsSigned 10 digits n) : IsNumeral digits n

/-- A text that spells a number, with white space around it or not. -/
def Spells (text : String) (n : Nat) : Prop :=
  ∃ before after numeral, (∀ c ∈ before, Blank.isBlank c = true) ∧
    (∀ c ∈ after, Blank.isBlank c = true) ∧ IsNumeral numeral n ∧
    text.toList = before ++ (numeral ++ after)

variable {cs : List Char} {n : Nat} {text : String} {id : KeyId}

/-- A numeral has only digits, the sign and the mark in it. -/
lemma IsNumeral.mem (h : IsNumeral cs n) : ∀ c ∈ cs, c ∈ "0123456789abcdefABCDEF+xX".toList := by
  have hdigits : "0123456789abcdefABCDEF".toList ⊆ "0123456789abcdefABCDEF+xX".toList := by decide
  have hsigned : ∀ {radix digits}, SpellsSigned radix digits n →
      ∀ c ∈ digits, c ∈ "0123456789abcdefABCDEF+xX".toList := by
    rintro radix _ ⟨sign, digits, hsign, rfl, h⟩ c hc
    rcases List.mem_append.1 hc with hc | hc
    · rcases hsign with rfl | rfl
      · cases hc
      · rw [List.mem_singleton.1 hc]
        decide
    · exact hdigits (h.mem hc)
  cases h with
  | hexadecimal mark h =>
    intro c hc
    rcases List.mem_cons.1 hc with rfl | hc
    · decide
    rcases List.mem_cons.1 hc with rfl | hc
    · rcases mark with rfl | rfl <;> decide
    · exact hsigned h c hc
  | decimal h => exact hsigned h

/-- There is no white space inside a numeral. -/
lemma IsNumeral.isBlank_eq_false (h : IsNumeral cs n) : ∀ c ∈ cs, Blank.isBlank c = false := by
  have hall : "0123456789abcdefABCDEF+xX".toList.all (!Blank.isBlank ·) = true := by decide
  intro c hc
  simpa using List.all_eq_true.1 hall c (h.mem c hc)

/-! ## Reading -/

/-- What stands behind a zero and a mark is not decimal. -/
lemma not_decimal {x : Char} {digits : List Char} (mark : x = 'x' ∨ x = 'X') :
    ¬SpellsSigned 10 ('0' :: x :: digits) n := by
  rintro ⟨sign, digits', rfl | rfl, heq, h⟩
  · have hmem : x ∈ "0123456789abcdefABCDEF".toList := by
      refine h.mem ?_
      rw [← List.nil_append digits', ← heq]
      exact List.mem_cons_of_mem _ (List.mem_cons_self ..)
    rcases mark with rfl | rfl <;> exact absurd hmem (by decide)
  · cases heq

/-- Exactly the numerals are read. -/
lemma number?_eq_some_iff : number? cs = some n ↔ IsNumeral cs n := by
  constructor
  · intro h
    rw [number?.eq_def] at h
    split at h
    · exact .hexadecimal (.inl rfl) (Numeral.readSigned?_eq_some_iff.1 h)
    · exact .hexadecimal (.inr rfl) (Numeral.readSigned?_eq_some_iff.1 h)
    · exact .decimal (Numeral.readSigned?_eq_some_iff.1 h)
  · rintro (⟨rfl | rfl, h⟩ | h)
    · exact Numeral.readSigned?_eq_some_iff.2 h
    · exact Numeral.readSigned?_eq_some_iff.2 h
    · rw [number?.eq_3, Numeral.readSigned?_eq_some_iff]
      · exact h
      · rintro digits rfl
        exact not_decimal (.inl rfl) h
      · rintro digits rfl
        exact not_decimal (.inr rfl) h

/-- A text is read without the white space around it. -/
lemma number?_trim_eq_some_iff : number? (Blank.trim text.toList) = some n ↔ Spells text n := by
  constructor
  · intro h
    obtain ⟨before, after, hbefore, hafter, htext⟩ := Blank.exists_trim text.toList
    exact ⟨before, after, _, hbefore, hafter, number?_eq_some_iff.1 h, htext⟩
  · rintro ⟨before, after, numeral, hbefore, hafter, h, htext⟩
    have htrim : Blank.trim numeral = numeral :=
      Blank.trim_eq_self (fun c hc => h.isBlank_eq_false c (List.mem_of_mem_head? hc))
        fun c hc => h.isBlank_eq_false c (List.mem_of_mem_getLast? hc)
    rw [htext, Blank.trim_append hbefore hafter, htrim, number?_eq_some_iff]
    exact h

/-- Exactly the texts that spell a number below `2 ^ 32` are read. -/
lemma parse_eq_ok_iff : parse text = .ok id ↔ Spells text id.value.toNat := by
  rw [← number?_trim_eq_some_iff, parse]
  cases hnumber : number? (Blank.trim text.toList) with
  | none => simp
  | some n =>
    by_cases hn : n < 2 ^ 32
    · rw [Option.filter_some, if_pos (by simpa using hn)]
      constructor
      · rintro ⟨⟩
        rw [UInt32.toNat_ofNat_of_lt' hn]
      · intro h
        obtain rfl := Option.some.inj h
        change Except.ok (KeyId.mk (UInt32.ofNat id.value.toNat)) = _
        rw [UInt32.ofNat_toNat]
    · rw [Option.filter_some, if_neg (by simpa using hn)]
      constructor
      · rintro ⟨⟩
      · intro h
        exact absurd (Option.some.inj h ▸ id.value.toNat_lt) hn

lemma parse_eq_error_iff :
    parse text = .error (.invalidInput ("not a key id: " ++ text)) ↔
      ¬∃ n < 2 ^ 32, Spells text n := by
  constructor
  · rintro h ⟨n, hn, hspells⟩
    rw [← UInt32.toNat_ofNat_of_lt' hn] at hspells
    have hok : parse text = .ok ⟨UInt32.ofNat n⟩ := parse_eq_ok_iff.2 hspells
    rw [h] at hok
    cases hok
  · intro hnone
    cases hparse : parse text with
    | ok id => exact (hnone ⟨_, id.value.toNat_lt, parse_eq_ok_iff.1 hparse⟩).elim
    | error failure =>
      rw [parse] at hparse
      split at hparse <;> cases hparse
      rfl

/-! ## Writing -/

section Writing

variable {before after : List Char}

/-- The written form between white space. -/
lemma spells_text (hbefore : ∀ c ∈ before, Blank.isBlank c = true)
    (hafter : ∀ c ∈ after, Blank.isBlank c = true) (id : KeyId) :
    Spells (String.ofList (before ++ (id.text.toList ++ after))) id.value.toNat := by
  refine ⟨before, after, _, hbefore, hafter, ?_, String.toList_ofList⟩
  have htext : id.text.toList = '0' :: 'x' :: Nat.toDigits 16 id.value.toNat := by
    simp [KeyId.text, Numeral.lowerHex]
  rw [htext]
  exact .hexadecimal (.inl rfl)
    ⟨[], _, .inl rfl, rfl, Numeral.spells_toDigits (by decide) (by decide) _⟩

/-- The number in decimal between white space. -/
lemma spells_decimal (hbefore : ∀ c ∈ before, Blank.isBlank c = true)
    (hafter : ∀ c ∈ after, Blank.isBlank c = true) (id : KeyId) :
    Spells (String.ofList (before ++ ((toString id.value.toNat).toList ++ after)))
      id.value.toNat := by
  refine ⟨before, after, _, hbefore, hafter, ?_, String.toList_ofList⟩
  rw [Nat.toString_eq_ofList_toDigits, String.toList_ofList]
  exact .decimal ⟨[], _, .inl rfl, rfl, Numeral.spells_toDigits (by decide) (by decide) _⟩

/-- An identifier reads back from its column. -/
lemma parse_padded (alignment : Pad.Alignment) (width : Nat) (id : KeyId) :
    parse (id.padded alignment width) = .ok id := by
  obtain ⟨before, after, hpadded⟩ := Pad.exists_aligned alignment width id.text
  have hblank : ∀ n, ∀ c ∈ List.replicate n ' ', Blank.isBlank c = true := by
    intro n c hc
    rw [List.eq_of_mem_replicate hc]
    decide
  have hspells := spells_text (hblank before) (hblank after) id
  have htext : id.padded alignment width = String.ofList
      (List.replicate before ' ' ++ (id.text.toList ++ List.replicate after ' ')) := by
    rw [padded, hpadded, String.ofList_append, String.ofList_append, String.ofList_toList,
      String.append_assoc]
    rfl
  rw [htext, parse_eq_ok_iff]
  exact hspells

end Writing

/-! ## The main result -/

/-- **Exactly the texts that spell a word are key identifiers.**  A text is read as the identifier
whose number it spells, and is refused, with a report that shows the text, if it spells no number
below `2 ^ 32`.  An identifier that is written, or whose number is written in decimal, reads back,
with any white space around it. -/
theorem identifiers_read_exactly (text : String) :
    (∀ id, parse text = .ok id ↔ Spells text id.value.toNat) ∧
    (parse text = .error (.invalidInput ("not a key id: " ++ text)) ↔
      ¬∃ n < 2 ^ 32, Spells text n) ∧
    ∀ (id : KeyId) (before after : List Char), (∀ c ∈ before, Blank.isBlank c = true) →
      (∀ c ∈ after, Blank.isBlank c = true) →
      parse (String.ofList (before ++ (id.text.toList ++ after))) = .ok id ∧
        parse (String.ofList (before ++ ((toString id.value.toNat).toList ++ after))) = .ok id :=
  ⟨fun _ => parse_eq_ok_iff, parse_eq_error_iff, fun id _ _ hbefore hafter =>
    ⟨parse_eq_ok_iff.2 (spells_text hbefore hafter id),
      parse_eq_ok_iff.2 (spells_decimal hbefore hafter id)⟩⟩

/-- A sign stands behind the mark, and zeros behind the sign; a mark alone spells no number, and a
number that is one too large for a word spells none that is below `2 ^ 32`. -/
theorem identifiers_read_exactly_padded :
    let padded := "\u3000 0X+00005002\t"
    let before := ['\u2003']
    let after := ['\n', ' ']
    parse padded = .ok coseSign ∧ Spells padded 0x5002 ∧
      (¬∃ n < 2 ^ 32, Spells "0x" n) ∧ (¬∃ n < 2 ^ 32, Spells "4294967296" n) ∧
      (∀ c ∈ before, Blank.isBlank c = true) ∧ (∀ c ∈ after, Blank.isBlank c = true) ∧
      parse (String.ofList (before ++ (coseSign.text.toList ++ after))) = .ok coseSign ∧
      parse (String.ofList (before ++ ("20482".toList ++ after))) = .ok coseSign := by
  intro padded before after
  obtain ⟨hpadded, -, hwritten⟩ := identifiers_read_exactly padded
  obtain ⟨-, hmark, -⟩ := identifiers_read_exactly "0x"
  obtain ⟨-, hlarge, -⟩ := identifiers_read_exactly "4294967296"
  have hread : parse padded = .ok coseSign := by decide
  have hbefore : ∀ c ∈ before, Blank.isBlank c = true := List.all_eq_true.1 (by decide)
  have hafter : ∀ c ∈ after, Blank.isBlank c = true := List.all_eq_true.1 (by decide)
  obtain ⟨htext, hdecimal⟩ := hwritten coseSign before after hbefore hafter
  exact ⟨hread, (hpadded coseSign).1 hread, hmark.1 (by decide), hlarge.1 (by decide), hbefore,
    hafter, htext, hdecimal⟩

end KeyId

end DeviceIdentity
