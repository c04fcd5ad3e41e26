import Mathlib.Data.List.Forall2
import Mathlib.Data.Nat.Digits.Defs
import Mathlib.Tactic.Lemma
import Mathlib.Tactic.SplitIfs
import DeviceIdentity.Text.Numeral

/-!
# Digits and the numbers they denote

A numeral is read from its first digit on, each digit shifting what was read before it by one place.
What a numeral denotes is said here without that reading: its characters are looked up in the two
alphabets, and their values are the digits of the number.  Zeros in front count like any other
digit, so a number has numerals of every length.

* `IsDigit` — a character is the digit of a value; `Spells` — characters are digits of a number.
* `SpellsSigned` — the same with a plus sign in front, or without one.
* `read?_eq_some_iff`, `readSigned?_eq_some_iff` — exactly these are read.
* `spells_toDigits` — a number is spelled by the digits that it is written with.
-/

namespace DeviceIdentity

namespace Numeral

variable {radix n m d : Nat} {c : Char} {cs : List Char}

/-! ## Digits -/

/-- The character is the digit of value `d` in `radix`, in either case. -/
def IsDigit (radix : Nat) (c : Char) (d : Nat) : Prop :=
  d < radix ∧ ("0123456789abcdef".toList[d]? = some c ∨ "0123456789ABCDEF".toList[d]? = some c)

/-- A character that is not before `first` is told by its distance from it. -/
lemma exists_distance {first last : Char} (h : first ≤ c ∧ c ≤ last) :
    ∃ k < last.toNat + 1 - first.toNat, c.toNat = first.toNat + k ∧
      c = Char.ofNat (first.toNat + k) := by
  have hfirst : first.toNat ≤ c.toNat := h.1
  have hlast : c.toNat ≤ last.toNat := h.2
  obtain ⟨k, hk⟩ := Nat.exists_eq_add_of_le hfirst
  exact ⟨k, by omega, hk, by rw [← hk, Char.ofNat_toNat]⟩

lemma digitValue?_eq_some_iff :
    Hex.digitValue? c = some d ↔
      "0123456789abcdef".toList[d]? = some c ∨ "0123456789ABCDEF".toList[d]? = some c := by
  constructor
  · -- in each of the three ranges the value is the distance from its first character
    intro h
    have hdecimal : ∀ k < 10, "0123456789abcdef".toList[k]? = some (Char.ofNat (48 + k)) := by
      decide
    have hlower : ∀ k < 6, "0123456789abcdef".toList[10 + k]? = some (Char.ofNat (97 + k)) := by
      decide
    have hupper : ∀ k < 6, "0123456789ABCDEF".toList[10 + k]? = some (Char.ofNat (65 + k)) := by
      decide
    unfold Hex.digitValue? at h
    split_ifs at h with hc hc hc
    · obtain ⟨k, hk, hvalue, hchar⟩ : ∃ k < 10, c.toNat = 48 + k ∧ c = Char.ofNat (48 + k) :=
        exists_distance hc
      have hd : d = k := by cases h; omega
      exact .inl (by rw [hd, hchar, hdecimal k hk])
    · obtain ⟨k, hk, hvalue, hchar⟩ : ∃ k < 6, c.toNat = 97 + k ∧ c = Char.ofNat (97 + k) :=
        exists_distance hc
      have hd : d = 10 + k := by cases h; omega
      exact .inl (by rw [hd, hchar, hlower k hk])
    · obtain ⟨k, hk, hvalue, hchar⟩ : ∃ k < 6, c.toNat = 65 + k ∧ c = Char.ofNat (65 + k) :=
        exists_distance hc
      have hd : d = 10 + k := by cases h; omega
      exact .inr (by rw [hd, hchar, hupper k hk])
  · have hlower : ∀ k < 16, "0123456789abcdef".toList[k]?.bind Hex.digitValue? = some k := by
      decide
    have hupper : ∀ k < 16, "0123456789ABCDEF".toList[k]?.bind Hex.digitValue? = some k := by
      decide
    rintro (h | h)
    · have hd : d < 16 := (List.getElem?_eq_some_iff.1 h).1
      rw [← hlower d hd, h, Option.bind_some]
    · have hd : d < 16 := (List.getElem?_eq_some_iff.1 h).1
      rw [← hupper d hd, h, Option.bind_some]

lemma digit?_eq_some_iff : digit? radix c = some d ↔ IsDigit radix c d := by
  rw [digit?, Option.filter_eq_some_iff, digitValue?_eq_some_iff, decide_eq_true_eq, and_comm,
    IsDigit]

/-- The digits that numbers are written with are digits. -/
lemma isDigit_digitChar (hradix : radix ≤ 16) (h : d < radix) :
    IsDigit radix d.digitChar d := by
  have hall : ∀ k < 16, "0123456789abcdef".toList[k]? = some k.digitChar := by decide
  exact ⟨h, .inl (hall d (h.trans_le hradix))⟩

/-- A digit is a character of one of the two alphabets. -/
lemma IsDigit.mem (h : IsDigit radix c d) : c ∈ "0123456789abcdefABCDEF".toList := by
  have hlower : "0123456789abcdef".toList ⊆ "0123456789abcdefABCDEF".toList := by decide
  have hupper : "0123456789ABCDEF".toList ⊆ "0123456789abcdefABCDEF".toList := by decide
  rcases h.2 with h | h
  · exact hlower (List.mem_of_getElem? h)
  · exact hupper (List.mem_of_getElem? h)

/-! ## Numerals -/

/-- One or more digits that denote `n`. -/
def Spells (radix : Nat) (cs : List Char) (n : Nat) : Prop :=
  ∃ ds : List Nat, ds ≠ [] ∧ List.Forall₂ (IsDigit radix) cs ds ∧
    n = Nat.ofDigits radix ds.reverse

/-- A plus sign or none, and digits that denote `n`. -/
def SpellsSigned (radix : Nat) (cs : List Char) (n : Nat) : Prop :=
  ∃ sign digits, (sign = [] ∨ sign = ['+']) ∧ cs = sign ++ digits ∧ Spells radix digits n

/-- The number that digits denote, from the first digit on. -/
lemma ofDigits_reverse (radix : Nat) (ds : List Nat) :
    Nat.ofDigits radix ds.reverse = ds.foldl (fun n d => radix * n + d) 0 := by
  rw [Nat.ofDigits_eq_foldr, List.foldr_reverse]
  congr 1
  funext n d
  exact Nat.add_comm ..

lemma extend?_eq_some_iff :
    extend? radix m cs = some n ↔
      ∃ ds, List.Forall₂ (IsDigit radix) cs ds ∧ n = ds.foldl (fun n d => radix * n + d) m := by
  induction cs generalizing m with
  | nil =>
    rw [extend?]
    constructor
    · rintro ⟨⟩
      exact ⟨[], .nil, rfl⟩
    · rintro ⟨ds, ⟨⟩, rfl⟩
      rfl
  | cons c cs ih =>
    rw [extend?]
    constructor
    · intro h
      split at h
      · next d hd =>
        obtain ⟨ds, hds, hn⟩ := ih.1 h
        exact ⟨d :: ds, .cons (digit?_eq_some_iff.1 hd) hds, hn⟩
      · cases h
    · rintro ⟨_, hall, hn⟩
      obtain ⟨d, ds, hd, hds, rfl⟩ := List.forall₂_cons_left_iff.1 hall
      rw [digit?_eq_some_iff.2 hd]
      exact ih.2 ⟨ds, hds, hn⟩

/-- Exactly the numerals are read. -/
lemma read?_eq_some_iff : read? radix cs = some n ↔ Spells radix cs n := by
  cases cs with
  | nil =>
    constructor
    · rintro ⟨⟩
    · rintro ⟨ds, hne, hds, -⟩
      exact (hne (List.forall₂_nil_left_iff.1 hds)).elim
  | cons c cs =>
    rw [read?, if_neg (by simp), extend?_eq_some_iff]
    simp only [Spells, ofDigits_reverse]
    constructor
    · rintro ⟨ds, hds, hn⟩
      refine ⟨ds, ?_, hds, hn⟩
      rintro rfl
      cases hds
    · rintro ⟨ds, -, hds, hn⟩
      exact ⟨ds, hds, hn⟩

lemma Spells.mem (h : Spells radix cs n) (hc : c ∈ cs) :
    c ∈ "0123456789abcdefABCDEF".toList := by
  obtain ⟨ds, -, hds, -⟩ := h
  induction hds with
  | nil => cases hc
  | cons hd _ ih =>
    rcases List.mem_cons.1 hc with rfl | hc
    · exact hd.mem
    · exact ih hc

/-- Exactly the numerals with a plus sign or without one are read. -/
lemma readSigned?_eq_some_iff : readSigned? radix cs = some n ↔ SpellsSigned radix cs n := by
  constructor
  · intro h
    rw [readSigned?.eq_def] at h
    split at h
    · next digits => exact ⟨['+'], digits, .inr rfl, rfl, read?_eq_some_iff.1 h⟩
    · exact ⟨[], cs, .inl rfl, rfl, read?_eq_some_iff.1 h⟩
  · rintro ⟨sign, digits, rfl | rfl, rfl, h⟩
    · -- a sign in front would be a digit
      rw [readSigned?.eq_2, read?_eq_some_iff.2 h]
      rintro rest rfl
      exact absurd (h.mem (List.mem_cons_self ..)) (by decide)
    · exact read?_eq_some_iff.2 h

/-! ## Written numbers -/

/-- One more digit behind a numeral. -/
lemma Spells.concat (h : Spells radix cs n) (hd : IsDigit radix c d) :
    Spells radix (cs ++ [c]) (radix * n + d) := by
  obtain ⟨ds, -, hds, rfl⟩ := h
  refine ⟨ds ++ [d], by simp, List.rel_append hds (.cons hd .nil), ?_⟩
  rw [List.reverse_append, List.reverse_singleton, List.singleton_append, Nat.ofDigits_cons,
    Nat.add_comm]

/-- **A number is spelled by the digits that it is written with.** -/
lemma spells_toDigits (hone : 1 < radix) (hradix : radix ≤ 16) (n : Nat) :
    Spells radix (Nat.toDigits radix n) n := by
  induction n using Nat.strongRecOn with
  | ind n ih =>
    rw [Nat.toDigits_eq_if hone]
    split_ifs with hn
    · exact ⟨[n], by simp, .cons (isDigit_digitChar hradix hn) .nil, by simp⟩
    · have hless : n / radix < n := Nat.div_lt_self (by omega) hone
      have hdigit := isDigit_digitChar hradix (Nat.mod_lt n (Nat.zero_lt_of_lt hone))
      have hspells := (ih (n / radix) hless).concat hdigit
      rwa [Nat.div_add_mod] at hspells

end Numeral

end DeviceIdentity
