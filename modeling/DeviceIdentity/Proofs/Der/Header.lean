import Mathlib.Data.List.Infix
import Mathlib.Tactic.Lemma
import Mathlib.Tactic.SplitIfs
import DeviceIdentity.Der.Header

/-!
# What a header says

The length of a content can be told in up to three ways, and the reader takes each of them, the
shortest or not.  What it takes is still told apart from what follows: the first octet of a length
field says how many octets the field has.

* `IsLengthField` — the length fields of a length; `isLengthField_lengthOctets?` — the one that is
  written is one of them, and `length_lengthOctets?_le_of_isLengthField` — none is shorter.
* `read_eq_ok_iff` — what is read is a tag, a length field, and anything after it.
* `checkSequence_eq_ok_iff` — what passes for a sequence is a header and a content as long as it
  says.
* `eq_nil_of_checkSequence` — of two sequences neither goes on where the other one ends.
-/

namespace DeviceIdentity

lemma Der.toNat_ofNat_of_lt {n : Nat} (h : n < 0x100) : (UInt8.ofNat n).toNat = n :=
  UInt8.toNat_ofNat_of_lt' h

namespace DerHeader

/-! ## Length fields -/

/-- A length field for a length: the length itself, or behind a mark in one octet or in two. -/
inductive IsLengthField (n : Nat) : Bytes → Prop
  | short {first : UInt8} (h : first < 0x80) (value : first.toNat = n) : IsLengthField n [first]
  | one {octet : UInt8} (value : octet.toNat = n) : IsLengthField n [0x81, octet]
  | two {high low : UInt8} (value : 256 * high.toNat + low.toNat = n) :
      IsLengthField n [0x82, high, low]

variable {n m : Nat} {field field' bs : Bytes} {header : DerHeader}

/-- A length field has at most three octets. -/
lemma IsLengthField.length_le (h : IsLengthField n field) : field.length ≤ 3 := by
  cases h <;> simp

/-- The length field that is written is a length field. -/
lemma isLengthField_lengthOctets? (h : Der.lengthOctets? n = some field) :
    IsLengthField n field := by
  unfold Der.lengthOctets? at h
  split_ifs at h with hshort hone htwo
  · obtain rfl := Option.some.inj h
    have hn : (UInt8.ofNat n).toNat = n := Der.toNat_ofNat_of_lt (by omega)
    refine .short ?_ hn
    rw [UInt8.lt_iff_toNat_lt, hn]
    exact hshort
  · obtain rfl := Option.some.inj h
    exact .one (Der.toNat_ofNat_of_lt hone)
  · obtain rfl := Option.some.inj h
    refine .two ?_
    rw [Der.toNat_ofNat_of_lt (by omega), Der.toNat_ofNat_of_lt (by omega), Nat.div_add_mod]

/-- No length field is shorter than the one that is written. -/
lemma length_lengthOctets?_le_of_isLengthField (h : Der.lengthOctets? n = some field)
    (h' : IsLengthField n field') : field.length ≤ field'.length := by
  unfold Der.lengthOctets? at h
  cases h' with
  | @short first hlt hn =>
    have hshort : n < 0x80 := hn ▸ UInt8.lt_iff_toNat_lt.1 hlt
    rw [if_pos hshort] at h
    cases h
    exact Nat.le_refl 1
  | @one octet hn =>
    have hone : n < 0x100 := hn ▸ octet.toNat_lt
    split_ifs at h <;> cases h <;> simp
  | two => split_ifs at h <;> cases h <;> simp

/-! ## Reading -/

/-- A length field is read, whatever stands in front of it and behind it. -/
lemma read_of_isLengthField (h : IsLengthField n field) (tag : UInt8) (rest : Bytes) :
    read (tag :: (field ++ rest)) = .ok ⟨tag, n, 1 + field.length⟩ := by
  cases h with
  | short h hn =>
    rw [← hn]
    exact if_pos h
  | one hn => rw [← hn]; rfl
  | two hn => rw [← hn]; rfl

/-- What is read is a tag and a length field. -/
lemma read_eq_ok_iff :
    read bs = .ok header ↔
      ∃ field rest, IsLengthField header.contentLength field ∧
        header.headerLength = 1 + field.length ∧ bs = header.tag :: (field ++ rest) := by
  constructor
  · intro h
    unfold read at h
    split at h
    · next tag first rest =>
      split_ifs at h with hshort hone htwo
      · obtain rfl := Except.ok.inj h
        exact ⟨[first], rest, .short hshort rfl, rfl, rfl⟩
      · split at h
        · next n more =>
          obtain rfl := Except.ok.inj h
          exact ⟨[0x81, n], more, .one rfl, rfl, by rw [hone]; rfl⟩
        · cases h
      · split at h
        · next high low more =>
          obtain rfl := Except.ok.inj h
          exact ⟨[0x82, high, low], more, .two rfl, rfl, by rw [htwo]; rfl⟩
        · cases h
    · cases h
  · rintro ⟨field, rest, hfield, hlength, rfl⟩
    rw [read_of_isLengthField hfield, ← hlength]

/-- Octets that are not read have no header. -/
lemma eq_encodingFailed_of_read {e : Failure} (h : read bs = .error e) : e = .encodingFailed := by
  unfold read at h
  split at h
  · split_ifs at h
    · split at h <;> cases h
      rfl
    · split at h <;> cases h
      rfl
    · cases h
      rfl
  · cases h
    rfl

/-! ## One sequence and nothing else -/

/-- What passes for a sequence is a header and a content as long as it says. -/
lemma checkSequence_eq_ok_iff :
    checkSequence bs = .ok n ↔
      ∃ field content, IsLengthField n field ∧ content.length = n ∧
        bs = Der.sequenceTag :: (field ++ content) := by
  constructor
  · intro h
    cases hread : read bs with
    | error e =>
      rw [checkSequence, hread] at h
      cases h
    | ok header =>
      simp only [checkSequence, hread, bind, Except.bind] at h
      split_ifs at h with hsequence
      obtain rfl := Except.ok.inj h
      obtain ⟨field, content, hfield, hheader, rfl⟩ := read_eq_ok_iff.1 hread
      obtain ⟨htag, hlength⟩ := hsequence
      refine ⟨field, content, hfield, ?_, by rw [htag]⟩
      rw [hheader, List.length_cons, List.length_append] at hlength
      omega
  · rintro ⟨field, content, hfield, rfl, rfl⟩
    have hlength : 1 + field.length + content.length =
        (Der.sequenceTag :: (field ++ content)).length := by
      rw [List.length_cons, List.length_append]
      omega
    rw [checkSequence, read_of_isLengthField hfield]
    exact if_pos ⟨rfl, hlength⟩

lemma eq_encodingFailed_of_checkSequence {e : Failure} (h : checkSequence bs = .error e) :
    e = .encodingFailed := by
  cases hread : read bs with
  | error e' =>
    rw [checkSequence, hread] at h
    cases h
    exact eq_encodingFailed_of_read hread
  | ok header =>
    simp only [checkSequence, hread, bind, Except.bind] at h
    split_ifs at h
    · cases h
    · exact (Except.error.inj h).symm

/-- What does not pass is refused as malformed. -/
lemma checkSequence_eq_error (h : ¬∃ n, checkSequence bs = .ok n) :
    checkSequence bs = .error .encodingFailed := by
  cases hcheck : checkSequence bs with
  | ok n => exact (h ⟨n, hcheck⟩).elim
  | error e => rw [eq_encodingFailed_of_checkSequence hcheck]

/-- Of two sequences neither goes on where the other one ends. -/
lemma eq_nil_of_checkSequence {more : Bytes} (h : checkSequence bs = .ok n)
    (h' : checkSequence (bs ++ more) = .ok m) : more = [] := by
  obtain ⟨field, content, hfield, hcontent, rfl⟩ := checkSequence_eq_ok_iff.1 h
  obtain ⟨field', content', hfield', hcontent', heq⟩ := checkSequence_eq_ok_iff.1 h'
  -- the same octets have one header only, so both contents are equally long
  have hread := read_of_isLengthField hfield Der.sequenceTag (content ++ more)
  rw [← List.append_assoc, ← List.cons_append, heq, read_of_isLengthField hfield'] at hread
  obtain ⟨-, hlength, hheader⟩ := DerHeader.mk.inj (Except.ok.inj hread)
  have hall := congrArg List.length heq
  simp only [List.length_cons, List.length_append] at hall
  refine List.eq_nil_of_length_eq_zero ?_
  omega

end DerHeader

end DeviceIdentity
