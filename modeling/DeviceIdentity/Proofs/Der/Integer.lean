import DeviceIdentity.Proofs.Der.Size

/-!
# Numbers keep their value

The content of an INTEGER is a number in two's complement, in as few octets as it can be written in.
A magnitude has no sign, so its leading zeros are left out and one zero octet is put back where the
number would be read as negative.  What is written then is the one shortest content of that value.

* `twosComplement` — the value of a content; `nineBits`, `IsMinimal` — the content is the shortest
  for its value.
* `signed?_eq_some_iff` — what the strict reader accepts are these contents.
* `IsInteger`, `IsSignature` — octets are one INTEGER of a value, or one SEQUENCE of two of them.
* `fails_unsigned_iff`, `fails_signature_iff` — when the writer refuses its argument.
* **`numbers_keep_their_value`** — what is written has the value that was given.
-/

namespace DeviceIdentity

namespace Der

/-! ## Values in two's complement -/

/-- The value of a content in two's complement, most significant octet first. -/
def twosComplement (content : Bytes) : Int :=
  Bytes.toNat content - if 0x80 ≤ content.headD 0 then 256 ^ content.length else 0

/-- The first nine bits, as a number. -/
def nineBits (content : Bytes) : Nat := Bytes.toNat (content.take 2) / 2 ^ 7

/-- A content is shortest when it has at least one octet and, with more than one, its first nine
bits are neither all zero nor all one. -/
structure IsMinimal (content : Bytes) : Prop where
  ne_nil : content ≠ []
  not_zeros : 1 < content.length → nineBits content ≠ 0
  not_ones : 1 < content.length → nineBits content ≠ 2 ^ 9 - 1

/-- The octets are one INTEGER of the given value. -/
def IsInteger (bs : Bytes) (value : Int) : Prop :=
  ∃ content, unwrap? integerTag bs = some content ∧ IsMinimal content ∧
    twosComplement content = value

/-- The octets are one SEQUENCE of two INTEGERs of the given values. -/
def IsSignature (bs : Bytes) (r s : Int) : Prop :=
  ∃ first second, unwrap? sequenceTag bs = some (first ++ second) ∧ IsInteger first r ∧
    IsInteger second s

lemma nineBits_cons (first next : UInt8) (rest : Bytes) :
    nineBits (first :: next :: rest) = 2 * first.toNat + next.toNat / 128 := by
  have hvalue : Bytes.toNat [first, next] = 256 * first.toNat + next.toNat := by
    simp [Bytes.toNat]
  rw [nineBits, List.take_succ_cons, List.take_succ_cons, List.take_zero, hvalue]
  omega

/-- The first octet of a shortest content cannot be left out. -/
lemma isMinimal_cons_iff {first : UInt8} {rest : Bytes} :
    IsMinimal (first :: rest) ↔
      ¬(first = 0x00 ∧ ∃ next ∈ rest.head?, next < 0x80) ∧
        ¬(first = 0xFF ∧ ∃ next ∈ rest.head?, 0x80 ≤ next) := by
  cases rest with
  | nil =>
    have hone : ¬1 < [first].length := lt_irrefl 1
    refine ⟨fun _ => by simp, fun _ => ⟨List.cons_ne_nil _ _, ?_, ?_⟩⟩
    · exact fun h => (hone h).elim
    · exact fun h => (hone h).elim
  | cons next more =>
    have hfirst := first.toNat_lt
    have hnext := next.toNat_lt
    have htwo : 1 < (first :: next :: more).length := by simp
    have hzeros : nineBits (first :: next :: more) = 0 ↔ first = 0x00 ∧ next < 0x80 := by
      rw [nineBits_cons, ← UInt8.toNat_inj, UInt8.lt_iff_toNat_lt]
      simp only [UInt8.reduceToNat]
      omega
    have hones : nineBits (first :: next :: more) = 2 ^ 9 - 1 ↔ first = 0xFF ∧ 0x80 ≤ next := by
      rw [nineBits_cons, ← UInt8.toNat_inj, UInt8.le_iff_toNat_le]
      simp only [UInt8.reduceToNat]
      omega
    simp only [List.head?_cons, Option.mem_some_iff, exists_eq_left', ← hzeros, ← hones]
    exact ⟨fun h => ⟨h.not_zeros htwo, h.not_ones htwo⟩,
      fun h => ⟨List.cons_ne_nil _ _, fun _ => h.1, fun _ => h.2⟩⟩

/-- The strict reader accepts the shortest contents, and gives their values. -/
lemma signed?_eq_some_iff {content : Bytes} {value : Int} :
    signed? content = some value ↔ IsMinimal content ∧ twosComplement content = value := by
  cases content with
  | nil => exact iff_of_false (Option.some_ne_none _).symm fun h => h.1.ne_nil rfl
  | cons first rest =>
    rw [signed?, isMinimal_cons_iff]
    by_cases hzeros : first = 0x00 ∧ ∃ next ∈ rest.head?, next < 0x80
    · rw [if_pos hzeros]
      exact iff_of_false (Option.some_ne_none _).symm fun h => h.1.1 hzeros
    by_cases hones : first = 0xFF ∧ ∃ next ∈ rest.head?, 0x80 ≤ next
    · rw [if_neg hzeros, if_pos hones]
      exact iff_of_false (Option.some_ne_none _).symm fun h => h.1.2 hones
    have hvalue : (if first < 0x80 then some (Bytes.toNat (first :: rest) : Int)
        else some (Bytes.toNat (first :: rest) - 256 ^ (first :: rest).length)) =
          some (twosComplement (first :: rest)) := by
      rw [twosComplement, List.headD_cons]
      by_cases hlow : first < 0x80
      · rw [if_pos hlow, if_neg (UInt8.not_le.2 hlow), sub_zero]
      · rw [if_neg hlow, if_pos (UInt8.not_lt.1 hlow)]
    rw [if_neg hzeros, if_neg hones, hvalue, Option.some.injEq]
    exact (and_iff_right ⟨hzeros, hones⟩).symm

lemma isInteger_of_unsigned? {magnitude bs : Bytes} (h : unsigned? magnitude = some bs) :
    IsInteger bs (Bytes.toNat magnitude) := by
  obtain ⟨content, hcontent, hbs⟩ := Option.bind_eq_some_iff.1 h
  have hvalue := signed?_eq_some_iff.1 (signed?_of_unsignedContent? hcontent)
  exact ⟨content, unwrap?_of_wrap? hbs, hvalue⟩

lemma isSignature_of_signature? {pair bs : Bytes} (h : signature? pair = some bs) :
    IsSignature bs (Bytes.toNat (firstHalf pair)) (Bytes.toNat (secondHalf pair)) := by
  have hpair : IsPair pair := by
    by_contra hnot
    rw [signature?_of_not_isPair hnot] at h
    cases h
  rw [signature?_of_even hpair.ne_nil hpair.even, signatureHalf?_of_ne_zero hpair.first,
    signatureHalf?_of_ne_zero hpair.second] at h
  obtain ⟨second, hsecond, h⟩ := Option.bind_eq_some_iff.1 h
  obtain ⟨first, hfirst, hbs⟩ := Option.bind_eq_some_iff.1 h
  exact ⟨first, second, unwrap?_of_wrap? hbs, isInteger_of_unsigned? hfirst,
    isInteger_of_unsigned? hsecond⟩

/-! ## What is refused -/

section Refused

variable {magnitude half pair : Bytes} {t : Tail}

/-- A step that puts octets in front does not refuse its argument. -/
lemma Prepends.not_refused {step : Write Nat} {bs : Bytes} (h : Prepends step bs) :
    ¬∃ u, step.Fails t .encodingFailed u :=
  fun ⟨_, hfails⟩ => Failure.noConfusion (h.eq_bufferTooSmall hfails)

lemma prepends_unsigned (hfits : integerLength magnitude ≤ maxContent) (hne : magnitude ≠ []) :
    ∃ bs, unsigned? magnitude = some bs ∧ bs.length = elementLength (integerLength magnitude) ∧
      Prepends (unsigned magnitude) bs := by
  obtain ⟨bs, hbs, hlength⟩ := (measures_unsigned? hne).exists_of_le (by simpa using hfits)
  exact ⟨bs, hbs, hlength, (encodes_unsigned magnitude).prepends hbs⟩

lemma prepends_signatureHalf (hfits : integerLength half ≤ maxContent) (hhalf : ∃ b ∈ half, b ≠ 0) :
    ∃ bs, bs.length = elementLength (integerLength half) ∧ Prepends (signatureHalf half) bs := by
  obtain ⟨bs, hbs, hlength⟩ := (measures_signatureHalf? hhalf).exists_of_le (by simpa using hfits)
  exact ⟨bs, hlength, (encodes_signatureHalf half).prepends hbs⟩

lemma prepends_signature (hfits : ∀ c ∈ signatureContents pair, c ≤ maxContent)
    (hpair : IsPair pair) : ∃ bs, signature? pair = some bs ∧ Prepends (signature pair) bs := by
  obtain ⟨bs, hbs, -⟩ := (measures_signature? hpair).exists_of_le hfits
  exact ⟨bs, hbs, (encodes_signature pair).prepends hbs⟩

/-- Only an empty magnitude is refused. -/
lemma fails_unsigned_iff (hfits : integerLength magnitude ≤ maxContent) :
    (∃ u, (unsigned magnitude).Fails t .encodingFailed u) ↔ magnitude = [] := by
  constructor
  · intro hfails
    by_contra hne
    obtain ⟨bs, -, -, hprepends⟩ := prepends_unsigned hfits hne
    exact hprepends.not_refused hfails
  · rintro rfl
    exact ⟨t, Action.fails_fail.2 ⟨rfl, rfl⟩⟩

lemma fails_signatureHalf_of_zero (h : ¬∃ b ∈ half, b ≠ 0) :
    (signatureHalf half).Fails t .encodingFailed t := by
  rw [← all_zero_eq_false_iff, Bool.not_eq_false] at h
  rw [signatureHalf, if_pos h]
  exact Action.fails_fail.2 ⟨rfl, rfl⟩

/-- Anything but two equally long halves that are not zero is refused, once there is room for the
second half, which is written first. -/
lemma fails_signature_iff (hfits : ∀ c ∈ signatureContents pair, c ≤ maxContent)
    (hroom : elementLength (integerLength (secondHalf pair)) ≤ t.free.length) :
    (∃ u, (signature pair).Fails t .encodingFailed u) ↔ ¬IsPair pair := by
  constructor
  · intro hfails hpair
    obtain ⟨bs, -, hprepends⟩ := prepends_signature hfits hpair
    exact hprepends.not_refused hfails
  · intro hnot
    unfold signature
    split_ifs with hshape
    · exact ⟨t, Action.fails_fail.2 ⟨rfl, rfl⟩⟩
    have heven : pair.length % 2 = 0 := by
      simp only [Bool.or_eq_true, not_or] at hshape
      simpa using hshape.2
    by_cases hsecond : ∃ b ∈ secondHalf pair, b ≠ 0
    · have hfirst : ¬∃ b ∈ firstHalf pair, b ≠ 0 := fun hfirst => hnot ⟨heven, hfirst, hsecond⟩
      obtain ⟨bs, hlength, hprepends⟩ :=
        prepends_signatureHalf (hfits _ (List.mem_cons_self ..)) hsecond
      have hwritten := (hprepends t).1.2 (hlength ▸ hroom)
      exact ⟨_, Action.fails_bind.2 (.inr ⟨_, _, hwritten, Action.fails_bind.2
        (.inl (fails_signatureHalf_of_zero hfirst))⟩)⟩
    · exact ⟨t, Action.fails_bind.2 (.inl (fails_signatureHalf_of_zero hsecond))⟩

end Refused

lemma not_isPair_iff {pair : Bytes} :
    ¬IsPair pair ↔ pair = [] ∨ pair.length % 2 = 1 ∨ (∀ b ∈ firstHalf pair, b = 0) ∨
      ∀ b ∈ secondHalf pair, b = 0 := by
  constructor
  · intro hnot
    by_contra hall
    simp only [not_or, not_forall] at hall
    obtain ⟨-, hodd, ⟨b, hb, hb0⟩, ⟨c, hc, hc0⟩⟩ := hall
    exact hnot ⟨by omega, ⟨b, hb, hb0⟩, ⟨c, hc, hc0⟩⟩
  · rintro (rfl | hodd | hfirst | hsecond) hpair
    · exact hpair.ne_nil rfl
    · have heven := hpair.even
      omega
    · obtain ⟨b, hb, hb0⟩ := hpair.first
      exact hb0 (hfirst b hb)
    · obtain ⟨b, hb, hb0⟩ := hpair.second
      exact hb0 (hsecond b hb)

/-! ## The main result -/

/-- **Numbers keep their value.**  As long as no content is too long, only an empty magnitude is
refused, and every other one is put in front as one INTEGER in its shortest form, whose value in
two's complement is the number that the magnitude spells.  A raw signature is refused exactly if it
is empty, of odd length, or has a half that is zero, and otherwise put in front as one SEQUENCE of
two such numbers, those of the first and of the second half. -/
theorem numbers_keep_their_value :
    (∀ magnitude : Bytes, integerLength magnitude ≤ maxContent →
      (∀ t : Tail, (∃ u, (unsigned magnitude).Fails t .encodingFailed u) ↔ magnitude = []) ∧
      (magnitude ≠ [] → ∃ bs, IsInteger bs (Bytes.toNat magnitude) ∧
        Prepends (unsigned magnitude) bs)) ∧
    (∀ pair : Bytes, (∀ c ∈ signatureContents pair, c ≤ maxContent) →
      (∀ t : Tail, elementLength (integerLength (secondHalf pair)) ≤ t.free.length →
        ((∃ u, (signature pair).Fails t .encodingFailed u) ↔
          pair = [] ∨ pair.length % 2 = 1 ∨ (∀ b ∈ firstHalf pair, b = 0) ∨
            ∀ b ∈ secondHalf pair, b = 0)) ∧
      (¬(pair = [] ∨ pair.length % 2 = 1 ∨ (∀ b ∈ firstHalf pair, b = 0) ∨
            ∀ b ∈ secondHalf pair, b = 0) →
        ∃ bs, IsSignature bs (Bytes.toNat (firstHalf pair)) (Bytes.toNat (secondHalf pair)) ∧
          Prepends (signature pair) bs)) := by
  refine ⟨fun magnitude hfits => ⟨fun t => fails_unsigned_iff hfits, fun hne => ?_⟩,
    fun pair hfits => ⟨fun t hroom => ?_, fun hgood => ?_⟩⟩
  · obtain ⟨bs, hbs, -, hprepends⟩ := prepends_unsigned hfits hne
    exact ⟨bs, isInteger_of_unsigned? hbs, hprepends⟩
  · rw [← not_isPair_iff]
    exact fails_signature_iff hfits hroom
  · rw [← not_isPair_iff, not_not] at hgood
    obtain ⟨bs, hbs, hprepends⟩ := prepends_signature hfits hgood
    exact ⟨bs, isSignature_of_signature? hbs, hprepends⟩

/-- A number with a leading zero and a high bit, a signature of two such halves, and a signature
with a half that is zero. -/
theorem numbers_keep_their_value_plain :
    (∃ bs, IsInteger bs 128 ∧ Prepends (unsigned [0x00, 0x80]) bs) ∧
      (∃ bs, IsSignature bs 128 65281 ∧ Prepends (signature [0x00, 0x80, 0xFF, 0x01]) bs) ∧
      (∃ u, (signature [0x00, 0x00, 0x00, 0x01]).Fails (Tail.zeros 8) .encodingFailed u) := by
  obtain ⟨hnumbers, hsignatures⟩ := numbers_keep_their_value
  refine ⟨?_, ?_, ?_⟩
  · exact (hnumbers [0x00, 0x80] (by decide)).2 (by decide)
  · exact (hsignatures [0x00, 0x80, 0xFF, 0x01] (by decide)).2 (by simp [firstHalf, secondHalf])
  · exact ((hsignatures [0x00, 0x00, 0x00, 0x01] (by decide)).1 (Tail.zeros 8) (by decide)).2
      (by simp [firstHalf])

end Der

end DeviceIdentity
