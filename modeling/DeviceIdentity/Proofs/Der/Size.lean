import DeviceIdentity.Proofs.Der.Encoding

/-!
# How long encodings are

A length field has one, two or three octets, so the size of an element jumps with that of its
content.  A content that no length field can tell has no encoding, and this is the only reason for
which an element has none.  Both facts are kept together here, so that they carry over from the
parts of an encoding to the whole of it.

* `maxContent` — the greatest length of a content; `elementLength` — the length of the element
  around it; `integerLength` — the length of the content of a number.
* `Measures` — an encoding exists exactly if the lengths of all contents in it can be told, and then
  has a given length; `Measures.bind` — this for an encoding made of another one.
* `measures_wrap?`, `measures_unsigned?`, `measures_signature?` — this for elements.
* `elementLength_mono` — a longer content makes a longer element.
-/

namespace DeviceIdentity

namespace Der

/-- The greatest length of a content. -/
def maxContent : Nat := 0xFFFF

/-- How many octets the length field of a content of `n` octets has. -/
def fieldLength (n : Nat) : Nat := if n < 0x80 then 1 else if n < 0x100 then 2 else 3

/-- How many octets the element of a content of `n` octets has: its tag, the length field, and the
content. -/
def elementLength (n : Nat) : Nat := 1 + fieldLength n + n

/-- How many octets the content of the INTEGER of a magnitude has. -/
def integerLength (magnitude : Bytes) : Nat :=
  match significant magnitude with
  | [] => 0
  | first :: rest => if 0x80 ≤ first then rest.length + 2 else rest.length + 1

lemma elementLength_mono {m n : Nat} (h : m ≤ n) : elementLength m ≤ elementLength n := by
  unfold elementLength fieldLength
  split_ifs <;> omega

lemma le_elementLength (n : Nat) : n ≤ elementLength n := Nat.le_add_left _ _

/-! ## Measured encodings -/

/-- There is an encoding exactly if the lengths of all contents in it can be told, and then it has
`n` octets. -/
structure Measures (e : Option Bytes) (contents : List Nat) (n : Nat) : Prop where
  isSome_iff : e.isSome ↔ ∀ c ∈ contents, c ≤ maxContent
  length_eq : ∀ {bs : Bytes}, e = some bs → bs.length = n

namespace Measures

variable {e : Option Bytes} {contents : List Nat} {n : Nat}

lemma exists_of_le (h : Measures e contents n) (hle : ∀ c ∈ contents, c ≤ maxContent) :
    ∃ bs : Bytes, e = some bs ∧ bs.length = n := by
  obtain ⟨bs, hbs⟩ := Option.isSome_iff_exists.1 (h.isSome_iff.2 hle)
  exact ⟨bs, hbs, h.length_eq hbs⟩

/-- An encoding of a content that an encoding gives. -/
lemma bind {f : Bytes → Option Bytes} {more : List Nat} {m : Nat} (h : Measures e contents n)
    (hf : ∀ bs, bs.length = n → Measures (f bs) more m) :
    Measures (e.bind f) (contents ++ more) m := by
  cases he : e with
  | none =>
    have hnot : ¬∀ c ∈ contents, c ≤ maxContent := by
      rw [← h.isSome_iff, he]
      exact Bool.false_ne_true
    refine ⟨⟨fun hsome => absurd hsome Bool.false_ne_true, fun hall => (hnot fun c hc => ?_).elim⟩,
      fun hsome => by cases hsome⟩
    exact hall c (List.mem_append_left more hc)
  | some bs =>
    have hfirst : ∀ c ∈ contents, c ≤ maxContent := by
      rw [← h.isSome_iff, he]
      exact Option.isSome_some
    have hbs := hf bs (h.length_eq he)
    refine ⟨?_, hbs.length_eq⟩
    rw [Option.bind_some, hbs.isSome_iff, List.forall_mem_append]
    exact (and_iff_right hfirst).symm

lemma map {f : Bytes → Bytes} {m : Nat} (h : Measures e contents n)
    (hf : ∀ bs, bs.length = n → (f bs).length = m) : Measures (e.map f) contents m where
  isSome_iff := by rw [Option.isSome_map, h.isSome_iff]
  length_eq := by
    intro bs hbs
    obtain ⟨cs, hcs, rfl⟩ := Option.map_eq_some_iff.1 hbs
    exact hf cs (h.length_eq hcs)

lemma of_eq {contents' : List Nat} {n' : Nat} (h : Measures e contents n)
    (hcontents : contents = contents') (hn : n = n') : Measures e contents' n' :=
  hcontents ▸ hn ▸ h

end Measures

lemma measures_some (bs : Bytes) : Measures (some bs) [] bs.length where
  isSome_iff := by simp
  length_eq h := by rw [Option.some.inj h]

lemma measures_lengthOctets? (n : Nat) : Measures (lengthOctets? n) [n] (fieldLength n) where
  isSome_iff := by
    rw [lengthOctets?_isSome_iff, List.forall_mem_singleton, maxContent]
    omega
  length_eq := by
    intro field h
    simp only [lengthOctets?] at h
    unfold fieldLength
    split_ifs at h ⊢ <;> cases h <;> rfl

lemma measures_header (tag : UInt8) (n : Nat) :
    Measures ((lengthOctets? n).map (tag :: ·)) [n] (1 + fieldLength n) :=
  (measures_lengthOctets? n).map fun field hfield => by rw [List.length_cons, hfield, Nat.add_comm]

/-- Too long a content has no header, and nothing is written. -/
lemma fails_header_of_lt {n : Nat} (h : maxContent < n) (tag : UInt8) (t : Tail) :
    (header tag n).Fails t .encodingFailed t := by
  have hnone : lengthOctets? n = none := by
    rw [← Option.not_isSome_iff_eq_none, lengthOctets?_isSome_iff]
    have hmax : maxContent = 0xFFFF := rfl
    omega
  refine Action.fails_bind.2 (.inl ?_)
  rw [lengthField, hnone]
  exact Action.fails_fail.2 ⟨rfl, rfl⟩

lemma measures_wrap? (tag : UInt8) {content : Bytes} {n : Nat} (hn : content.length = n) :
    Measures (wrap? tag content) [n] (elementLength n) := by
  rw [wrap?, hn]
  refine (measures_lengthOctets? n).map fun field hfield => ?_
  rw [List.length_cons, List.length_append, hfield, hn, elementLength]
  omega

/-! ## Numbers -/

lemma significant_ne_nil {magnitude : Bytes} (h : magnitude ≠ []) : significant magnitude ≠ [] := by
  fun_induction significant magnitude with
  | case1 => exact (h rfl).elim
  | case2 b => exact List.cons_ne_nil _ _
  | case3 c rest ih => exact ih (List.cons_ne_nil _ _)
  | case4 b c rest hb => exact List.cons_ne_nil _ _

/-- Every magnitude but the empty one has a content. -/
lemma exists_unsignedContent? {magnitude : Bytes} (h : magnitude ≠ []) :
    ∃ content, unsignedContent? magnitude = some content ∧
      content.length = integerLength magnitude := by
  unfold unsignedContent? integerLength
  cases hsig : significant magnitude with
  | nil => exact (significant_ne_nil h hsig).elim
  | cons first rest =>
    refine ⟨_, rfl, ?_⟩
    dsimp only
    split_ifs <;> rfl

@[simp] lemma unsigned?_nil : unsigned? [] = none := rfl

lemma measures_unsigned? {magnitude : Bytes} (h : magnitude ≠ []) :
    Measures (unsigned? magnitude) [integerLength magnitude]
      (elementLength (integerLength magnitude)) := by
  obtain ⟨content, hcontent, hlength⟩ := exists_unsignedContent? h
  rw [unsigned?, hcontent, Option.bind_some]
  exact measures_wrap? integerTag hlength

/-- A number is at most one octet longer than its magnitude. -/
lemma integerLength_le (magnitude : Bytes) : integerLength magnitude ≤ magnitude.length + 1 := by
  have hle : (significant magnitude).length ≤ magnitude.length := by
    fun_induction significant magnitude with
    | case1 => exact Nat.le_refl _
    | case2 b => exact Nat.le_refl _
    | case3 c rest ih => exact ih.trans (Nat.le_succ _)
    | case4 b c rest hb => exact Nat.le_refl _
  unfold integerLength
  split
  · exact Nat.zero_le _
  · next first rest hsig =>
    rw [hsig, List.length_cons] at hle
    split_ifs <;> omega

/-! ## Signatures -/

/-- The first half of a raw signature. -/
def firstHalf (pair : Bytes) : Bytes := pair.take (pair.length / 2)

/-- The second half of a raw signature, with the octet in the middle if there is one. -/
def secondHalf (pair : Bytes) : Bytes := pair.drop (pair.length / 2)

/-- The halves of a raw signature are equally long and not zero. -/
structure IsPair (pair : Bytes) : Prop where
  even : pair.length % 2 = 0
  first : ∃ b ∈ firstHalf pair, b ≠ 0
  second : ∃ b ∈ secondHalf pair, b ≠ 0

/-- The lengths of the contents of a signature. -/
def signatureContents (pair : Bytes) : List Nat :=
  [integerLength (secondHalf pair), integerLength (firstHalf pair),
    elementLength (integerLength (firstHalf pair)) +
      elementLength (integerLength (secondHalf pair))]

/-- How many octets a signature has. -/
def signatureSize (pair : Bytes) : Nat :=
  elementLength (elementLength (integerLength (firstHalf pair)) +
    elementLength (integerLength (secondHalf pair)))

lemma all_zero_eq_false_iff {half : Bytes} :
    half.all (· == 0) = false ↔ ∃ b ∈ half, b ≠ 0 := by
  simp

/-- A half that is zero, or has no octets, has no encoding. -/
lemma signatureHalf?_of_zero {half : Bytes} (h : ¬∃ b ∈ half, b ≠ 0) :
    signatureHalf? half = none := by
  rw [← all_zero_eq_false_iff, Bool.not_eq_false] at h
  exact if_pos h

lemma signatureHalf?_of_ne_zero {half : Bytes} (h : ∃ b ∈ half, b ≠ 0) :
    signatureHalf? half = unsigned? half := by
  rw [← all_zero_eq_false_iff] at h
  exact if_neg (ne_true_of_eq_false h)

lemma measures_signatureHalf? {half : Bytes} (h : ∃ b ∈ half, b ≠ 0) :
    Measures (signatureHalf? half) [integerLength half] (elementLength (integerLength half)) := by
  obtain ⟨b, hb, -⟩ := id h
  rw [signatureHalf?_of_ne_zero h]
  exact measures_unsigned? (List.ne_nil_of_mem hb)

section Signature

variable {pair : Bytes}

lemma IsPair.ne_nil (h : IsPair pair) : pair ≠ [] := by
  rintro rfl
  obtain ⟨b, hb, -⟩ := h.first
  cases hb

/-- Only two equally long halves are encoded, the second one first. -/
lemma signature?_of_even (hne : pair ≠ []) (heven : pair.length % 2 = 0) :
    signature? pair = (signatureHalf? (secondHalf pair)).bind fun s =>
      (signatureHalf? (firstHalf pair)).bind fun r => wrap? sequenceTag (r ++ s) := by
  refine if_neg ?_
  simp [hne, heven]

lemma measures_signature? (h : IsPair pair) :
    Measures (signature? pair) (signatureContents pair) (signatureSize pair) := by
  rw [signature?_of_even h.ne_nil h.even]
  refine ((measures_signatureHalf? h.second).bind fun s hs =>
    (measures_signatureHalf? h.first).bind fun r hr => measures_wrap? sequenceTag ?_).of_eq rfl rfl
  rw [List.length_append, hr, hs]

lemma signature?_of_not_isPair (h : ¬IsPair pair) : signature? pair = none := by
  by_cases hshape : pair ≠ [] ∧ pair.length % 2 = 0
  · obtain ⟨hne, heven⟩ := hshape
    rw [signature?_of_even hne heven]
    by_cases hsecond : ∃ b ∈ secondHalf pair, b ≠ 0
    · have hfirst : ¬∃ b ∈ firstHalf pair, b ≠ 0 := fun hfirst => h ⟨heven, hfirst, hsecond⟩
      rw [signatureHalf?_of_zero hfirst]
      cases signatureHalf? (secondHalf pair) <;> rfl
    · rw [signatureHalf?_of_zero hsecond]
      rfl
  · refine if_pos ?_
    by_cases hne : pair = []
    · simp [hne]
    · simpa [hne] using hshape

end Signature

end Der

end DeviceIdentity
