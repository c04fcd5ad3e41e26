import DeviceIdentity.Proofs.Bytes
import DeviceIdentity.Proofs.Der.Header

/-!
# Elements of DER, read strictly

An element is a tag of one octet, the length of its content, and the content.  The reader here is
independent of the writer: it takes a length of any width and refuses every length field that is
not the shortest one.

* `wrap?` — the one encoding of an element, for a content that the writer can measure.
* `readElement?` — reads one element; `unwrap?` reads one element of a given tag and nothing more,
  `elements?` a sequence of elements and nothing more.
* `signed?` — the number of a content in two's complement, refused unless it is the shortest.
* `readElement?_append` — an encoded element reads back, whatever follows.
* `elements?_flatten` — a sequence of encoded elements reads back.
* `checkSequence_of_wrap?` — a sequence that is written passes for one sequence.
* `signed?_of_unsignedContent?` — the content of a written number reads back as the number.
-/

namespace DeviceIdentity

namespace Der

/-! ## Writing an element -/

/-- The element of a tag and a content. -/
def wrap? (tag : UInt8) (content : Bytes) : Option Bytes :=
  (lengthOctets? content.length).map fun field => tag :: (field ++ content)

/-- The content of a non-negative INTEGER. -/
def unsignedContent? (magnitude : Bytes) : Option Bytes :=
  match significant magnitude with
  | [] => none
  | first :: rest => some (if 0x80 ≤ first then 0x00 :: first :: rest else first :: rest)

/-! ## Reading an element -/

/-- An element as it is read: its tag and its content. -/
structure Element where
  tag : UInt8
  content : Bytes

/-- Reads a length field.  The long form is refused where the short form, or a long form of fewer
octets, says the same. -/
def readLength? : Bytes → Option (Nat × Bytes)
  | [] => none
  | first :: rest =>
    if first < 0x80 then some (first.toNat, rest)
    else
      let width := first.toNat - 0x80
      let n := Bytes.toNat (rest.take width)
      if first ≠ 0xFF ∧ width ≤ rest.length ∧ rest.head? ≠ some 0x00 ∧ 0x80 ≤ n then
        some (n, rest.drop width)
      else none

/-- Reads one element.  Also returns what follows. -/
def readElement? : Bytes → Option (Element × Bytes)
  | [] => none
  | tag :: rest => do
    let (n, rest) ← readLength? rest
    if n ≤ rest.length then some (⟨tag, rest.take n⟩, rest.drop n) else none

/-- The content of the one element of tag `tag` that `bs` is. -/
def unwrap? (tag : UInt8) (bs : Bytes) : Option Bytes :=
  match readElement? bs with
  | some (element, []) => if element.tag = tag then some element.content else none
  | _ => none

lemma readLength?_length {bs rest : Bytes} {n : Nat} (h : readLength? bs = some (n, rest)) :
    rest.length < bs.length := by
  cases bs with
  | nil => cases h
  | cons first after =>
    simp only [readLength?] at h
    split_ifs at h with hshort hlong
    · cases h
      simp
    · obtain ⟨-, rfl⟩ := Prod.mk.inj (Option.some.inj h)
      simp only [List.length_drop, List.length_cons]
      omega

lemma readElement?_length {bs rest : Bytes} {e : Element}
    (h : readElement? bs = some (e, rest)) : rest.length < bs.length := by
  cases bs with
  | nil => cases h
  | cons tag after =>
    obtain ⟨⟨n, more⟩, hlength, h⟩ := Option.bind_eq_some_iff.1 h
    simp only at h
    split_ifs at h
    cases h
    have hshorter := readLength?_length hlength
    simp only [List.length_drop, List.length_cons]
    omega

/-- The elements, each with its header, that `bs` is made of. -/
def elements? (bs : Bytes) : Option (List Bytes) :=
  if bs = [] then some []
  else
    match _h : readElement? bs with
    | none => none
    | some (_, rest) =>
      (elements? rest).map (bs.take (bs.length - rest.length) :: ·)
termination_by bs.length
decreasing_by exact readElement?_length _h

/-- The bits of a BIT STRING that leaves no bit unused. -/
def bits? (bs : Bytes) : Option Bytes :=
  match unwrap? bitStringTag bs with
  | some (0x00 :: bits) => some bits
  | _ => none

/-- The number in two's complement, most significant octet first.  A number is refused when its
first nine bits are all equal, since the first octet could be left out then. -/
def signed? : Bytes → Option Int
  | [] => none
  | first :: rest =>
    if first = 0x00 ∧ (∃ next ∈ rest.head?, next < 0x80) then none
    else if first = 0xFF ∧ (∃ next ∈ rest.head?, 0x80 ≤ next) then none
    else if first < 0x80 then some (Bytes.toNat (first :: rest))
    else some (Bytes.toNat (first :: rest) - 256 ^ (first :: rest).length)

/-- The number of an INTEGER. -/
def integer? (bs : Bytes) : Option Int := (unwrap? integerTag bs).bind signed?

/-! ## What is written reads back -/

lemma readLength?_append {n : Nat} {field : Bytes} (h : lengthOctets? n = some field)
    (rest : Bytes) : readLength? (field ++ rest) = some (n, rest) := by
  simp only [lengthOctets?] at h
  split_ifs at h with hshort hone htwo
  · cases h
    have hn := toNat_ofNat_of_lt (lt_trans hshort (by decide))
    have hlt : UInt8.ofNat n < 0x80 := by
      rw [UInt8.lt_iff_toNat_lt, hn]
      exact hshort
    rw [List.singleton_append, readLength?, if_pos hlt, hn]
  · cases h
    have hn := toNat_ofNat_of_lt hone
    have hvalue : Bytes.toNat [UInt8.ofNat n] = n := by
      rw [← List.nil_append [UInt8.ofNat n], Bytes.toNat_concat, Bytes.toNat_nil, hn]
      omega
    have hhead : UInt8.ofNat n ≠ 0x00 := by
      intro h0
      rw [h0] at hn
      have hzero : (0x00 : UInt8).toNat = 0 := rfl
      omega
    have hlong : ¬(0x81 : UInt8) < 0x80 := by decide
    have hwidth : (0x81 : UInt8).toNat - 0x80 = 1 := rfl
    rw [List.cons_append, List.singleton_append, readLength?, if_neg hlong]
    simp only [hwidth, List.take_succ_cons, List.take_zero, hvalue, List.drop_succ_cons,
      List.drop_zero, List.length_cons, List.head?_cons]
    refine if_pos ⟨by decide, by omega, ?_, by omega⟩
    exact fun h0 => hhead (Option.some.inj h0)
  · cases h
    have hhi := toNat_ofNat_of_lt (n := n / 256) (by omega)
    have hlo := toNat_ofNat_of_lt (n := n % 256) (by omega)
    have hvalue : Bytes.toNat [UInt8.ofNat (n / 256), UInt8.ofNat (n % 256)] = n := by
      change Bytes.toNat (([] ++ [UInt8.ofNat (n / 256)]) ++ [UInt8.ofNat (n % 256)]) = n
      rw [Bytes.toNat_concat, Bytes.toNat_concat, Bytes.toNat_nil, hhi, hlo]
      omega
    have hhead : UInt8.ofNat (n / 256) ≠ 0x00 := by
      intro h0
      rw [h0] at hhi
      have hzero : (0x00 : UInt8).toNat = 0 := rfl
      omega
    have hlong : ¬(0x82 : UInt8) < 0x80 := by decide
    have hwidth : (0x82 : UInt8).toNat - 0x80 = 2 := rfl
    rw [List.cons_append, List.cons_append, List.singleton_append, readLength?, if_neg hlong]
    simp only [hwidth, List.take_succ_cons, List.take_zero, hvalue, List.drop_succ_cons,
      List.drop_zero, List.length_cons, List.head?_cons]
    refine if_pos ⟨by decide, by omega, ?_, by omega⟩
    exact fun h0 => hhead (Option.some.inj h0)

section Wrap

variable {tag : UInt8} {content bs : Bytes}

lemma readElement?_append (h : wrap? tag content = some bs) (rest : Bytes) :
    readElement? (bs ++ rest) = some (⟨tag, content⟩, rest) := by
  obtain ⟨field, hfield, rfl⟩ := Option.map_eq_some_iff.1 h
  have hle : content.length ≤ (content ++ rest).length := by simp
  rw [List.cons_append, List.append_assoc, readElement?, readLength?_append hfield]
  simp only [Option.bind_eq_bind, Option.bind_some]
  rw [if_pos hle, List.take_left, List.drop_left]

lemma unwrap?_of_wrap? (h : wrap? tag content = some bs) : unwrap? tag bs = some content := by
  have hread := readElement?_append h []
  rw [List.append_nil] at hread
  rw [unwrap?, hread]
  exact if_pos rfl

lemma bits?_of_wrap? {bits : Bytes} (h : wrap? bitStringTag (0x00 :: bits) = some bs) :
    bits? bs = some bits := by
  rw [bits?, unwrap?_of_wrap? h]
  rfl

lemma wrap?_ne_nil (h : wrap? tag content = some bs) : bs ≠ [] := by
  obtain ⟨field, -, rfl⟩ := Option.map_eq_some_iff.1 h
  simp

lemma length_lengthOctets?_le {n : Nat} {field : Bytes} (h : lengthOctets? n = some field) :
    field.length ≤ 3 := by
  simp only [lengthOctets?] at h
  split_ifs at h <;> cases h <;> simp

/-- A header has at most four octets. -/
lemma length_wrap?_le (h : wrap? tag content = some bs) : bs.length ≤ content.length + 4 := by
  obtain ⟨field, hfield, rfl⟩ := Option.map_eq_some_iff.1 h
  have hle := length_lengthOctets?_le hfield
  rw [List.length_cons, List.length_append]
  omega

end Wrap

@[simp] lemma elements?_nil : elements? [] = some [] := by
  rw [elements?, if_pos rfl]

lemma elements?_append {tag : UInt8} {content e : Bytes} (h : wrap? tag content = some e)
    (rest : Bytes) : elements? (e ++ rest) = (elements? rest).map (e :: ·) := by
  have hne : e ++ rest ≠ [] := List.append_ne_nil_of_left_ne_nil (wrap?_ne_nil h) rest
  have hread := readElement?_append h rest
  have htake : (e ++ rest).take ((e ++ rest).length - rest.length) = e := by
    rw [List.length_append, Nat.add_sub_cancel, List.take_left]
  rw [elements?, if_neg hne]
  split
  · next hnone =>
    rw [hread] at hnone
    cases hnone
  · next element more hsome =>
    rw [hread] at hsome
    cases hsome
    rw [htake]

lemma elements?_one {tag : UInt8} {content e : Bytes} (h : wrap? tag content = some e) :
    elements? e = some [e] := by
  have happ := elements?_append h []
  rwa [List.append_nil, elements?_nil] at happ

lemma elements?_flatten : ∀ {es : List Bytes},
    (∀ e ∈ es, ∃ tag content, wrap? tag content = some e) → elements? es.flatten = some es
  | [], _ => elements?_nil
  | e :: es, h => by
      obtain ⟨tag, content, he⟩ := h e (List.mem_cons_self ..)
      have hrest := elements?_flatten fun e' he' => h e' (List.mem_cons_of_mem e he')
      rw [List.flatten_cons, elements?_append he, hrest]
      rfl

/-! ## What is written is accepted -/

/-- A sequence that is written is accepted as one. -/
lemma checkSequence_of_wrap? {content bs : Bytes} (h : wrap? sequenceTag content = some bs) :
    DerHeader.checkSequence bs = .ok content.length := by
  obtain ⟨field, hfield, rfl⟩ := Option.map_eq_some_iff.1 h
  exact DerHeader.checkSequence_eq_ok_iff.2
    ⟨field, content, DerHeader.isLengthField_lengthOctets? hfield, rfl, rfl⟩

/-! ## Numbers -/

/-- Without its leading zeros, a magnitude starts with a zero only when it has one octet. -/
lemma significant_eq_zero_cons {magnitude rest : Bytes}
    (h : significant magnitude = 0x00 :: rest) : rest = [] := by
  fun_induction significant magnitude with
  | case1 => cases h
  | case2 b =>
    cases h
    rfl
  | case3 c more ih => exact ih h
  | case4 b c more hb =>
    cases h
    exact absurd rfl hb

/-- The content of a number in two's complement is the shortest, and gives the number back. -/
lemma signed?_of_unsignedContent? {magnitude content : Bytes}
    (h : unsignedContent? magnitude = some content) :
    signed? content = some (Bytes.toNat magnitude : Int) := by
  rw [← toNat_significant magnitude]
  rw [unsignedContent?] at h
  split at h
  · cases h
  · next first rest hsig =>
    rw [hsig]
    obtain rfl := Option.some.inj h
    by_cases hhigh : 0x80 ≤ first
    · have hnext : ¬first < 0x80 := UInt8.not_lt.2 hhigh
      have hvalue : Bytes.toNat (0x00 :: first :: rest) = Bytes.toNat (first :: rest) := rfl
      rw [if_pos hhigh, signed?, if_neg, if_neg, if_pos (by decide), hvalue]
      · exact fun h0 => absurd h0.1 (by decide)
      · rintro ⟨-, next, hmem, hlt⟩
        cases hmem
        exact hnext hlt
    · have hlow : first < 0x80 := UInt8.not_le.1 hhigh
      rw [if_neg hhigh, signed?, if_neg, if_neg, if_pos hlow]
      · rintro ⟨rfl, -⟩
        exact absurd hlow (by decide)
      · -- a zero octet in front would have been left out
        rintro ⟨rfl, next, hmem, -⟩
        rw [significant_eq_zero_cons hsig] at hmem
        cases hmem

end Der

end DeviceIdentity
