import DeviceIdentity.Proofs.Der.Size

/-!
# Headers say where their element ends

A header is written from back to front and read from front to back, by two pieces of code that share
nothing but the marks of the length forms.  A partition signs whatever passes for one sequence, so
the two have to agree on the lengths at which one form gives way to the next, and the reader must
not take a sequence with anything missing or anything behind it.

* `header_written` — what the header of a content is, if it has one.
* `fails_header_iff` — only too long a content has none.
* `exists_returns_sequenceHeader` — there is a header of a sequence wherever there is room for four
  octets; `checkSequence_of_returns` — a content with one in front of it passes for a sequence.
* **`headers_say_where_elements_end`** — all of this, and what else passes for a sequence.
-/

namespace DeviceIdentity

open DerHeader (IsLengthField)

namespace Der

variable {n : Nat} {tag : UInt8} {t u : Tail}

/-- A content that is not too long has a header, which is as short as any. -/
lemma header_written (h : n ≤ maxContent) (tag : UInt8) :
    ∃ field, IsLengthField n field ∧
      (∀ field', IsLengthField n field' → field.length ≤ field'.length) ∧
      Prepends (header tag n) (tag :: field) := by
  obtain ⟨field, hfield, -⟩ :=
    (measures_lengthOctets? n).exists_of_le (List.forall_mem_singleton.2 h)
  have hencodes : Encodes (header tag n) ((some (tag :: field)).map counted) :=
    encodes_header_some hfield
  exact ⟨field, DerHeader.isLengthField_lengthOctets? hfield,
    fun _ => DerHeader.length_lengthOctets?_le_of_isLengthField hfield, hencodes.prepends rfl⟩

/-- Only too long a content has no header. -/
lemma fails_header_iff : (∃ u, (header tag n).Fails t .encodingFailed u) ↔ maxContent < n := by
  constructor
  · rintro ⟨u, hfails⟩
    by_contra hle
    obtain ⟨field, -, -, hprepends⟩ := header_written (Nat.le_of_not_lt hle) tag
    cases hprepends.eq_bufferTooSmall hfails
  · exact fun hlong => ⟨t, fails_header_of_lt hlong tag t⟩

/-- Four octets are room for any header. -/
lemma exists_returns_sequenceHeader (h : n ≤ maxContent) (hroom : 4 ≤ t.free.length) :
    ∃ k u, (sequenceHeader n).Returns t k u := by
  obtain ⟨field, hfield, -, hprepends⟩ := header_written h sequenceTag
  have hthree := hfield.length_le
  refine ⟨_, _, (hprepends t).1.2 ?_⟩
  rw [List.length_cons]
  omega

/-- A content, with the header of a sequence in front of it, passes for a sequence. -/
lemma checkSequence_of_returns {content later : Bytes} {k : Nat} (h : content.length ≤ maxContent)
    (hwritten : t.written = content ++ later)
    (hreturns : (sequenceHeader content.length).Returns t k u) :
    ∃ element, u.written = element ++ later ∧ element.length = k + content.length ∧
      DerHeader.checkSequence element = .ok content.length := by
  obtain ⟨field, hfield, -, hprepends⟩ := header_written h sequenceTag
  obtain ⟨rfl, hfront⟩ := hprepends.eq_of_returns hreturns
  refine ⟨sequenceTag :: (field ++ content), ?_, ?_,
    DerHeader.checkSequence_eq_ok_iff.2 ⟨field, content, hfield, rfl, rfl⟩⟩
  · rw [hfront, hwritten, List.cons_append, List.cons_append, List.append_assoc]
  · rw [List.length_cons, List.length_cons, List.length_append]
    omega

/-- **Headers say where their element ends.**  Exactly the contents of more than 65535 octets have
no header; every other one is given the shortest header, exactly if there is room, and it reads back
as the tag and the two lengths, whatever follows.  What passes for a sequence is the tag, any form
of the length, and as many octets as it says; all else is refused as malformed.  So a content with
the header of a sequence in front of it passes, and what passes does not do so any more when
something is missing at its end or put behind it. -/
theorem headers_say_where_elements_end :
    (∀ (tag : UInt8) (n : Nat) (t : Tail),
      ((∃ u, (header tag n).Fails t .encodingFailed u) ↔ maxContent < n) ∧
      (n ≤ maxContent → ∃ field, IsLengthField n field ∧
        (∀ field', IsLengthField n field' → field.length ≤ field'.length) ∧
        (∀ rest, DerHeader.read (tag :: (field ++ rest)) = .ok ⟨tag, n, 1 + field.length⟩) ∧
        ((header tag n).Returns t (1 + field.length)
            ⟨t.free.take (t.free.length - (1 + field.length)), tag :: (field ++ t.written)⟩ ↔
          1 + field.length ≤ t.free.length) ∧
        ((∃ u, (header tag n).Fails t .bufferTooSmall u) ↔
          t.free.length < 1 + field.length))) ∧
    (∀ bs n, DerHeader.checkSequence bs = .ok n ↔
      ∃ field content, IsLengthField n field ∧ content.length = n ∧
        bs = sequenceTag :: (field ++ content)) ∧
    (∀ bs, (∃ n, DerHeader.checkSequence bs = .ok n) ∨
      DerHeader.checkSequence bs = .error .encodingFailed) ∧
    (∀ (content later : Bytes) (t : Tail), content.length ≤ maxContent →
      t.written = content ++ later →
      (4 ≤ t.free.length → ∃ k u, (sequenceHeader content.length).Returns t k u) ∧
      ∀ k u, (sequenceHeader content.length).Returns t k u →
        ∃ element, u.written = element ++ later ∧ element.length = k + content.length ∧
          DerHeader.checkSequence element = .ok content.length) ∧
    ∀ bs n, DerHeader.checkSequence bs = .ok n →
      (∀ front, front <+: bs → front ≠ bs →
        DerHeader.checkSequence front = .error .encodingFailed) ∧
      ∀ more, more ≠ [] → DerHeader.checkSequence (bs ++ more) = .error .encodingFailed := by
  refine ⟨fun tag n t => ⟨fails_header_iff, fun hle => ?_⟩,
    fun bs n => DerHeader.checkSequence_eq_ok_iff, fun bs => ?_,
    fun content later t hle hwritten => ⟨exists_returns_sequenceHeader hle, fun k u =>
      checkSequence_of_returns hle hwritten⟩, fun bs n h => ⟨?_, ?_⟩⟩
  · obtain ⟨field, hfield, hshortest, hprepends⟩ := header_written hle tag
    have hlength : (tag :: field).length = 1 + field.length := Nat.add_comm ..
    have hends := hprepends t
    rw [hlength] at hends
    exact ⟨field, hfield, hshortest, DerHeader.read_of_isLengthField hfield tag, hends⟩
  · by_cases hok : ∃ n, DerHeader.checkSequence bs = .ok n
    · exact .inl hok
    · exact .inr (DerHeader.checkSequence_eq_error hok)
  · rintro front ⟨more, rfl⟩ hne
    refine DerHeader.checkSequence_eq_error fun ⟨m, hfront⟩ => hne ?_
    rw [DerHeader.eq_nil_of_checkSequence hfront h, List.append_nil]
  · intro more hne
    exact DerHeader.checkSequence_eq_error fun ⟨m, hmore⟩ =>
      hne (DerHeader.eq_nil_of_checkSequence h hmore)

/-- A length that could be told in a shorter form passes, with nothing missing and nothing behind
it.  A content of 200 octets in front of another octet is given the header of a sequence, with a
length field of at most two octets. -/
theorem headers_say_where_elements_end_loose :
    let loose : Bytes := [0x30, 0x82, 0x00, 0x01, 0xAA]
    let content : Bytes := List.replicate 200 0xAA
    let t : Tail := ⟨[0x01, 0x02, 0x03, 0x04, 0x05], content ++ [0x55]⟩
    200 ≤ maxContent ∧ t.written = content ++ [0x55] ∧ 4 ≤ t.free.length ∧
      (∃ field u, field.length ≤ 2 ∧ (header sequenceTag 200).Returns t (1 + field.length) u ∧
        DerHeader.read (sequenceTag :: (field ++ content)) =
          .ok ⟨sequenceTag, 200, 1 + field.length⟩) ∧
      (∃ k u element, (sequenceHeader content.length).Returns t k u ∧
        u.written = element ++ [0x55] ∧ element.length = k + content.length ∧
        DerHeader.checkSequence element = .ok content.length) ∧
      DerHeader.checkSequence loose = .ok 1 ∧
      DerHeader.checkSequence [0x30, 0x82, 0x00, 0x01] = .error .encodingFailed ∧
      DerHeader.checkSequence (loose ++ [0x00]) = .error .encodingFailed := by
  intro loose content t
  obtain ⟨hheaders, hpasses, -, hwrapped, hexact⟩ := headers_say_where_elements_end
  have hmax : 200 ≤ maxContent := by decide
  have hcontent : content.length ≤ maxContent := List.length_replicate.trans_le hmax
  have hroom : 4 ≤ t.free.length := by decide
  obtain ⟨field, -, hshortest, hread, hreturns, -⟩ := (hheaders sequenceTag 200 t).2 hmax
  have htwo : field.length ≤ 2 := hshortest [0x81, 0xC8] (.one rfl)
  have hfits : 1 + field.length ≤ t.free.length := by omega
  have hloose : DerHeader.checkSequence loose = .ok 1 :=
    (hpasses loose 1).2 ⟨[0x82, 0x00, 0x01], [0xAA], .two rfl, rfl, rfl⟩
  obtain ⟨hfront, hmore⟩ := hexact loose 1 hloose
  obtain ⟨hheader, helement⟩ := hwrapped content [0x55] t hcontent rfl
  obtain ⟨k, u, hsequence⟩ := hheader hroom
  obtain ⟨element, hwritten, hlength, hcheck⟩ := helement k u hsequence
  exact ⟨hmax, rfl, hroom, ⟨field, _, htwo, hreturns.2 hfits, hread content⟩,
    ⟨k, u, element, hsequence, hwritten, hlength, hcheck⟩, hloose,
    hfront _ ⟨[0xAA], rfl⟩ (by decide), hmore [0x00] (by decide)⟩

end Der

end DeviceIdentity
