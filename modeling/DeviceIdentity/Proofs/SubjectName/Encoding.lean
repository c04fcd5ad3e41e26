import DeviceIdentity.Proofs.CertRequest.Size
import DeviceIdentity.Proofs.SubjectName.Grammar

/-!
# Subject names in DER read back

A subject name is written from its last attribute to its first, and the lengths are added up on the
way.  The value of an attribute is short, so its set is as well; but there may be any number of
attributes, and the sequence around them has no header when they are longer than a length field can
tell.  Then the sets have been written already, and it is the header that fails.

* `attributeSize_le_of_isValue` — an attribute of a text has at most 75 octets.
* `contents_le_iff` — of a name that was read, only the whole can be too long.
* `returns_writeAttributes` — the sets are written, in their order, whenever they fit.
* `fails_write_of_long` — without a header for them, the sets are all that is written.
* **`write_reads_back`** — what becomes of a name in a buffer, whatever their sizes.
-/

namespace DeviceIdentity

open Der (counted elementLength maxContent)

namespace SubjectName

variable {a : NameAttribute × String} {text : String} {subject other : SubjectName} {t u : Tail}
  {sets : List Bytes} {n : Nat}

/-! ## Lengths -/

lemma attributeSize_le_of_isValue (h : IsValue a.2) : attributeSize a ≤ 75 :=
  attributeSize_le h.2.1

lemma contents_le_of_mem (h : parse text = .ok subject) (ha : a ∈ subject.attributes) :
    ∀ c ∈ attributeContents a, c ≤ maxContent := by
  intro c hc
  obtain ⟨-, hvalues⟩ := (parse_eq_ok_iff_spells.1 h).writable
  have hsize := attributeSize_le_of_isValue (hvalues a ha).1
  have hle := le_attributeSize_of_mem hc
  have hmax : maxContent = 0xFFFF := rfl
  omega

/-- Of a name that was read, only the whole can be too long. -/
lemma contents_le_iff (h : parse text = .ok subject) :
    (∀ c ∈ subject.contents, c ≤ maxContent) ↔ subject.attributesSize ≤ maxContent := by
  rw [contents, List.forall_mem_append, List.forall_mem_singleton]
  refine and_iff_right fun c hc => ?_
  obtain ⟨a, ha, hmem⟩ := List.mem_flatMap.1 hc
  exact contents_le_of_mem h ha c hmem

/-- The attributes of a name that was read have their sets. -/
lemma exists_sets (h : parse text = .ok subject) :
    ∃ sets, subject.attributes.mapM encodeAttribute? = some sets ∧
      sets.flatten.length = subject.attributesSize := by
  have hmeasures := measures_encodeAttributes? subject.attributes
  obtain ⟨body, hbody, hlength⟩ := hmeasures.exists_of_le fun c hc => by
    obtain ⟨a, ha, hmem⟩ := List.mem_flatMap.1 hc
    exact contents_le_of_mem h ha c hmem
  obtain ⟨sets, hsets, rfl⟩ := Option.map_eq_some_iff.1 hbody
  exact ⟨sets, hsets, hlength⟩

/-! ## Writing -/

lemma encodes_sets (hsets : subject.attributes.mapM encodeAttribute? = some sets) :
    Der.Encodes (writeAttributes 0 subject.attributes.reverse) (some (counted sets.flatten)) := by
  have hencodes := encodes_writeAttributes subject.attributes.reverse 0
  rw [mapM_reverse, hsets] at hencodes
  simpa [counted] using hencodes

/-- The sets are written, in their order, whenever they fit. -/
lemma returns_writeAttributes (hsets : subject.attributes.mapM encodeAttribute? = some sets)
    (hroom : sets.flatten.length ≤ t.free.length) :
    (writeAttributes 0 subject.attributes.reverse).Returns t sets.flatten.length
      ⟨t.free.take (t.free.length - sets.flatten.length), sets.flatten ++ t.written⟩ :=
  (encodes_sets hsets).returns_iff.2 ⟨sets.flatten, rfl, if_pos hroom⟩

lemma fails_write_of_lt (hsets : subject.attributes.mapM encodeAttribute? = some sets)
    (hroom : t.free.length < sets.flatten.length) :
    ∃ u, subject.write.Fails t .bufferTooSmall u := by
  obtain ⟨u, hu⟩ := (encodes_sets hsets).fails rfl (Tail.prepend?_eq_none_iff.2 hroom)
  exact ⟨u, Action.fails_bind.2 (.inl hu)⟩

/-- Without a header for them, the sets are all that is written. -/
lemma fails_write_of_long (hsets : subject.attributes.mapM encodeAttribute? = some sets)
    (hroom : sets.flatten.length ≤ t.free.length) (hlong : maxContent < sets.flatten.length) :
    subject.write.Fails t .encodingFailed
      ⟨t.free.take (t.free.length - sets.flatten.length), sets.flatten ++ t.written⟩ := by
  refine Action.fails_bind.2 (.inr ⟨_, _, returns_writeAttributes hsets hroom, ?_⟩)
  exact Action.fails_bind.2 (.inl (Der.fails_header_of_lt hlong Der.sequenceTag _))

/-- Whatever is written of two names and wherever, the same octets are of the same name. -/
lemma eq_of_written {front : Bytes} (h : decode? front = some subject)
    (hreturns : other.write.Returns t n u) (hwritten : u.written = front ++ t.written) :
    other = subject := by
  obtain ⟨bs, hbs, -, hprepend⟩ := other.encodes_write.returns_counted.1 hreturns
  rw [Tail.written_of_prepend? hprepend] at hwritten
  rw [List.append_cancel_right hwritten] at hbs
  exact Option.some.inj ((decode?_of_encode? hbs).symm.trans h)

/-! ## The main result -/

/-- **A subject name that is written reads back.**  Take any name that is read from a text, and a
buffer in which anything may have been written.  Only the content of the whole name can be too long
for its length field.  If it is not, then the name is put in front of what is there if it fits, and
is read from the octets that were put there, with all its attributes in their order; no other name
is written with the same octets.  If it does not fit, the buffer is reported as too small.  And if
the content is too long, then its sets are written when they fit, no header is put in front of them,
and the encoding fails; when they do not fit, the buffer is too small. -/
theorem write_reads_back (h : parse text = .ok subject) (t : Tail) :
    ((∀ c ∈ subject.contents, c ≤ maxContent) ↔ subject.attributesSize ≤ maxContent) ∧
    ((∀ c ∈ subject.contents, c ≤ maxContent) → subject.size ≤ t.free.length →
      ∃ front, front.length = subject.size ∧ decode? front = some subject ∧
        subject.write.Returns t subject.size
          ⟨t.free.take (t.free.length - subject.size), front ++ t.written⟩ ∧
        ∀ other t' n u, other.write.Returns t' n u → u.written = front ++ t'.written →
          other = subject) ∧
    ((∀ c ∈ subject.contents, c ≤ maxContent) → t.free.length < subject.size →
      ∃ u, subject.write.Fails t .bufferTooSmall u) ∧
    (maxContent < subject.attributesSize → subject.attributesSize ≤ t.free.length →
      ∃ sets : List Bytes, sets.mapM decodeAttribute? = some subject.attributes ∧
        subject.write.Fails t .encodingFailed
          ⟨t.free.take (t.free.length - subject.attributesSize), sets.flatten ++ t.written⟩) ∧
    (maxContent < subject.attributesSize → t.free.length < subject.attributesSize →
      ∃ u, subject.write.Fails t .bufferTooSmall u) := by
  obtain ⟨sets, hsets, hlength⟩ := exists_sets h
  have hprepends (hshort : ∀ c ∈ subject.contents, c ≤ maxContent) :
      ∃ front, front.length = subject.size ∧ decode? front = some subject ∧
        Der.Prepends subject.write front := by
    obtain ⟨front, hfront, hsize⟩ := subject.measures_encode?.exists_of_le hshort
    exact ⟨front, hsize, decode?_of_encode? hfront, subject.encodes_write.prepends hfront⟩
  refine ⟨contents_le_iff h, fun hshort hroom => ?_, fun hshort hroom => ?_, fun hlong hroom => ?_,
    fun hlong hroom => ?_⟩
  · obtain ⟨front, hsize, hdecode, hwrite⟩ := hprepends hshort
    refine ⟨front, hsize, hdecode, ?_, fun other t' n u => eq_of_written hdecode⟩
    rw [← hsize] at hroom ⊢
    exact (hwrite t).1.2 hroom
  · obtain ⟨front, hsize, -, hwrite⟩ := hprepends hshort
    exact (hwrite t).2.2 (hsize ▸ hroom)
  · rw [← hlength] at hlong hroom ⊢
    exact ⟨sets, (mapM_decodeAttribute? hsets).1, fails_write_of_long hsets hroom hlong⟩
  · exact fails_write_of_lt hsets (hlength ▸ hroom)

/-- A name of three attributes has 38 octets.  A name of 900 attributes with values of 64 characters
is read from its text, but has a content of 67500 octets. -/
theorem write_reads_back_many :
    let three : SubjectName :=
      ⟨[(.organization, "A"), (.commonName, "B"), (.organizationalUnit, "C")]⟩
    let many : SubjectName :=
      ⟨List.replicate 900 (.commonName, String.ofList (List.replicate 64 'x'))⟩
    parse "O=A,CN=B,OU=C" = .ok three ∧ (∀ c ∈ three.contents, c ≤ maxContent) ∧
      (∃ front, decode? front = some three ∧
        three.write.Returns ⟨List.replicate 40 0, [0x05]⟩ 38 ⟨[0, 0], front ++ [0x05]⟩) ∧
      (∃ u, three.write.Fails (Tail.zeros 37) .bufferTooSmall u) ∧
      parse many.text = .ok many ∧ many.attributesSize = 67500 ∧
      (∃ u, many.write.Fails (Tail.zeros 70000) .encodingFailed u) ∧
      ∃ u, many.write.Fails (Tail.zeros 67499) .bufferTooSmall u := by
  intro three many
  have hthree : parse "O=A,CN=B,OU=C" = .ok three := parse_eq_ok_iff.2 (by decide)
  have hmany : parse many.text = .ok many := by
    have hne : many.attributes ≠ [] := List.ne_nil_of_length_pos <| by
      rw [List.length_replicate]
      decide
    refine parse_text hne fun a ha => ?_
    rw [List.eq_of_mem_replicate ha]
    simp only [IsValue]
    decide
  have hsize : many.attributesSize = 67500 := by
    simp only [attributesSize, many, List.map_replicate, List.sum_replicate]
    decide
  have hzeros (n : Nat) : (Tail.zeros n).free.length = n := List.length_replicate
  have hmax : maxContent = 65535 := rfl
  obtain ⟨hcontents, hwrites, -⟩ := write_reads_back hthree ⟨List.replicate 40 0, [0x05]⟩
  obtain ⟨-, -, hshort, -⟩ := write_reads_back hthree (Tail.zeros 37)
  obtain ⟨-, -, -, hlong, -⟩ := write_reads_back hmany (Tail.zeros 70000)
  obtain ⟨-, -, -, -, hfull⟩ := write_reads_back hmany (Tail.zeros 67499)
  have hall : ∀ c ∈ three.contents, c ≤ maxContent := hcontents.2 (by decide)
  obtain ⟨front, -, hdecode, hreturns, -⟩ := hwrites hall (by decide)
  obtain ⟨sets, -, hfails⟩ := hlong (by omega) (by rw [hzeros]; omega)
  exact ⟨hthree, hall, ⟨front, hdecode, hreturns⟩, hshort hall (by decide), hmany, hsize,
    ⟨_, hfails⟩, hfull (by omega) (by rw [hzeros]; omega)⟩

end SubjectName

end DeviceIdentity
