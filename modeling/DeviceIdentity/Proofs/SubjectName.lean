import DeviceIdentity.Proofs.Text.Pieces
import DeviceIdentity.SubjectName

/-!
# What the texts of a subject become

The subject of a device is made by joining three texts and reading them back.  A comma in one of the
texts therefore ends the value that the text was meant to be, and what follows the comma is read as
an attribute of its own, or refuses the subject when it cannot be.

* `SubjectName.attributes?` — the attributes that one text becomes; `length_attributes?` — as many
  as it has pieces.
* `forDevice_eq_ok_iff` — a subject is made when all three texts become attributes, which follow
  each other.
* `Intended` — the subject that the texts should make; `forDevice_eq_ok_iff_intended` — without
  commas, they make it.
* **`forDevice_decides`** — all of this together, and **`forDevice_smuggles`** — a text that brings
  an attribute of its own.
-/

namespace DeviceIdentity

namespace SubjectName

variable {kind : NameAttribute} {organization uuid label text : String}
  {attributes : List (NameAttribute × String)} {subject : SubjectName}

/-! ## One text -/

lemma isValue_iff {value : List Char} :
    isValue value = true ↔
      value ≠ [] ∧ (String.ofList value).utf8ByteSize ≤ maxValueLength ∧ '=' ∉ value := by
  simp [isValue, and_assoc]

lemma parseComponent?_shortName (kind : NameAttribute) (value : List Char) :
    parseComponent? (kind.shortName.toList ++ '=' :: value) =
      if isValue value then some (kind, String.ofList value) else none := by
  cases kind <;> rfl

/-- The attributes that a text becomes where the value of `kind` is expected: the value ends at the
first comma, and every further piece has to be an attribute by itself. -/
def attributes? (kind : NameAttribute) (text : String) : Option (List (NameAttribute × String)) :=
  match text.toList.splitOn ',' with
  | [] => none
  | value :: rest =>
    if isValue value then (rest.mapM parseComponent?).map ((kind, String.ofList value) :: ·)
    else none

/-- Reading `kind=text` gives these attributes. -/
lemma mapM_parseComponent? (kind : NameAttribute) (text : String) :
    ((kind.shortName.toList ++ '=' :: text.toList).splitOn ',').mapM parseComponent? =
      attributes? kind text := by
  -- the name has no comma, so it stays with the first piece of the text
  have hfront : ',' ∉ kind.shortName.toList ++ ['='] := by cases kind <;> decide
  have hsplit := splitOn_append_left hfront text.toList
  rw [List.append_assoc, List.singleton_append] at hsplit
  rw [hsplit, attributes?]
  cases hpieces : text.toList.splitOn ',' with
  | nil => exact (List.splitOn_ne_nil _ _ hpieces).elim
  | cons value rest =>
    rw [List.modifyHead_cons, List.mapM_cons, List.append_assoc, List.singleton_append,
      parseComponent?_shortName]
    dsimp only
    split_ifs
    · cases rest.mapM parseComponent? <;> rfl
    · rfl

/-- A text becomes as many attributes as it has pieces. -/
lemma length_attributes? (h : attributes? kind text = some attributes) :
    attributes.length = (text.toList.splitOn ',').length := by
  unfold attributes? at h
  split at h
  · cases h
  · next value rest hpieces =>
    split_ifs at h
    obtain ⟨others, hothers, rfl⟩ := Option.map_eq_some_iff.1 h
    rw [hpieces, List.length_cons, List.length_cons,
      (mapM_eq_some_iff_forall₂.1 hothers).length_eq]

/-- Without a comma, a text is the value of its attribute or is refused. -/
lemma attributes?_eq_some_iff (h : ',' ∉ text.toList) :
    attributes? kind text = some attributes ↔
      (text ≠ "" ∧ text.utf8ByteSize ≤ maxValueLength ∧ '=' ∉ text.toList) ∧
        attributes = [(kind, text)] := by
  have hvalue : isValue text.toList = true ↔
      text ≠ "" ∧ text.utf8ByteSize ≤ maxValueLength ∧ '=' ∉ text.toList := by
    rw [isValue_iff, String.ofList_toList, ne_eq, String.toList_eq_nil_iff]
  rw [attributes?, List.splitOn_eq_singleton h, ← hvalue]
  dsimp only
  split_ifs with hvalid
  · simp [hvalid, eq_comm]
  · simp [hvalid]

/-! ## Three texts -/

lemma parse_eq_ok_iff :
    parse text = .ok subject ↔
      (text.toList.splitOn ',').mapM parseComponent? = some subject.attributes := by
  unfold parse
  split
  · next attributes h =>
    rw [h, Except.ok.injEq, Option.some.injEq]
    cases subject
    rw [SubjectName.mk.injEq]
  · next h => simp [h]

lemma eq_of_parse_eq_error {e : Failure} (h : parse text = .error e) : e = .subjectNameInvalid := by
  unfold parse at h
  split at h
  · cases h
  · cases h
    rfl

lemma toList_joined (organization uuid label : String) :
    ("O=" ++ organization ++ ",CN=" ++ uuid ++ ",OU=" ++ label).toList =
      (NameAttribute.organization.shortName.toList ++ '=' :: organization.toList) ++
        ',' :: ((NameAttribute.commonName.shortName.toList ++ '=' :: uuid.toList) ++
          ',' :: (NameAttribute.organizationalUnit.shortName.toList ++ '=' :: label.toList)) := by
  simp [NameAttribute.shortName]

/-- The attributes of a subject are those of its three texts, one after the other. -/
lemma forDevice_eq_ok_iff :
    forDevice organization uuid label = .ok subject ↔
      ∃ a b c, attributes? .organization organization = some a ∧
        attributes? .commonName uuid = some b ∧ attributes? .organizationalUnit label = some c ∧
        subject.attributes = a ++ b ++ c := by
  rw [forDevice, parse_eq_ok_iff, toList_joined, List.splitOn_append_cons_self,
    List.splitOn_append_cons_self, List.mapM_append, List.mapM_append, mapM_parseComponent?,
    mapM_parseComponent?, mapM_parseComponent?]
  simp only [Option.bind_eq_bind, Option.bind_eq_some_iff, Option.pure_def, Option.some.injEq]
  constructor
  · rintro ⟨a, ha, _, ⟨b, hb, c, hc, rfl⟩, hsubject⟩
    exact ⟨a, b, c, ha, hb, hc, by rw [← hsubject, List.append_assoc]⟩
  · rintro ⟨a, b, c, ha, hb, hc, hsubject⟩
    exact ⟨a, ha, b ++ c, ⟨b, hb, c, hc, rfl⟩, by rw [hsubject, List.append_assoc]⟩

/-- A subject has three attributes exactly if none of its texts has a comma. -/
lemma length_attributes_forDevice (h : forDevice organization uuid label = .ok subject) :
    subject.attributes.length = 3 ↔ ∀ text ∈ [organization, uuid, label], ',' ∉ text.toList := by
  obtain ⟨a, b, c, ha, hb, hc, hsubject⟩ := forDevice_eq_ok_iff.1 h
  -- three texts of at least one piece each have three pieces only if each is one
  have hpos : ∀ text : String, 0 < (text.toList.splitOn ',').length := fun text =>
    List.length_pos_iff.2 (List.splitOn_ne_nil _ _)
  have horganization := hpos organization
  have huuid := hpos uuid
  have hlabel := hpos label
  rw [hsubject, List.length_append, List.length_append, length_attributes? ha,
    length_attributes? hb, length_attributes? hc]
  simp only [List.forall_mem_cons, List.not_mem_nil, false_implies, implies_true, and_true,
    ← length_splitOn_eq_one]
  omega

/-- The subject that three texts should make: the texts may be values and have no commas, and they
are the values of the three attributes. -/
def Intended (organization uuid label : String) (subject : SubjectName) : Prop :=
  (∀ text ∈ [organization, uuid, label],
    text ≠ "" ∧ text.utf8ByteSize ≤ maxValueLength ∧ ',' ∉ text.toList ∧ '=' ∉ text.toList) ∧
  subject.attributes =
    [(.organization, organization), (.commonName, uuid), (.organizationalUnit, label)]

lemma Intended.not_mem (h : Intended organization uuid label subject) :
    ∀ text ∈ [organization, uuid, label], ',' ∉ text.toList :=
  fun text htext => (h.1 text htext).2.2.1

/-- Without commas, the three texts make the subject that they should. -/
lemma forDevice_eq_ok_iff_intended (h : ∀ text ∈ [organization, uuid, label], ',' ∉ text.toList) :
    forDevice organization uuid label = .ok subject ↔
      Intended organization uuid label subject := by
  obtain ⟨horganization, huuid, hlabel, -⟩ :
      ',' ∉ organization.toList ∧ ',' ∉ uuid.toList ∧ ',' ∉ label.toList ∧ True := by
    simpa using h
  simp only [forDevice_eq_ok_iff, attributes?_eq_some_iff horganization,
    attributes?_eq_some_iff huuid, attributes?_eq_some_iff hlabel]
  constructor
  · rintro ⟨_, _, _, ⟨ha, rfl⟩, ⟨hb, rfl⟩, ⟨hc, rfl⟩, hsubject⟩
    refine ⟨?_, hsubject⟩
    simp only [List.forall_mem_cons, List.not_mem_nil, false_implies, implies_true, and_true]
    exact ⟨⟨ha.1, ha.2.1, horganization, ha.2.2⟩, ⟨hb.1, hb.2.1, huuid, hb.2.2⟩,
      ⟨hc.1, hc.2.1, hlabel, hc.2.2⟩⟩
  · rintro ⟨hvalues, hsubject⟩
    simp only [List.forall_mem_cons] at hvalues
    obtain ⟨ha, hb, hc, -⟩ := hvalues
    exact ⟨_, _, _, ⟨⟨ha.1, ha.2.1, ha.2.2.2⟩, rfl⟩, ⟨⟨hb.1, hb.2.1, hb.2.2.2⟩, rfl⟩,
      ⟨⟨hc.1, hc.2.1, hc.2.2.2⟩, rfl⟩, hsubject⟩

/-! ## The main result -/

/-- **What the texts of a subject become.**  A subject is made exactly if each text becomes
attributes where its value is expected, and its attributes are these; otherwise the subject is
refused as invalid.  It has the three attributes that it should have exactly if no text has a comma.
So the texts make the subject that they should, and no other, exactly if none of them has a comma or
the subject is refused. -/
theorem forDevice_decides (organization uuid label : String) :
    (∀ subject, forDevice organization uuid label = .ok subject ↔
      ∃ a b c, attributes? .organization organization = some a ∧
        attributes? .commonName uuid = some b ∧ attributes? .organizationalUnit label = some c ∧
        subject.attributes = a ++ b ++ c) ∧
    (∀ failure, forDevice organization uuid label = .error failure →
      failure = .subjectNameInvalid) ∧
    (∀ subject, forDevice organization uuid label = .ok subject →
      (subject.attributes.length = 3 ↔
        ∀ text ∈ [organization, uuid, label], ',' ∉ text.toList)) ∧
    ((∀ subject, forDevice organization uuid label = .ok subject ↔
        Intended organization uuid label subject) ↔
      (∀ text ∈ [organization, uuid, label], ',' ∉ text.toList) ∨
        ∃ failure, forDevice organization uuid label = .error failure) := by
  refine ⟨fun _ => forDevice_eq_ok_iff, fun _ => eq_of_parse_eq_error,
    fun _ => length_attributes_forDevice, ?_, ?_⟩
  · intro hintended
    cases h : forDevice organization uuid label with
    | ok subject => exact .inl ((hintended subject).1 h).not_mem
    | error failure => exact .inr ⟨failure, rfl⟩
  · rintro (hcommas | ⟨failure, hfailure⟩) subject
    · exact forDevice_eq_ok_iff_intended hcommas
    · constructor
      · intro h
        rw [hfailure] at h
        cases h
      · intro h
        exact (forDevice_eq_ok_iff_intended h.not_mem).2 h

/-- A subject as it should be, and one that is refused for an equals sign. -/
theorem forDevice_decides_acme :
    forDevice "Acme" "device-1" "Device Client TLS" =
        .ok ⟨[(.organization, "Acme"), (.commonName, "device-1"),
          (.organizationalUnit, "Device Client TLS")]⟩ ∧
      (∀ text ∈ ["Acme", "device-1", "Device Client TLS"], ',' ∉ text.toList) ∧
      forDevice "Acme" "device-1" "a=b" = .error .subjectNameInvalid := by
  obtain ⟨-, -, hthree, hintended⟩ := forDevice_decides "Acme" "device-1" "Device Client TLS"
  obtain ⟨-, hrefused, -, hintended'⟩ := forDevice_decides "Acme" "device-1" "a=b"
  have hmade : forDevice "Acme" "device-1" "Device Client TLS" =
      .ok ⟨[(.organization, "Acme"), (.commonName, "device-1"),
        (.organizationalUnit, "Device Client TLS")]⟩ :=
    (hintended.2 (.inl (by decide)) _).2 ⟨by decide, rfl⟩
  refine ⟨hmade, (hthree _ hmade).1 rfl, ?_⟩
  cases h : forDevice "Acme" "device-1" "a=b" with
  | ok subject =>
    have hcommas : ∀ text ∈ ["Acme", "device-1", "a=b"], ',' ∉ text.toList := by decide
    have hvalues := ((hintended'.2 (.inl hcommas) subject).1 h).1 "a=b" (by decide)
    exact absurd hvalues.2.2.2 (by decide)
  | error failure => rw [hrefused _ h]

/-- **A text can bring attributes of its own.**  This organization has a comma and an equals sign,
and is taken as an organization and a second common name. -/
theorem forDevice_smuggles :
    forDevice "A,CN=B" "u" "l" =
        .ok ⟨[(.organization, "A"), (.commonName, "B"), (.commonName, "u"),
          (.organizationalUnit, "l")]⟩ ∧
      ¬ ∀ organization uuid label subject, forDevice organization uuid label = .ok subject ↔
        Intended organization uuid label subject := by
  have hmade : forDevice "A,CN=B" "u" "l" =
      .ok ⟨[(.organization, "A"), (.commonName, "B"), (.commonName, "u"),
        (.organizationalUnit, "l")]⟩ := parse_eq_ok_iff.2 (by decide)
  refine ⟨hmade, fun hclaim => ?_⟩
  have hcomma := ((hclaim "A,CN=B" "u" "l" _).1 hmade).not_mem "A,CN=B" (by decide)
  exact hcomma (by decide)

end SubjectName

end DeviceIdentity
