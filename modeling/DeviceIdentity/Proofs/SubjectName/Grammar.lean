import DeviceIdentity.Proofs.SubjectName

/-!
# Which texts are subject names

A subject name is read by cutting a text at its commas, each piece at its first equals sign, and the
white space off what stands before it.  It is written by joining names and values again.  Neither
says which texts are subject names, so this is said here on its own, by how such a text is spelled.
White space belongs to nothing where it stands around a name, and to the value where it stands
around one, so that a text that is read and written again only loses the former.

* `IsValue`, `IsAttribute`, `Spells` — how a value, an attribute and a subject name are spelled.
* `parseComponent?_append`, `parseComponent?_eq_some_iff` — a piece is read at its first equals
  sign, and exactly the attributes are read.
* `parse_eq_ok_iff_spells` — exactly the texts that spell attributes are read.
* `parse_text` — attributes that are written read back.
* `Tight` — a text with no white space around names; `text_eq_iff_tight` — these are written as they
  were read.
* **`text_parses_exactly`** — all of this together.
-/

namespace DeviceIdentity

/-! ## Names -/

namespace Blank

lemma equals_notMem {cs : List Char} (h : ∀ c ∈ cs, isBlank c = true) : '=' ∉ cs :=
  fun hmem => absurd (h '=' hmem) (by decide)

end Blank

namespace NameAttribute

lemma ofShortName?_eq_some_iff {name : String} {kind : NameAttribute} :
    ofShortName? name = some kind ↔ name = kind.shortName := by
  constructor
  · intro h
    simpa [eq_comm] using List.find?_some h
  · rintro rfl
    exact ofShortName?_shortName kind

/-- The names of attributes have only letters in them. -/
lemma of_mem_shortName {kind : NameAttribute} {c : Char} (h : c ∈ kind.shortName.toList) :
    c ≠ '=' ∧ c ≠ ',' ∧ Blank.isBlank c = false := by
  cases kind with
  | organization =>
    obtain rfl : c = 'O' := by simpa [shortName] using h
    decide
  | commonName =>
    obtain rfl | rfl : c = 'C' ∨ c = 'N' := by simpa [shortName] using h
    · decide
    · decide
  | organizationalUnit =>
    obtain rfl | rfl : c = 'O' ∨ c = 'U' := by simpa [shortName] using h
    · decide
    · decide

lemma trim_shortName (kind : NameAttribute) :
    Blank.trim kind.shortName.toList = kind.shortName.toList := by
  cases kind <;> decide

end NameAttribute

namespace SubjectName

/-! ## How a subject name is spelled -/

/-- A text that an attribute may have for its value. -/
def IsValue (value : String) : Prop :=
  value ≠ "" ∧ value.utf8ByteSize ≤ maxValueLength ∧ '=' ∉ value.toList

/-- A piece that spells an attribute: its name, in white space or not, an equals sign, and its
value. -/
structure IsAttribute (piece : List Char) (a : NameAttribute × String) : Prop where
  spelling : ∃ before after, (∀ c ∈ before, Blank.isBlank c = true) ∧
    (∀ c ∈ after, Blank.isBlank c = true) ∧
    piece = before ++ (a.1.shortName.toList ++ after) ++ '=' :: a.2.toList
  isValue : IsValue a.2

/-- A text that spells attributes: at least one piece, a comma between two of them and none inside
one, and each piece spells the attribute in its place. -/
def Spells (text : String) (attributes : List (NameAttribute × String)) : Prop :=
  ∃ pieces, pieces ≠ [] ∧ (∀ piece ∈ pieces, ',' ∉ piece) ∧
    text.toList = [','].intercalate pieces ∧ List.Forall₂ IsAttribute pieces attributes

/-- A text in which no name has white space before or behind it. -/
def Tight (text : String) : Prop :=
  ∀ piece ∈ text.toList.splitOn ',', ∀ name value, piece = name ++ '=' :: value → '=' ∉ name →
    (∀ c ∈ name.head?, Blank.isBlank c = false) ∧ ∀ c ∈ name.getLast?, Blank.isBlank c = false

variable {a : NameAttribute × String} {piece name value : List Char} {text : String}
  {attributes : List (NameAttribute × String)} {subject : SubjectName}

lemma isValue_toList {value : String} : isValue value.toList = true ↔ IsValue value := by
  rw [isValue_iff, String.ofList_toList, IsValue, ne_eq, ne_eq, String.toList_eq_nil_iff]

/-- The pieces that a text is cut into at its commas are the ones that it is spelled with. -/
lemma spells_iff : Spells text attributes ↔
    List.Forall₂ IsAttribute (text.toList.splitOn ',') attributes := by
  constructor
  · rintro ⟨pieces, hne, hcommas, htext, hspelled⟩
    rw [htext, List.splitOn_intercalate ',' hcommas hne]
    exact hspelled
  · intro hspelled
    exact ⟨text.toList.splitOn ',', List.splitOn_ne_nil ',' _, fun _ => notMem_of_mem_splitOn,
      (List.intercalate_splitOn ',').symm, hspelled⟩

/-! ## Reading -/

/-- The first equals sign of an attribute stands behind its name. -/
lemma equals_notMem_name {kind : NameAttribute} {before after : List Char}
    (hbefore : ∀ c ∈ before, Blank.isBlank c = true)
    (hafter : ∀ c ∈ after, Blank.isBlank c = true) :
    '=' ∉ before ++ (kind.shortName.toList ++ after) := by
  simp only [List.mem_append, not_or]
  exact ⟨Blank.equals_notMem hbefore, fun hmem => (NameAttribute.of_mem_shortName hmem).1 rfl,
    Blank.equals_notMem hafter⟩

lemma parseComponent?_of_notMem (h : '=' ∉ piece) : parseComponent? piece = none := by
  have hrest : piece.dropWhile (· != '=') = [] := by
    rw [← List.append_nil piece, List.dropWhile_append_of_pos, List.dropWhile_nil]
    intro c hc
    rw [bne_iff_ne]
    rintro rfl
    exact h hc
  rw [parseComponent?, hrest]

/-- A piece is read at its first equals sign. -/
lemma parseComponent?_append (h : '=' ∉ name) (value : List Char) :
    parseComponent? (name ++ '=' :: value) =
      (NameAttribute.ofShortName? (String.ofList (Blank.trim name))).bind fun kind =>
        if isValue value then some (kind, String.ofList value) else none := by
  have hname : ∀ c ∈ name, (c != '=') = true := by
    intro c hc
    rw [bne_iff_ne]
    rintro rfl
    exact h hc
  have hrest : (name ++ '=' :: value).dropWhile (· != '=') = '=' :: value :=
    List.dropWhile_append_of_pos hname
  have hfirst : (name ++ '=' :: value).takeWhile (· != '=') = name := by
    rw [List.takeWhile_append_of_pos hname]
    exact List.append_nil name
  rw [parseComponent?, hrest, hfirst]
  dsimp only
  cases NameAttribute.ofShortName? (String.ofList (Blank.trim name)) <;> rfl

/-- Exactly the attributes are read. -/
lemma parseComponent?_eq_some_iff : parseComponent? piece = some a ↔ IsAttribute piece a := by
  constructor
  · intro h
    by_cases hmem : '=' ∈ piece
    · obtain ⟨name, value, rfl, hname⟩ := List.eq_append_cons_of_mem hmem
      rw [parseComponent?_append hname, Option.bind_eq_some_iff] at h
      obtain ⟨kind, hkind, hvalue⟩ := h
      split_ifs at hvalue with hvalid
      cases hvalue
      obtain ⟨before, after, hbefore, hafter, hspelled⟩ := Blank.exists_trim name
      have htrim : Blank.trim name = kind.shortName.toList := by
        rw [← NameAttribute.ofShortName?_eq_some_iff.1 hkind, String.toList_ofList]
      refine ⟨⟨before, after, hbefore, hafter, ?_⟩, isValue_toList.1 ?_⟩
      · rw [← htrim, ← hspelled, String.toList_ofList]
      · rw [String.toList_ofList]
        exact hvalid
    · rw [parseComponent?_of_notMem hmem] at h
      cases h
  · rintro ⟨⟨before, after, hbefore, hafter, rfl⟩, hvalue⟩
    rw [parseComponent?_append (equals_notMem_name hbefore hafter),
      Blank.trim_append hbefore hafter, NameAttribute.trim_shortName, String.ofList_toList,
      NameAttribute.ofShortName?_shortName, Option.bind_some, if_pos (isValue_toList.2 hvalue),
      String.ofList_toList]

/-- Exactly the texts that spell attributes are read. -/
lemma parse_eq_ok_iff_spells : parse text = .ok subject ↔ Spells text subject.attributes := by
  rw [parse_eq_ok_iff, mapM_eq_some_iff_forall₂, spells_iff]
  simp only [parseComponent?_eq_some_iff]

lemma parse_eq_error_iff :
    parse text = .error .subjectNameInvalid ↔ ¬∃ attributes, Spells text attributes := by
  constructor
  · rintro h ⟨attributes, hspells⟩
    have hok : parse text = .ok ⟨attributes⟩ := parse_eq_ok_iff_spells.2 hspells
    rw [h] at hok
    cases hok
  · intro hnone
    cases hparse : parse text with
    | ok subject => exact (hnone ⟨_, parse_eq_ok_iff_spells.1 hparse⟩).elim
    | error failure => rw [eq_of_parse_eq_error hparse]

/-! ## Writing -/

lemma toList_component (a : NameAttribute × String) :
    (component a).toList = a.1.shortName.toList ++ '=' :: a.2.toList := by
  simp [component]

lemma toList_text (subject : SubjectName) :
    subject.text.toList =
      [','].intercalate (subject.attributes.map fun a => (component a).toList) := by
  simp [SubjectName.text, String.toList_intercalate, Function.comp_def]

lemma isAttribute_component (h : IsValue a.2) : IsAttribute (component a).toList a where
  spelling := by
    refine ⟨[], [], by simp, by simp, ?_⟩
    rw [toList_component, List.nil_append, List.append_nil]
  isValue := h

lemma comma_notMem_component (h : ',' ∉ a.2.toList) : ',' ∉ (component a).toList := by
  rw [toList_component]
  simp only [List.mem_append, List.mem_cons, not_or]
  exact ⟨fun hmem => (NameAttribute.of_mem_shortName hmem).2.1 rfl, by decide, h⟩

/-- Attributes that are written spell themselves. -/
lemma spells_text (hne : attributes ≠ [])
    (h : ∀ a ∈ attributes, IsValue a.2 ∧ ',' ∉ a.2.toList) :
    Spells (SubjectName.text ⟨attributes⟩) attributes := by
  refine ⟨attributes.map fun a => (component a).toList, ?_, ?_, toList_text ⟨attributes⟩, ?_⟩
  · simpa using hne
  · intro piece hpiece
    obtain ⟨a, ha, rfl⟩ := List.mem_map.1 hpiece
    exact comma_notMem_component (h a ha).2
  · rw [List.forall₂_map_left_iff, List.forall₂_same]
    exact fun a ha => isAttribute_component (h a ha).1

/-- Attributes that are written read back. -/
lemma parse_text (hne : attributes ≠ [])
    (h : ∀ a ∈ attributes, IsValue a.2 ∧ ',' ∉ a.2.toList) :
    parse (SubjectName.text ⟨attributes⟩) = .ok ⟨attributes⟩ :=
  parse_eq_ok_iff_spells.2 (spells_text hne h)

/-- The attributes of a text have values that could have been written. -/
lemma Spells.writable (h : Spells text attributes) :
    attributes ≠ [] ∧ ∀ a ∈ attributes, IsValue a.2 ∧ ',' ∉ a.2.toList := by
  obtain ⟨pieces, hne, hcommas, -, hspelled⟩ := h
  constructor
  · rintro rfl
    exact hne (List.forall₂_nil_right_iff.1 hspelled)
  · refine forall_of_forall₂ (((List.forall₂_and_left _ _).2 ⟨hcommas, hspelled⟩).imp ?_)
    rintro piece a ⟨hcomma, ⟨before, after, -, -, rfl⟩, hvalue⟩
    exact ⟨hvalue, fun hmem => hcomma (by simp [hmem])⟩

/-! ## Writing what was read -/

/-- Without white space around its name, an attribute is spelled as it is written. -/
lemma eq_component_of_tight (h : IsAttribute piece a)
    (htight : ∀ name value, piece = name ++ '=' :: value → '=' ∉ name →
      (∀ c ∈ name.head?, Blank.isBlank c = false) ∧
        ∀ c ∈ name.getLast?, Blank.isBlank c = false) :
    piece = (component a).toList := by
  obtain ⟨⟨before, after, hbefore, hafter, hspelled⟩, -⟩ := h
  obtain ⟨hfirst, hlast⟩ := htight _ _ hspelled (equals_notMem_name hbefore hafter)
  rw [hspelled, toList_component, ← Blank.trim_eq_self hfirst hlast,
    Blank.trim_append hbefore hafter, NameAttribute.trim_shortName]

/-- A text is written as it was read exactly if no name has white space around it. -/
lemma text_eq_iff_tight (h : parse text = .ok subject) : subject.text = text ↔ Tight text := by
  have hspelled := spells_iff.1 (parse_eq_ok_iff_spells.1 h)
  constructor
  · rintro rfl piece hpiece name value rfl hname
    obtain ⟨hne, hvalues⟩ := (parse_eq_ok_iff_spells.1 h).writable
    rw [toList_text, List.splitOn_intercalate ','] at hpiece
    · obtain ⟨a, -, ha⟩ := List.mem_map.1 hpiece
      rw [toList_component] at ha
      obtain ⟨rfl, -⟩ := append_cons_inj
        (fun hmem => (NameAttribute.of_mem_shortName hmem).1 rfl) hname ha
      exact ⟨fun c hc => (NameAttribute.of_mem_shortName (List.mem_of_mem_head? hc)).2.2,
        fun c hc => (NameAttribute.of_mem_shortName (List.mem_of_mem_getLast? hc)).2.2⟩
    · intro piece hpiece
      obtain ⟨a, ha, rfl⟩ := List.mem_map.1 hpiece
      exact comma_notMem_component (hvalues a ha).2
    · simpa using hne
  · intro htight
    have hpieces : text.toList.splitOn ',' =
        subject.attributes.map fun a => (component a).toList := by
      rw [← List.forall₂_eq_eq_eq, List.forall₂_map_right_iff]
      refine ((List.forall₂_and_left _ _).2 ⟨htight, hspelled⟩).imp ?_
      rintro piece a ⟨hnames, hattribute⟩
      exact eq_component_of_tight hattribute hnames
    rw [← String.toList_inj, toList_text, ← hpieces, List.intercalate_splitOn]

/-! ## The main result -/

/-- **Exactly the texts that spell attributes are subject names.**  A text is read as the attributes
that it spells, in their order, and is refused as invalid if it spells none.  A text that is read
can be written and read again, and is written as it was exactly if no name in it has white space
around it.  At least one attribute, each with a value that has neither comma nor equals sign and is
neither empty nor too long, is written as a text that reads back. -/
theorem text_parses_exactly (text : String) :
    (∀ subject, parse text = .ok subject ↔ Spells text subject.attributes) ∧
    (parse text = .error .subjectNameInvalid ↔ ¬∃ attributes, Spells text attributes) ∧
    (∀ subject, parse text = .ok subject →
      parse subject.text = .ok subject ∧ (subject.text = text ↔ Tight text)) ∧
    ∀ attributes, attributes ≠ [] → (∀ a ∈ attributes, IsValue a.2 ∧ ',' ∉ a.2.toList) →
      parse (SubjectName.text ⟨attributes⟩) = .ok ⟨attributes⟩ := by
  refine ⟨fun subject => parse_eq_ok_iff_spells, parse_eq_error_iff, fun subject h => ⟨?_, ?_⟩,
    fun attributes => parse_text⟩
  · obtain ⟨hne, hvalues⟩ := (parse_eq_ok_iff_spells.1 h).writable
    exact parse_text hne hvalues
  · exact text_eq_iff_tight h

/-- A text with white space around its names and around a value is written without the former, and
a comma at the end leaves an empty piece, which spells nothing. -/
theorem text_parses_exactly_padded :
    let padded := " O=Acme,CN\t= d "
    let plain := "O=Acme,CN= d "
    let subject : SubjectName := ⟨[(.organization, "Acme"), (.commonName, " d ")]⟩
    parse padded = .ok subject ∧ subject.text = plain ∧ parse plain = .ok subject ∧
      ¬Tight padded ∧ Tight plain ∧
      (∀ a ∈ subject.attributes, IsValue a.2 ∧ ',' ∉ a.2.toList) ∧
      ¬∃ attributes, Spells "O=Acme," attributes := by
  intro padded plain subject
  obtain ⟨-, -, hpadded, hwritten⟩ := text_parses_exactly padded
  obtain ⟨-, -, hplain, -⟩ := text_parses_exactly plain
  obtain ⟨-, hrefused, -⟩ := text_parses_exactly "O=Acme,"
  have hread : parse padded = .ok subject := parse_eq_ok_iff.2 (by decide)
  have htext : subject.text = plain := by decide
  have hvalues : ∀ a ∈ subject.attributes, IsValue a.2 ∧ ',' ∉ a.2.toList := by
    simp only [IsValue]
    decide
  have hback : parse plain = .ok subject := htext ▸ hwritten subject.attributes (by decide) hvalues
  have hne : subject.text ≠ padded := by decide
  refine ⟨hread, htext, hback, fun htight => hne ((hpadded subject hread).2.2 htight),
    (hplain subject hback).2.1 htext, hvalues, hrefused.1 ?_⟩
  unfold parse
  decide

end SubjectName

end DeviceIdentity
