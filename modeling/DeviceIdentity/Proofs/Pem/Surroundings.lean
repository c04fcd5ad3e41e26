import DeviceIdentity.Proofs.Pem.RoundTrip

/-!
# Armored text among other text

Armored text is mailed, pasted and folded, so it may stand in the middle of other text and its body
may be broken into other lines.  Neither matters as long as the BEGIN marker is not met earlier: a
label may be anything, even parts of markers, since the body itself has no hyphen.

* `length_of_mem_dropLast_rows`, `length_of_mem_rows` — rows are full, and the last may be shorter.
* `Spaced` — a text with white space put into it.
* `decode_surrounded` — octets are read from armor with anything before and behind it.
* `AreLines` — the lines that the base64 text is cut into.
* **`armor_reads_back`** — octets are armored in lines of 64 characters, and are read from armor in
  any surroundings.
-/

namespace DeviceIdentity

/-! ## Rows -/

section

variable {α : Type} {width : Nat} {xs row : List α}

lemma length_of_mem_rows (hwidth : 0 < width) (h : row ∈ rows width xs) : row.length ≤ width := by
  fun_induction rows width xs with
  | case1 => cases h
  | case2 x xs ih =>
    rcases List.mem_cons.1 h with rfl | h
    · rw [List.length_cons, List.length_take]
      omega
    · exact ih h

/-- Another row begins only when one is full. -/
lemma length_of_mem_dropLast_rows (hwidth : 0 < width) (h : row ∈ (rows width xs).dropLast) :
    row.length = width := by
  fun_induction rows width xs with
  | case1 => cases h
  | case2 x xs ih =>
    cases hmore : rows width (xs.drop (width - 1)) with
    | nil =>
      rw [hmore] at h
      cases h
    | cons next more =>
      rw [hmore] at h ih
      rw [List.dropLast_cons_cons] at h
      rcases List.mem_cons.1 h with rfl | h
      · have hleft : 0 < (xs.drop (width - 1)).length := by
          refine List.length_pos_iff.2 fun hnil => ?_
          rw [hnil, rows] at hmore
          cases hmore
        rw [List.length_drop] at hleft
        rw [List.length_cons, List.length_take]
        omega
      · exact ih h

lemma rows_eq_nil_iff : rows width xs = [] ↔ xs = [] := by
  cases xs with
  | nil => simp [rows]
  | cons x xs => simp [rows]

end

namespace Base64

lemma encode_eq_nil_iff {octets : Bytes} : encode octets = [] ↔ octets = [] := by
  fun_cases encode octets <;> simp

end Base64

namespace Pem

/-! ## White space -/

/-- The text `spaced` is `plain` with any number of blanks, tabs, line feeds, form feeds and
carriage returns put in. -/
inductive Spaced : (plain spaced : List Char) → Prop where
  | nil : Spaced [] []
  | keep (c : Char) {plain spaced : List Char} (h : Spaced plain spaced) :
      Spaced (c :: plain) (c :: spaced)
  | space {c : Char} (hc : c ∈ [' ', '\t', '\n', '\x0c', '\r']) {plain spaced : List Char}
      (h : Spaced plain spaced) : Spaced plain (c :: spaced)

namespace Spaced

variable {plain spaced : List Char}

/-- White space is taken out again. -/
lemma filter_eq (h : Spaced plain spaced) (hplain : ∀ c ∈ plain, isFiller c = false) :
    spaced.filter (fun c => !isFiller c) = plain := by
  induction h with
  | nil => rfl
  | keep c _ ih =>
    obtain ⟨hc, hrest⟩ := List.forall_mem_cons.1 hplain
    rw [List.filter_cons_of_pos (by rw [hc, Bool.not_false]), ih hrest]
  | space hc _ ih =>
    have hfillers : [' ', '\t', '\n', '\x0c', '\r'].all isFiller = true := by decide
    have hfiller := List.all_eq_true.1 hfillers _ hc
    rw [List.filter_cons_of_neg (by rw [hfiller, Bool.not_true]; exact Bool.false_ne_true),
      ih hplain]

/-- White space brings no hyphen. -/
lemma hyphen_not_mem (h : Spaced plain spaced) (hplain : '-' ∉ plain) : '-' ∉ spaced := by
  induction h with
  | nil => exact hplain
  | keep c _ ih =>
    obtain ⟨hc, hrest⟩ := not_or.1 (mt List.mem_cons.2 hplain)
    exact mt List.mem_cons.1 (not_or.2 ⟨hc, ih hrest⟩)
  | space hc _ ih =>
    refine mt List.mem_cons.1 (not_or.2 ⟨?_, ih hplain⟩)
    rintro rfl
    exact absurd hc (by decide)

end Spaced

/-- Octets are read from between the markers, whatever white space is put into their base64 text. -/
lemma decode_surrounded {label before body after : String} {octets : Bytes}
    (hfirst : ∀ front back : String, front ++ beginMarker label ++ back =
        before ++ beginMarker label ++ body ++ endMarker label ++ after →
      before.length ≤ front.length)
    (hbody : Spaced (Base64.encode octets) body.toList) :
    decode label (before ++ beginMarker label ++ body ++ endMarker label ++ after) =
      .ok octets := by
  have htext : (before ++ beginMarker label ++ body ++ endMarker label ++ after).toList =
      before.toList ++ ((beginMarker label).toList ++
        (body.toList ++ ((endMarker label).toList ++ after.toList))) := by
    simp only [String.toList_append, List.append_assoc]
  refine decode_of_markers htext ?_
    (hbody.hyphen_not_mem fun h => (Base64.mem_encode h).1 rfl)
    (hbody.filter_eq fun c hc => (Base64.mem_encode hc).2)
  intro front back hback
  have hshown := hfirst (String.ofList front) (String.ofList back) (String.toList_inj.1 (by
    rw [← hback]
    simp only [String.toList_append, String.toList_ofList, List.append_assoc]))
  rwa [String.length_ofList, ← String.length_toList] at hshown

/-! ## The lines of a body -/

/-- The lines are the base64 text of the octets, cut after every 64 characters. -/
structure AreLines (octets : Bytes) (lines : List String) : Prop where
  joined : (String.join lines).toList = Base64.encode octets
  characters : ∀ line ∈ lines, ∀ c ∈ line.toList, c ∈ Base64.characters
  full : ∀ line ∈ lines.dropLast, line.length = 64
  last : ∀ line ∈ lines.getLast?, 1 ≤ line.length ∧ line.length ≤ 64
  nil_iff : lines = [] ↔ octets = []

lemma areLines_rows (octets : Bytes) :
    AreLines octets ((rows 64 (Base64.encode octets)).map String.ofList) := by
  have hrow : ∀ line ∈ (rows 64 (Base64.encode octets)).map String.ofList,
      line.toList ∈ rows 64 (Base64.encode octets) := by
    intro line hline
    obtain ⟨row, hrow, rfl⟩ := List.mem_map.1 hline
    rwa [String.toList_ofList]
  constructor
  case joined =>
    rw [String.toList_join, List.flatMap_map]
    simp only [String.toList_ofList, List.flatMap_id', flatten_rows]
  case characters =>
    intro line hline c hc
    exact Base64.mem_characters_of_mem_encode (mem_of_mem_rows (hrow line hline) hc)
  case full =>
    intro line hline
    rw [← List.map_dropLast] at hline
    obtain ⟨row, hrow, rfl⟩ := List.mem_map.1 hline
    rw [String.length_ofList]
    exact length_of_mem_dropLast_rows (by decide) hrow
  case last =>
    intro line hline
    have hmem := hrow line (List.mem_of_mem_getLast? hline)
    rw [← String.length_toList]
    exact ⟨List.length_pos_iff.2 (ne_nil_of_mem_rows hmem), length_of_mem_rows (by decide) hmem⟩
  case nil_iff => rw [List.map_eq_nil_iff, rows_eq_nil_iff, Base64.encode_eq_nil_iff]

/-! ## The main result -/

/-- **Armor reads back, in any surroundings.**  Octets read back from their armored text under every
label.  The lines between the markers are the base64 text cut after every 64 characters, and there
is none exactly when there are no octets.  The same octets are read from every text in which such
markers stand around the base64 text, whatever white space is put into it and whatever stands before
and behind, if only the BEGIN marker does not occur earlier than shown. -/
theorem armor_reads_back (label : String) (octets : Bytes) :
    decode label (encode label octets) = .ok octets ∧
    (∃ lines, AreLines octets lines ∧
      encode label octets = beginMarker label ++ "\n" ++ String.join (lines.map (· ++ "\n")) ++
        endMarker label ++ "\n") ∧
    (∀ before body after : String,
      (∀ front back : String, front ++ beginMarker label ++ back =
          before ++ beginMarker label ++ body ++ endMarker label ++ after →
        before.length ≤ front.length) →
      Spaced (Base64.encode octets) body.toList →
        decode label (before ++ beginMarker label ++ body ++ endMarker label ++ after) =
          .ok octets) := by
  refine ⟨decode_encode label octets, ⟨_, areLines_rows octets, ?_⟩, ?_⟩
  · rw [encode, List.map_map]
    rfl
  · intro before body after hfirst hbody
    exact decode_surrounded hfirst hbody

/-- A label with a line break and parts of markers in it, behind something that is almost the
marker, and a body that is folded in the middle of its padding. -/
theorem armor_reads_back_folded :
    let label := "-----\n-----BEGIN "
    let before := "-----BEGIN -----\n-----BEGIN"
    let body := "\x0c W\tg=\r\n= "
    decode label (before ++ beginMarker label ++ body ++ endMarker label ++ "-----END") =
      .ok [0x5A] := by
  intro label before body
  refine (armor_reads_back label [0x5A]).2.2 before body "-----END" ?_ ?_
  · intro front back hback
    have hcut : cut? (beginMarker label).toList
        (before ++ beginMarker label ++ body ++ endMarker label ++ "-----END").toList =
          some (before.toList, (body ++ endMarker label ++ "-----END").toList) := by
      decide +kernel
    have hshown := (cut?_eq_some_iff.1 hcut).2 front.toList back.toList (by
      rw [← hback]
      simp only [String.toList_append, List.append_assoc])
    rwa [String.length_toList, String.length_toList] at hshown
  · have hplain : Base64.encode [0x5A] = ['W', 'g', '=', '='] := by decide
    have hbody : body.toList = ['\x0c', ' ', 'W', '\t', 'g', '=', '\r', '\n', '=', ' '] := by
      decide
    rw [hplain, hbody]
    exact .space (by decide) <| .space (by decide) <| .keep 'W' <| .space (by decide) <|
      .keep 'g' <| .keep '=' <| .space (by decide) <| .space (by decide) <| .keep '=' <|
      .space (by decide) .nil

end Pem

end DeviceIdentity
