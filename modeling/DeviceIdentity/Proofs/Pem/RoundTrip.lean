import Mathlib.Data.List.Basic
import Mathlib.Tactic.Lemma
import DeviceIdentity.Pem.Armor

/-!
# What is armored reads back

Octets are written three at a time, and each group reads back as itself; that leaves the last group,
with one or two octets and its padding.  The text in between the markers has no hyphen, so the END
marker is first met where it was written, whatever the label.

* `Base64.decode_encode` — octets read back from their base64 text.
* `Pem.cut?_eq_some_iff` — a text is cut where the marker occurs first.
* `Pem.decode_of_markers` — octets are read from between the markers.
* **`Pem.decode_encode`** — octets read back from their armored text, under every label.
-/

namespace DeviceIdentity

namespace Base64

/-- The characters that base64 text consists of, the padding last. -/
def characters : List Char :=
  "ABCDEFGHIJKLMNOPQRSTUVWXYZabcdefghijklmnopqrstuvwxyz0123456789+/=".toList

lemma symbol_mem_characters : ∀ n < 64, symbol n ∈ characters := by
  decide

/-- No number is written as the padding. -/
lemma symbol_ne_padding : ∀ n < 64, symbol n ≠ '=' := by
  decide

/-- Four characters without padding are read as one group. -/
lemma decode_group {c d e f : Char} {p q r s : Nat} (hc : value? c = some p)
    (hd : value? d = some q) (he : value? e = some r) (hf : value? f = some s)
    (rest : List Char) :
    decode (c :: d :: e :: f :: rest) = (decode rest).map fun more =>
      UInt8.ofNat (p * 4 + q / 16) :: UInt8.ofNat (q % 16 * 16 + r / 4) ::
        UInt8.ofNat (r % 4 * 64 + s) :: more := by
  have hpadding : f ≠ '=' := by
    have hnone : value? '=' = none := by decide
    rintro rfl
    rw [hnone] at hf
    cases hf
  rw [decode.eq_4 c d e f rest (fun _ hpad _ => hpadding hpad) (fun hpad _ => hpadding hpad)]
  simp only [Option.bind_eq_bind, hc, hd, he, hf, Option.bind_some]
  cases decode rest <;> rfl

/-- Octets are the numbers that their sextets were cut from. -/
lemma ofNat_eq {n : Nat} {b : UInt8} (h : n = b.toNat) : UInt8.ofNat n = b := by
  rw [h, UInt8.ofNat_toNat]

/-- **Octets read back from their base64 text.** -/
theorem decode_encode (bs : Bytes) : decode (encode bs) = some bs := by
  fun_induction encode bs with
  | case1 a b c rest ih =>
    have ha : a.toNat < 256 := a.toNat_lt
    have hb : b.toNat < 256 := b.toNat_lt
    have hc : c.toNat < 256 := c.toNat_lt
    rw [decode_group (value?_symbol _ (by omega)) (value?_symbol _ (by omega))
      (value?_symbol _ (by omega)) (value?_symbol _ (by omega)), ih, Option.map_some,
      ofNat_eq (by omega : _ = a.toNat), ofNat_eq (by omega : _ = b.toNat),
      ofNat_eq (by omega : _ = c.toNat)]
  | case2 a b =>
    have ha : a.toNat < 256 := a.toNat_lt
    have hb : b.toNat < 256 := b.toNat_lt
    have hthird : b.toNat % 16 * 4 < 64 := by omega
    rw [decode.eq_3 _ _ _ (symbol_ne_padding _ hthird)]
    simp only [Option.bind_eq_bind, Option.bind_some, value?_symbol _ hthird,
      value?_symbol (a.toNat / 4) (by omega),
      value?_symbol (a.toNat % 4 * 16 + b.toNat / 16) (by omega)]
    rw [if_pos (by omega), ofNat_eq (by omega : _ = a.toNat), ofNat_eq (by omega : _ = b.toNat)]
  | case3 a =>
    have ha : a.toNat < 256 := a.toNat_lt
    rw [decode.eq_2]
    simp only [Option.bind_eq_bind, Option.bind_some, value?_symbol (a.toNat / 4) (by omega),
      value?_symbol (a.toNat % 4 * 16) (by omega)]
    rw [if_pos (by omega), ofNat_eq (by omega : _ = a.toNat)]
  | case4 => rfl

lemma mem_characters_of_mem_encode {bs : Bytes} {c : Char} (h : c ∈ encode bs) :
    c ∈ characters := by
  have hpadding : '=' ∈ characters := by decide
  fun_induction encode bs with
  | case1 a b d rest ih =>
    have ha : a.toNat < 256 := a.toNat_lt
    have hb : b.toNat < 256 := b.toNat_lt
    have hd : d.toNat < 256 := d.toNat_lt
    simp only [List.mem_cons] at h
    rcases h with rfl | rfl | rfl | rfl | h
    · exact symbol_mem_characters _ (by omega)
    · exact symbol_mem_characters _ (by omega)
    · exact symbol_mem_characters _ (by omega)
    · exact symbol_mem_characters _ (by omega)
    · exact ih h
  | case2 a b =>
    have ha : a.toNat < 256 := a.toNat_lt
    have hb : b.toNat < 256 := b.toNat_lt
    simp only [List.mem_cons, List.not_mem_nil, or_false] at h
    rcases h with rfl | rfl | rfl | rfl
    · exact symbol_mem_characters _ (by omega)
    · exact symbol_mem_characters _ (by omega)
    · exact symbol_mem_characters _ (by omega)
    · exact hpadding
  | case3 a =>
    have ha : a.toNat < 256 := a.toNat_lt
    simp only [List.mem_cons, List.not_mem_nil, or_false] at h
    rcases h with rfl | rfl | rfl | rfl
    · exact symbol_mem_characters _ (by omega)
    · exact symbol_mem_characters _ (by omega)
    · exact hpadding
    · exact hpadding
  | case4 => cases h

/-- Base64 text has no hyphen and no white space. -/
lemma mem_encode {bs : Bytes} {c : Char} (h : c ∈ encode bs) :
    c ≠ '-' ∧ Pem.isFiller c = false := by
  have hall : characters.all (fun c => c != '-' && !Pem.isFiller c) = true := by decide
  have hc := List.all_eq_true.1 hall c (mem_characters_of_mem_encode h)
  simpa using hc

end Base64

namespace Pem

/-- **A text is cut where the marker occurs first.** -/
lemma cut?_eq_some_iff {marker text before after : List Char} :
    cut? marker text = some (before, after) ↔
      before ++ (marker ++ after) = text ∧
        ∀ front back, front ++ (marker ++ back) = text → before.length ≤ front.length := by
  induction text generalizing before with
  | nil =>
    rw [cut?]
    constructor
    · intro h
      split_ifs at h with hmarker
      cases h
      exact ⟨by rw [hmarker]; rfl, fun front _ _ => Nat.zero_le front.length⟩
    · rintro ⟨hshown, -⟩
      obtain ⟨rfl, hmarker⟩ := List.append_eq_nil_iff.1 hshown
      obtain ⟨rfl, rfl⟩ := List.append_eq_nil_iff.1 hmarker
      exact if_pos rfl
  | cons c cs ih =>
    rw [cut?]
    cases hcut : marker.isPrefixOf? (c :: cs) with
    | some left =>
      have hleft : marker ++ left = c :: cs := List.isPrefixOf?_eq_some_iff_append_eq.1 hcut
      constructor
      · intro h
        cases h
        exact ⟨hleft, fun front _ _ => Nat.zero_le front.length⟩
      · rintro ⟨hshown, hfirst⟩
        have hnone : before.length = 0 := Nat.le_zero.1 (hfirst [] left hleft)
        obtain rfl := List.eq_nil_of_length_eq_zero hnone
        rw [List.append_cancel_left (hleft.trans hshown.symm)]
    | none =>
      -- the marker is not at the front, so every occurrence has the first character before it
      have hno : ∀ back, marker ++ back ≠ c :: cs := by
        intro back hback
        rw [List.isPrefixOf?_eq_some_iff_append_eq.2 hback] at hcut
        cases hcut
      constructor
      · intro h
        obtain ⟨⟨front', rest⟩, hrest, heq⟩ := Option.map_eq_some_iff.1 h
        cases heq
        obtain ⟨hshown, hfirst⟩ := ih.1 hrest
        refine ⟨congrArg (c :: ·) hshown, ?_⟩
        intro front back hback
        cases front with
        | nil => exact absurd hback (hno back)
        | cons d front => exact Nat.succ_le_succ (hfirst front back (List.cons.inj hback).2)
      · rintro ⟨hshown, hfirst⟩
        cases before with
        | nil => exact absurd hshown (hno after)
        | cons d before =>
          obtain ⟨rfl, hbehind⟩ := List.cons.inj hshown
          have hrest := ih.2 ⟨hbehind, fun front back hback =>
            Nat.le_of_succ_le_succ (hfirst (d :: front) back (congrArg (d :: ·) hback))⟩
          exact Option.map_eq_some_iff.2 ⟨_, hrest, rfl⟩

/-- A marker is found behind a text that does not have its first character. -/
lemma cut?_of_not_mem {first : Char} {marker before : List Char} (h : first ∉ before)
    (after : List Char) :
    cut? (first :: marker) (before ++ (first :: marker ++ after)) = some (before, after) := by
  refine cut?_eq_some_iff.2 ⟨rfl, fun front back hback => ?_⟩
  rcases List.append_eq_append_iff.1 hback with ⟨more, rfl, hmore⟩ | ⟨more, rfl, -⟩
  · -- the occurrence begins in front, or where it is shown
    cases more with
    | nil => simp
    | cons c more =>
      obtain ⟨rfl, -⟩ := List.cons.inj hmore
      exact absurd (List.mem_append_right front (List.mem_cons_self ..)) h
  · rw [List.length_append]
    exact Nat.le_add_right ..

/-- What stands between the markers: the rows of the base64 text, each on a line of its own. -/
def body (octets : Bytes) : List Char :=
  '\n' :: (rows 64 (Base64.encode octets)).flatMap fun row => row ++ ['\n']

lemma toList_encode (label : String) (octets : Bytes) :
    (encode label octets).toList = (beginMarker label).toList ++
      (body octets ++ ((endMarker label).toList ++ ['\n'])) := by
  simp [encode, body, List.flatMap_map]

lemma mem_of_mem_rows {α : Type} {width : Nat} {xs row : List α} {x : α} (h : row ∈ rows width xs)
    (hx : x ∈ row) : x ∈ xs := by
  rw [← flatten_rows width xs]
  exact List.mem_flatten.2 ⟨row, h, hx⟩

lemma hyphen_not_mem_body (octets : Bytes) : '-' ∉ body octets := by
  intro h
  rcases List.mem_cons.1 h with hbreak | h
  · exact absurd hbreak (by decide)
  obtain ⟨row, hrow, h⟩ := List.mem_flatMap.1 h
  rcases List.mem_append.1 h with h | hbreak
  · exact (Base64.mem_encode (mem_of_mem_rows hrow h)).1 rfl
  · exact absurd (List.mem_singleton.1 hbreak) (by decide)

lemma filter_body (octets : Bytes) :
    (body octets).filter (fun c => !isFiller c) = Base64.encode octets := by
  have hkept : ∀ row ∈ rows 64 (Base64.encode octets),
      (row ++ ['\n']).filter (fun c => !isFiller c) = row := by
    intro row hrow
    have hrowKept : ∀ c ∈ row, (!isFiller c) = true := by
      intro c hc
      rw [(Base64.mem_encode (mem_of_mem_rows hrow hc)).2, Bool.not_false]
    have hbreak : ['\n'].filter (fun c => !isFiller c) = [] := by decide
    rw [List.filter_append, List.filter_eq_self.2 hrowKept, hbreak, List.append_nil]
  have hfirst : (!isFiller '\n') = false := by decide
  rw [body, List.filter_cons, hfirst, if_neg (by simp), List.filter_flatMap, List.flatMap_def,
    List.map_congr_left hkept, List.map_id', flatten_rows]

/-- The octets of a body are read from between the markers, if its base64 text is broken by nothing
but white space and the BEGIN marker is not met earlier. -/
lemma decode_of_markers {label text : String} {octets : Bytes} {before body after : List Char}
    (htext : text.toList = before ++ ((beginMarker label).toList ++
      (body ++ ((endMarker label).toList ++ after))))
    (hfirst : ∀ front back, front ++ ((beginMarker label).toList ++ back) = text.toList →
      before.length ≤ front.length)
    (hhyphen : '-' ∉ body) (hbody : body.filter (fun c => !isFiller c) = Base64.encode octets) :
    decode label text = .ok octets := by
  obtain ⟨marker, hmarker⟩ : ∃ marker, (endMarker label).toList = '-' :: marker :=
    ⟨_, by simp [endMarker]; rfl⟩
  have hbegin : cut? (beginMarker label).toList text.toList =
      some (before, body ++ ((endMarker label).toList ++ after)) :=
    cut?_eq_some_iff.2 ⟨htext.symm, hfirst⟩
  have hend : cut? (endMarker label).toList (body ++ ((endMarker label).toList ++ after)) =
      some (body, after) := by
    rw [hmarker]
    exact cut?_of_not_mem hhyphen after
  simp only [decode, hbegin, Option.bind_eq_bind, Option.bind_some, hend, hbody,
    Base64.decode_encode]

/-- **Octets read back from their armored text**, under every label. -/
theorem decode_encode (label : String) (octets : Bytes) :
    decode label (encode label octets) = .ok octets := by
  have htext : (encode label octets).toList = [] ++ ((beginMarker label).toList ++
      (body octets ++ ((endMarker label).toList ++ ['\n']))) := toList_encode label octets
  exact decode_of_markers htext (fun front _ _ => Nat.zero_le front.length)
    (hyphen_not_mem_body octets) (filter_body octets)

end Pem

end DeviceIdentity
