import Mathlib.Data.List.Forall2
import Mathlib.Tactic.Lemma
import Mathlib.Tactic.SplitIfs

/-!
# Lists in pieces

A list is cut at a separator, and the pieces do not have it.  The first piece is what stands in
front of the first separator, so a list is cut there in one way only.

* `splitOn_append_left`, `length_splitOn_eq_one` — what the first piece is, and when it is all.
* `notMem_of_mem_splitOn` — no piece has the separator in it.
* `append_cons_inj` — a list is cut at its first separator in one way only.
* `flatMap_append_singleton` — a separator behind each piece, or between two of them and at the end.
* `filter_intercalate`, `forall₂_intercalate` — pieces with a separator between them, without it
  again, and compared with others place by place.
* `mapM_eq_some_iff_forall₂` — pieces are read if each of them is, to what it is read to.
-/

namespace DeviceIdentity

variable {α : Type} {sep : α}

section SplitOn

variable [DecidableEq α]

lemma splitOn_append_left {front : List α} (h : sep ∉ front) (xs : List α) :
    (front ++ xs).splitOn sep = (xs.splitOn sep).modifyHead (front ++ ·) := by
  induction front with
  | nil => cases hxs : xs.splitOn sep <;> simp [hxs]
  | cons x front ih =>
    rw [List.mem_cons, not_or] at h
    have hx : ¬(x == sep) = true := by simpa using Ne.symm h.1
    rw [List.cons_append, List.splitOn_cons_eq_if_modifyHead, if_neg hx, ih h.2,
      List.modifyHead_modifyHead]
    rfl

/-- A list is one piece exactly if the separator is not in it. -/
lemma length_splitOn_eq_one {xs : List α} : (xs.splitOn sep).length = 1 ↔ sep ∉ xs := by
  constructor
  · intro hlength hmem
    obtain ⟨front, back, rfl⟩ := List.append_of_mem hmem
    rw [List.splitOn_append_cons_self, List.length_append] at hlength
    have hfront := List.length_pos_iff.2 (List.splitOn_ne_nil sep front)
    have hback := List.length_pos_iff.2 (List.splitOn_ne_nil sep back)
    omega
  · intro h
    rw [List.splitOn_eq_singleton h, List.length_singleton]

/-- No piece of a list has the separator in it. -/
lemma notMem_of_mem_splitOn {xs piece : List α} (h : piece ∈ xs.splitOn sep) : sep ∉ piece := by
  induction xs generalizing piece with
  | nil => simp_all
  | cons x xs ih =>
    rw [List.splitOn_cons_eq_if_modifyHead] at h
    obtain ⟨first, rest, hpieces⟩ := List.exists_cons_of_ne_nil (List.splitOn_ne_nil sep xs)
    simp only [hpieces, List.mem_cons, forall_eq_or_imp] at ih
    split_ifs at h with hx
    · rw [hpieces, List.mem_cons] at h
      rcases h with rfl | h
      · exact List.not_mem_nil
      · exact (List.mem_cons.1 h).elim (fun heq => heq ▸ ih.1) (ih.2 piece)
    · rw [hpieces, List.modifyHead_cons, List.mem_cons] at h
      rcases h with rfl | h
      · have hne : x ≠ sep := by simpa using hx
        simp [hne.symm, ih.1]
      · exact ih.2 piece h

end SplitOn

/-- A list is cut at its first separator in one way only. -/
lemma append_cons_inj {front front' back back' : List α} (h : sep ∉ front) (h' : sep ∉ front')
    (heq : front ++ sep :: back = front' ++ sep :: back') : front = front' ∧ back = back' := by
  induction front generalizing front' with
  | nil =>
    cases front' with
    | nil => exact ⟨rfl, (List.cons.inj heq).2⟩
    | cons x rest => exact (h' (by simp [(List.cons.inj heq).1])).elim
  | cons x rest ih =>
    cases front' with
    | nil => exact (h (by simp [(List.cons.inj heq).1])).elim
    | cons y rest' =>
      obtain ⟨rfl, htail⟩ := List.cons.inj heq
      obtain ⟨rfl, hback⟩ := ih (fun hmem => h (List.mem_cons_of_mem x hmem))
        (fun hmem => h' (List.mem_cons_of_mem x hmem)) htail
      exact ⟨rfl, hback⟩

/-- A separator behind each piece is one between two of them and one at the end. -/
lemma flatMap_append_singleton {pieces : List (List α)} (h : pieces ≠ []) :
    pieces.flatMap (· ++ [sep]) = [sep].intercalate pieces ++ [sep] := by
  induction pieces with
  | nil => exact (h rfl).elim
  | cons piece rest ih =>
    cases rest with
    | nil => simp
    | cons next more => rw [List.flatMap_cons, ih (List.cons_ne_nil _ _)]; simp

/-- A separator that is in no piece can be taken out again. -/
lemma filter_intercalate [DecidableEq α] {pieces : List (List α)}
    (h : ∀ piece ∈ pieces, sep ∉ piece) :
    ([sep].intercalate pieces).filter (· ≠ sep) = pieces.flatten := by
  have hpiece : ∀ piece ∈ pieces, piece.filter (· ≠ sep) = piece := by
    intro piece hmem
    refine List.filter_eq_self.2 fun a ha => decide_eq_true ?_
    rintro rfl
    exact h piece hmem ha
  induction pieces with
  | nil => rfl
  | cons piece rest ih =>
    have hrest := ih (fun p hp => h p (.tail _ hp)) fun p hp => hpiece p (.tail _ hp)
    cases rest with
    | nil => simpa using hpiece piece (.head _)
    | cons next more =>
      rw [List.intercalate_cons_cons, List.filter_append, List.filter_append, hrest,
        hpiece piece (.head _)]
      simp

/-- Pieces that can be compared one by one can be compared with separators between them. -/
lemma forall₂_intercalate {β : Type} {R : α → β → Prop} {sep' : β} {pieces : List (List α)}
    {pieces' : List (List β)} (hsep : R sep sep')
    (h : List.Forall₂ (List.Forall₂ R) pieces pieces') :
    List.Forall₂ R ([sep].intercalate pieces) ([sep'].intercalate pieces') := by
  induction h with
  | nil => exact .nil
  | @cons piece piece' rest rest' hpiece hrest ih =>
    cases hrest with
    | nil => simpa using hpiece
    | cons hnext hmore =>
      rw [List.intercalate_cons_cons, List.intercalate_cons_cons]
      exact List.rel_append (List.rel_append hpiece (.cons hsep .nil)) ih

lemma mapM_eq_some_iff_forall₂ {β : Type} {f : α → Option β} {l : List α} {l' : List β} :
    l.mapM f = some l' ↔ List.Forall₂ (fun a b => f a = some b) l l' := by
  induction l generalizing l' with
  | nil => simp [eq_comm]
  | cons a l ih =>
    simp only [List.mapM_cons, Option.bind_eq_bind, Option.bind_eq_some_iff, Option.pure_def,
      Option.some.injEq, List.forall₂_cons_left_iff, ih]
    constructor
    · rintro ⟨b, hb, rest, hrest, rfl⟩
      exact ⟨b, rest, hb, hrest, rfl⟩
    · rintro ⟨b, rest, hb, hrest, rfl⟩
      exact ⟨b, hb, rest, hrest, rfl⟩

/-- What holds of everything that one of two lists can be paired with. -/
lemma forall_of_forall₂ {β : Type} {p : β → Prop} {l : List α} {l' : List β}
    (h : List.Forall₂ (fun _ b => p b) l l') : ∀ b ∈ l', p b := by
  induction h with
  | nil => simp
  | cons hb _ ih => simpa using ⟨hb, ih⟩

end DeviceIdentity
