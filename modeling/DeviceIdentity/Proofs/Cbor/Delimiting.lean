import Mathlib.Tactic.Lemma
import Mathlib.Tactic.SplitIfs
import DeviceIdentity.Cbor.Reader

/-!
# Where an item ends is decided by the item

What the reader takes from the front of some octets does not depend on what follows: with more
octets behind, it reads the same and leaves the more octets over.  This holds of every spelling,
with lengths that are left open and numbers that are longer than needed.

Two places need care.  The loops without stated length are bounded by the octets that are left, and
more octets raise the bound.  And the reader looks ahead twice, for a break and for the octets of a
large integer; what it does not find there it might find when more octets follow.  It would then
have failed without them, since whatever it reads instead begins with the same head.

* `Local` — what a reader reads does not depend on what follows.
* `Reads` — a reader is local and begins with a head, and with the content of that head if this is
  a byte string of stated length.
* `local_readString?`, `Reads.local_readParts?`, `Reads.local_readTagged?` — the parts of an item.
* `reads_readWithin?` — items, by induction on the depth.
* **`read?_append`** — what is read from the front does not depend on what follows.
-/

namespace DeviceIdentity

namespace CborItem

variable {α : Type} {bs rest : Bytes}

/-- More octets after those that are read are left over, and change nothing. -/
def Local (read? : Bytes → Option (α × Bytes)) : Prop :=
  ∀ {bs rest : Bytes} {a : α}, read? bs = some (a, rest) →
    ∀ more, read? (bs ++ more) = some (a, rest ++ more)

lemma Local.map {β : Type} {read? : Bytes → Option (α × Bytes)} (h : Local read?) (f : α → β) :
    Local fun bs => (read? bs).map fun found => (f found.1, found.2) := by
  intro bs rest b hmap more
  obtain ⟨⟨a, left⟩, hread, heq⟩ := Option.map_eq_some_iff.1 hmap
  obtain ⟨rfl, rfl⟩ := Prod.mk.inj heq
  simp only [h hread more, Option.map_some]

/-! ## Heads -/

lemma split?_eq_some_iff {n : Nat} {front : Bytes} :
    split? n bs = some (front, rest) ↔ front.length = n ∧ bs = front ++ rest := by
  unfold split?
  constructor
  · intro h
    simp only at h
    split_ifs at h with hlength
    obtain ⟨rfl, rfl⟩ := Prod.mk.inj (Option.some.inj h)
    exact ⟨hlength, (List.take_append_drop n bs).symm⟩
  · rintro ⟨rfl, rfl⟩
    simp

lemma local_split? (n : Nat) : Local (split? n) := by
  intro bs rest front h more
  obtain ⟨hlength, rfl⟩ := split?_eq_some_iff.1 h
  exact split?_eq_some_iff.2 ⟨hlength, List.append_assoc ..⟩

lemma local_readHead? : Local readHead? := by
  intro bs rest head h more
  cases bs with
  | nil => cases h
  | cons first bs =>
    rw [List.cons_append]
    simp only [readHead?, Option.bind_eq_bind] at h ⊢
    by_cases hopen : first.toNat % 32 = 31
    · rw [if_pos hopen] at h ⊢
      obtain ⟨found, hfound, heq⟩ := Option.map_eq_some_iff.1 h
      obtain ⟨rfl, rfl⟩ := Prod.mk.inj heq
      rw [hfound, Option.map_some]
    · rw [if_neg hopen] at h ⊢
      obtain ⟨width, hwidth, h⟩ := Option.bind_eq_some_iff.1 h
      obtain ⟨⟨octets, left⟩, hsplit, h⟩ := Option.bind_eq_some_iff.1 h
      rw [hwidth, Option.bind_some, local_split? width hsplit more, Option.bind_some]
      by_cases hseven : first.toNat / 32 = 7
      · rw [if_pos hseven] at h ⊢
        obtain ⟨rfl, rfl⟩ := Prod.mk.inj (Option.some.inj h)
        rfl
      · rw [if_neg hseven] at h ⊢
        obtain ⟨found, hfound, heq⟩ := Option.map_eq_some_iff.1 h
        obtain ⟨rfl, rfl⟩ := Prod.mk.inj heq
        rw [hfound, Option.map_some]

/-! ## Strings -/

/-- The loop over chunks reads the same when its bound is raised and more octets follow. -/
lemma readChunks?_append {chunk? : Head → Option (Option Nat)} {fuel nested : Nat}
    {chunks : List Bytes} (h : readChunks? chunk? fuel nested bs = some (chunks, rest))
    (more : Bytes) (extra : Nat) :
    readChunks? chunk? (fuel + extra) nested (bs ++ more) = some (chunks, rest ++ more) := by
  induction fuel generalizing nested bs chunks with
  | zero => cases h
  | succ fuel ih =>
    rw [Nat.add_right_comm, readChunks?]
    rw [readChunks?] at h
    simp only [Option.bind_eq_bind] at h ⊢
    obtain ⟨⟨head, left⟩, hhead, h⟩ := Option.bind_eq_some_iff.1 h
    rw [local_readHead? hhead more, Option.bind_some]
    by_cases hstop : head = .stop
    · simp only [if_pos hstop] at h ⊢
      by_cases hnested : nested ≤ 1
      · rw [if_pos hnested] at h ⊢
        obtain ⟨rfl, rfl⟩ := Prod.mk.inj (Option.some.inj h)
        rfl
      · rw [if_neg hnested] at h ⊢
        exact ih h
    · simp only [if_neg hstop] at h ⊢
      cases hchunk : chunk? head with
      | none =>
        rw [hchunk] at h
        cases h
      | some length =>
        rw [hchunk] at h
        cases length with
        | none => exact ih h
        | some length =>
          obtain ⟨⟨octets, left'⟩, hsplit, h⟩ := Option.bind_eq_some_iff.1 h
          obtain ⟨⟨later, left''⟩, hlater, h⟩ := Option.bind_eq_some_iff.1 h
          obtain ⟨rfl, rfl⟩ := Prod.mk.inj (Option.some.inj h)
          simp only [local_split? length hsplit more, Option.bind_some, ih hlater]

lemma local_readString? (chunk? : Head → Option (Option Nat)) (length : Option Nat) :
    Local (readString? chunk? length) := by
  intro bs rest chunks h more
  cases length with
  | none =>
    rw [readString?, List.length_append]
    exact readChunks?_append h more more.length
  | some length =>
    obtain ⟨⟨octets, left⟩, hsplit, heq⟩ := Option.map_eq_some_iff.1 h
    obtain ⟨rfl, rfl⟩ := Prod.mk.inj heq
    rw [readString?, local_split? length hsplit more, Option.map_some]

/-! ## Readers of items -/

/-- A reader of items, or of parts of items: it is local, and what it reads begins with a head, and
with the content of that head if this is a byte string of stated length. -/
structure Reads (read? : Bytes → Option (α × Bytes)) : Prop where
  isLocal : Local read?
  begins {bs rest : Bytes} {a : α} : read? bs = some (a, rest) →
    ∃ head left, readHead? bs = some (head, left) ∧ head ≠ .stop ∧
      ∀ length, head = .bytes (some length) → (split? length left).isSome = true

/-- The reader that fails. -/
lemma reads_none : Reads fun _ : Bytes => (none : Option (α × Bytes)) := ⟨nofun, nofun⟩

section Parts

variable {part? : Bytes → Option (α × Bytes)} {item? : Bytes → Option (CborItem × Bytes)}

lemma local_readTimes? (h : Local part?) (n : Nat) : Local (readTimes? part? n) := by
  induction n with
  | zero =>
    intro bs rest parts hread more
    obtain ⟨rfl, rfl⟩ := Prod.mk.inj (Option.some.inj hread)
    rfl
  | succ n ih =>
    intro bs rest parts hread more
    obtain ⟨⟨part, left⟩, hpart, hread⟩ := Option.bind_eq_some_iff.1 hread
    obtain ⟨⟨later, left'⟩, hlater, hread⟩ := Option.bind_eq_some_iff.1 hread
    obtain ⟨rfl, rfl⟩ := Prod.mk.inj (Option.some.inj hread)
    simp only [CborItem.readTimes?, Option.bind_eq_bind, h hpart more, Option.bind_some,
      ih hlater more]

/-- Where a part is read there is no break, and more octets do not make one. -/
lemma Reads.afterStop?_append (h : Reads part?) {a : α} (hpart : part? bs = some (a, rest))
    (more : Bytes) : afterStop? (bs ++ more) = none := by
  obtain ⟨head, left, hhead, hstop, -⟩ := h.begins hpart
  rw [afterStop?, local_readHead? hhead more]
  cases head with
  | stop => exact (hstop rfl).elim
  | _ => rfl

lemma local_afterStop? {left : Bytes} (h : afterStop? bs = some left) (more : Bytes) :
    afterStop? (bs ++ more) = some (left ++ more) := by
  unfold afterStop? at h ⊢
  split at h
  · next hhead =>
    obtain rfl := Option.some.inj h
    rw [local_readHead? hhead more]
  · cases h

/-- The loop up to a break reads the same when its bound is raised and more octets follow. -/
lemma Reads.readUntilStop?_append (h : Reads part?) {fuel : Nat} {parts : List α}
    (hread : readUntilStop? part? fuel bs = some (parts, rest)) (more : Bytes) (extra : Nat) :
    readUntilStop? part? (fuel + extra) (bs ++ more) = some (parts, rest ++ more) := by
  induction fuel generalizing bs parts with
  | zero => cases hread
  | succ fuel ih =>
    rw [Nat.add_right_comm, readUntilStop?]
    rw [readUntilStop?] at hread
    cases hstop : afterStop? bs with
    | some left =>
      rw [hstop] at hread
      obtain ⟨rfl, rfl⟩ := Prod.mk.inj (Option.some.inj hread)
      rw [local_afterStop? hstop more]
    | none =>
      rw [hstop] at hread
      obtain ⟨⟨part, left⟩, hpart, hread⟩ := Option.bind_eq_some_iff.1 hread
      obtain ⟨⟨later, left'⟩, hlater, hread⟩ := Option.bind_eq_some_iff.1 hread
      obtain ⟨rfl, rfl⟩ := Prod.mk.inj (Option.some.inj hread)
      rw [h.afterStop?_append hpart more]
      simp only [Option.bind_eq_bind, h.isLocal hpart more, Option.bind_some, ih hlater]

lemma Reads.local_readParts? (h : Reads part?) (length : Option Nat) :
    Local (readParts? part? length) := by
  intro bs rest parts hread more
  cases length with
  | none =>
    rw [readParts?, List.length_append]
    exact h.readUntilStop?_append hread more more.length
  | some length => exact local_readTimes? h.isLocal length hread more

lemma Reads.readPair? (h : Reads item?) : Reads (readPair? item?) := by
  constructor
  · intro bs rest entry hread more
    obtain ⟨⟨key, left⟩, hkey, hread⟩ := Option.bind_eq_some_iff.1 hread
    obtain ⟨⟨value, left'⟩, hvalue, hread⟩ := Option.bind_eq_some_iff.1 hread
    obtain ⟨rfl, rfl⟩ := Prod.mk.inj (Option.some.inj hread)
    simp only [CborItem.readPair?, Option.bind_eq_bind, h.isLocal hkey more, Option.bind_some,
      h.isLocal hvalue more]
  · intro bs rest entry hread
    obtain ⟨⟨key, left⟩, hkey, -⟩ := Option.bind_eq_some_iff.1 hread
    exact h.begins hkey

/-! ## Tags -/

lemma local_bignumOctets? : Local bignumOctets? := by
  intro bs rest octets h more
  unfold bignumOctets? at h ⊢
  split at h
  · next length left hhead =>
    rw [local_readHead? hhead more]
    split_ifs at h with hlength
    simp only [if_pos hlength]
    exact local_split? length h more
  · cases h

/-- Where an item is read that is not the octets of a large integer, more octets do not make it
such. -/
lemma Reads.bignumOctets?_append (h : Reads item?) {item : CborItem}
    (hitem : item? bs = some (item, rest)) (hnone : bignumOctets? bs = none) (more : Bytes) :
    bignumOctets? (bs ++ more) = none := by
  obtain ⟨head, left, hhead, -, hcontent⟩ := h.begins hitem
  unfold bignumOctets? at hnone ⊢
  rw [hhead] at hnone
  rw [local_readHead? hhead more]
  split at hnone
  · next length left' heq =>
    obtain ⟨rfl, rfl⟩ := Prod.mk.inj (Option.some.inj heq)
    split_ifs at hnone with hlength
    · -- the octets were not there, but then no item is read either
      exact (Option.isSome_iff_ne_none.1 (hcontent length rfl) hnone).elim
    · simp only [if_neg hlength]
  · next hother =>
    split
    · next length left' heq =>
      obtain ⟨rfl, rfl⟩ := Prod.mk.inj (Option.some.inj heq)
      exact (hother length left rfl).elim
    · rfl

lemma Reads.local_readTagged? (h : Reads item?) (tag : UInt64) : Local (readTagged? item? tag) := by
  intro bs rest item hread more
  have hitem := @Local.map _ _ item? h.isLocal (tagged tag)
  unfold readTagged? at hread ⊢
  by_cases htag : tag = 2 ∨ tag = 3
  · rw [if_pos htag] at hread ⊢
    cases hbig : bignumOctets? bs with
    | some found =>
      obtain ⟨octets, left⟩ := found
      rw [hbig] at hread
      obtain ⟨number, hnumber, heq⟩ := Option.map_eq_some_iff.1 hread
      obtain ⟨rfl, rfl⟩ := Prod.mk.inj heq
      simp only [local_bignumOctets? hbig more, hnumber, Option.map_some]
    | none =>
      rw [hbig] at hread
      obtain ⟨⟨found, left⟩, hfound, -⟩ := Option.map_eq_some_iff.1 hread
      rw [h.bignumOctets?_append hfound hbig more]
      exact hitem hread more
  · rw [if_neg htag] at hread ⊢
    exact hitem hread more

end Parts

/-! ## Items -/

section Items

variable {item? : Bytes → Option (CborItem × Bytes)}

lemma Reads.local_readBody? (h : Reads item?) (head : Head) : Local (readBody? item? head) := by
  intro bs rest item hread more
  cases head with
  | unsigned | negative | float =>
    obtain ⟨rfl, rfl⟩ := Prod.mk.inj (Option.some.inj hread)
    rfl
  | simple number =>
    obtain ⟨found, hfound, heq⟩ := Option.map_eq_some_iff.1 hread
    obtain ⟨rfl, rfl⟩ := Prod.mk.inj heq
    rw [readBody?, hfound, Option.map_some]
  | bytes length =>
    obtain ⟨⟨chunks, left⟩, hchunks, hread⟩ := Option.bind_eq_some_iff.1 hread
    obtain ⟨rfl, rfl⟩ := Prod.mk.inj (Option.some.inj hread)
    simp only [readBody?, Option.bind_eq_bind, local_readString? _ length hchunks more,
      Option.bind_some]
  | text length =>
    obtain ⟨⟨chunks, left⟩, hchunks, hread⟩ := Option.bind_eq_some_iff.1 hread
    obtain ⟨content, hcontent, hread⟩ := Option.bind_eq_some_iff.1 hread
    obtain ⟨rfl, rfl⟩ := Prod.mk.inj (Option.some.inj hread)
    simp only [readBody?, Option.bind_eq_bind, local_readString? _ length hchunks more,
      Option.bind_some, hcontent]
  | array length =>
    obtain ⟨⟨items, left⟩, hitems, hread⟩ := Option.bind_eq_some_iff.1 hread
    obtain ⟨rfl, rfl⟩ := Prod.mk.inj (Option.some.inj hread)
    simp only [readBody?, Option.bind_eq_bind, h.local_readParts? length hitems more,
      Option.bind_some]
  | map length =>
    obtain ⟨⟨entries, left⟩, hentries, hread⟩ := Option.bind_eq_some_iff.1 hread
    obtain ⟨rfl, rfl⟩ := Prod.mk.inj (Option.some.inj hread)
    simp only [readBody?, Option.bind_eq_bind, h.readPair?.local_readParts? length hentries more,
      Option.bind_some]
  | tag number => exact h.local_readTagged? number hread more
  | stop => cases hread

/-- No item begins with a break, and a byte string of stated length is all there. -/
lemma begins_of_readBody? {head : Head} {item : CborItem}
    (h : readBody? item? head bs = some (item, rest)) :
    head ≠ .stop ∧ ∀ length, head = .bytes (some length) → (split? length bs).isSome = true := by
  constructor
  · rintro rfl
    cases h
  · rintro length rfl
    obtain ⟨found, hfound, -⟩ := Option.bind_eq_some_iff.1 h
    obtain ⟨front, hfront, -⟩ := Option.map_eq_some_iff.1 hfound
    rw [hfront]
    rfl

/-- Where an item ends is decided by the item, whatever the depth that is left. -/
lemma reads_readWithin? (depth : Nat) : Reads (readWithin? depth) := by
  induction depth with
  | zero =>
    constructor
    · intro bs rest item hread more
      obtain ⟨⟨head, left⟩, hhead, hread⟩ := Option.bind_eq_some_iff.1 hread
      simp only at hread
      split_ifs at hread with hopens
      simp only [readWithin?, Option.bind_eq_bind, local_readHead? hhead more, Option.bind_some,
        if_neg hopens]
      exact reads_none.local_readBody? head hread more
    · intro bs rest item hread
      obtain ⟨⟨head, left⟩, hhead, hread⟩ := Option.bind_eq_some_iff.1 hread
      simp only at hread
      split_ifs at hread with hopens
      exact ⟨head, left, hhead, begins_of_readBody? hread⟩
  | succ depth ih =>
    constructor
    · intro bs rest item hread more
      obtain ⟨⟨head, left⟩, hhead, hread⟩ := Option.bind_eq_some_iff.1 hread
      simp only [readWithin?, Option.bind_eq_bind, local_readHead? hhead more, Option.bind_some]
      exact ih.local_readBody? head hread more
    · intro bs rest item hread
      obtain ⟨⟨head, left⟩, hhead, hread⟩ := Option.bind_eq_some_iff.1 hread
      exact ⟨head, left, hhead, begins_of_readBody? hread⟩

end Items

/-- **What is read from the front does not depend on what follows.** -/
theorem read?_append {item : CborItem} (h : read? bs = some (item, rest)) (more : Bytes) :
    read? (bs ++ more) = some (item, rest ++ more) :=
  (reads_readWithin? maxDepth).isLocal h more

end CborItem

end DeviceIdentity
