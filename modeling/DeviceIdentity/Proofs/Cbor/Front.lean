import DeviceIdentity.Proofs.Cbor.Delimiting

/-!
# What is left over is not needed

What the reader takes from the front of some octets can be cut off, and is read alone as it was read
in its place.  With `read?_append`, which puts octets behind, this says that what follows an item
can be replaced by anything.

Cutting is not the converse of putting octets behind.  A loop without stated length is bounded by
the octets there are, and with fewer octets it may take fewer turns.  They suffice, because every
turn takes an octet from the front itself.  Where the reader looks ahead for the octets of a large
integer and does not find them, it does not find them in the front either, for then it would have
found them with more octets behind.

* `SelfContained` — what a reader takes is read alone.
* `SelfContained.bind` — so is what two such readers take, one after the other.
* `selfContained_readWithin?` — items, by induction on the depth.
* **`exists_front`** — what follows an item can be replaced by anything.
-/

namespace DeviceIdentity

namespace CborItem

variable {α β : Type} {bs rest : Bytes}

/-- What is read is read alone, without the octets that are left over. -/
def SelfContained (read? : Bytes → Option (α × Bytes)) : Prop :=
  ∀ ⦃bs rest : Bytes⦄ ⦃a : α⦄, read? bs = some (a, rest) →
    ∃ front, bs = front ++ rest ∧ read? front = some (a, [])

/-! ## Readers one after the other -/

section Sequence

variable {read? : Bytes → Option (α × Bytes)}

lemma selfContained_none : SelfContained fun _ : Bytes => (none : Option (α × Bytes)) := nofun

lemma selfContained_pure (a : α) : SelfContained fun bs => some (a, bs) := by
  intro bs rest b h
  obtain ⟨rfl, rfl⟩ := Prod.mk.inj (Option.some.inj h)
  exact ⟨[], rfl, rfl⟩

lemma selfContained_map (a? : Option α) (f : α → β) :
    SelfContained fun bs => a?.map fun a => (f a, bs) := by
  cases a? with
  | none => exact selfContained_none
  | some a => exact selfContained_pure (f a)

/-- What the second reader takes follows what the first one takes, and is there when the first one
is done. -/
lemma SelfContained.bind {next? : α → Bytes → Option (β × Bytes)}
    {both? : Bytes → Option (β × Bytes)} (h : SelfContained read?) (hlocal : Local read?)
    (hnext : ∀ a, SelfContained (next? a))
    (hboth : ∀ bs, both? bs = (read? bs).bind fun found => next? found.1 found.2) :
    SelfContained both? := by
  intro bs rest b hread
  rw [hboth] at hread
  obtain ⟨⟨a, left⟩, hfirst, hsecond⟩ := Option.bind_eq_some_iff.1 hread
  obtain ⟨front, rfl, hfront⟩ := h hfirst
  obtain ⟨back, rfl, hback⟩ := hnext a hsecond
  refine ⟨front ++ back, (List.append_assoc ..).symm, ?_⟩
  simp only [hboth, hlocal hfront back, List.nil_append, Option.bind_some, hback]

end Sequence

/-! ## Heads and strings -/

lemma selfContained_split? (n : Nat) : SelfContained (split? n) := by
  intro bs rest front h
  obtain ⟨hlength, rfl⟩ := split?_eq_some_iff.1 h
  exact ⟨front, rfl, split?_eq_some_iff.2 ⟨hlength, (List.append_nil _).symm⟩⟩

lemma selfContained_readHead? : SelfContained readHead? := by
  have hcons : ∀ first, SelfContained fun bs => readHead? (first :: bs) := by
    intro first
    by_cases hopen : first.toNat % 32 = 31
    · simp only [readHead?, if_pos hopen]
      exact selfContained_map (Head.ofOpen _) id
    · simp only [readHead?, if_neg hopen, Option.bind_eq_bind]
      cases argumentWidth? (first.toNat % 32) with
      | none => exact selfContained_none
      | some width =>
        have hargument : ∀ argument, SelfContained fun bs =>
            if first.toNat / 32 = 7 then some (Head.ofSimple width argument, bs)
            else (Head.ofArgument (first.toNat / 32) argument).map (·, bs) := by
          intro argument
          split_ifs
          · exact selfContained_pure (Head.ofSimple width argument)
          · exact selfContained_map (Head.ofArgument _ argument) id
        exact (selfContained_split? width).bind (local_split? width)
          (fun octets => hargument (if width = 0 then first.toNat % 32 else Bytes.toNat octets))
          fun _ => rfl
  intro bs rest head h
  cases bs with
  | nil => cases h
  | cons first bs =>
    obtain ⟨front, rfl, hfront⟩ := hcons first h
    exact ⟨first :: front, rfl, hfront⟩

/-- A head takes an octet. -/
lemma ne_nil_of_readHead? {head : Head} (h : readHead? bs = some (head, rest)) : bs ≠ [] := by
  rintro rfl
  cases h

/-- The loop over chunks takes no more turns than it takes octets. -/
lemma selfContained_readChunks? {chunk? : Head → Option (Option Nat)} {fuel nested : Nat}
    {chunks : List Bytes} (h : readChunks? chunk? fuel nested bs = some (chunks, rest)) :
    ∃ front, bs = front ++ rest ∧ ∀ bound, front.length ≤ bound →
      readChunks? chunk? bound nested front = some (chunks, []) := by
  induction fuel generalizing nested bs chunks with
  | zero => cases h
  | succ fuel ih =>
    rw [readChunks?] at h
    simp only [Option.bind_eq_bind] at h
    obtain ⟨⟨head, left⟩, hhead, hloop⟩ := Option.bind_eq_some_iff.1 h
    obtain ⟨first, rfl, hfirst⟩ := selfContained_readHead? hhead
    have hpos := List.length_pos_iff.2 (ne_nil_of_readHead? hfirst)
    -- what one turn does when the head is followed by the front of the rest
    have hturn : ∀ {front : Bytes} {bound : Nat}, (first ++ front).length ≤ bound →
        ∃ bound', bound = bound' + 1 ∧ front.length ≤ bound' ∧
          readHead? (first ++ front) = some (head, front) := by
      intro front bound hbound
      rw [List.length_append] at hbound
      refine ⟨bound - 1, by omega, by omega, ?_⟩
      exact local_readHead? hfirst front
    by_cases hstop : head = .stop
    · simp only [if_pos hstop] at hloop
      by_cases hnested : nested ≤ 1
      · rw [if_pos hnested] at hloop
        obtain ⟨rfl, rfl⟩ := Prod.mk.inj (Option.some.inj hloop)
        refine ⟨first, rfl, fun bound hbound => ?_⟩
        obtain ⟨bound, rfl, -, -⟩ := @hturn [] bound (by rwa [List.append_nil])
        simp only [readChunks?, Option.bind_eq_bind, hfirst, Option.bind_some, if_pos hstop,
          if_pos hnested]
      · rw [if_neg hnested] at hloop
        obtain ⟨front, rfl, hfront⟩ := ih hloop
        refine ⟨first ++ front, (List.append_assoc ..).symm, fun bound hbound => ?_⟩
        obtain ⟨bound, rfl, hle, hread⟩ := hturn hbound
        simp only [readChunks?, Option.bind_eq_bind, hread, Option.bind_some, if_pos hstop,
          if_neg hnested, hfront bound hle]
    · simp only [if_neg hstop] at hloop
      cases hchunk : chunk? head with
      | none =>
        rw [hchunk] at hloop
        cases hloop
      | some length =>
        rw [hchunk] at hloop
        cases length with
        | none =>
          obtain ⟨front, rfl, hfront⟩ := ih hloop
          refine ⟨first ++ front, (List.append_assoc ..).symm, fun bound hbound => ?_⟩
          obtain ⟨bound, rfl, hle, hread⟩ := hturn hbound
          simp only [readChunks?, Option.bind_eq_bind, hread, Option.bind_some, if_neg hstop,
            hchunk, hfront bound hle]
        | some length =>
          obtain ⟨⟨octets, left⟩, hsplit, hmore⟩ := Option.bind_eq_some_iff.1 hloop
          obtain ⟨content, rfl, hcontent⟩ := selfContained_split? length hsplit
          obtain ⟨⟨later, left⟩, hlater, hchunks⟩ := Option.bind_eq_some_iff.1 hmore
          obtain ⟨rfl, rfl⟩ := Prod.mk.inj (Option.some.inj hchunks)
          obtain ⟨front, rfl, hfront⟩ := ih hlater
          refine ⟨first ++ (content ++ front), by simp only [List.append_assoc], ?_⟩
          intro bound hbound
          obtain ⟨bound, rfl, hle, hread⟩ := hturn hbound
          rw [List.length_append] at hle
          simp only [readChunks?, Option.bind_eq_bind, hread, Option.bind_some, if_neg hstop,
            hchunk, local_split? length hcontent front, List.nil_append,
            hfront bound (by omega)]

lemma selfContained_readString? (chunk? : Head → Option (Option Nat)) (length : Option Nat) :
    SelfContained (readString? chunk? length) := by
  intro bs rest chunks h
  cases length with
  | none =>
    obtain ⟨front, rfl, hfront⟩ := selfContained_readChunks? h
    exact ⟨front, rfl, hfront front.length (Nat.le_refl _)⟩
  | some length =>
    obtain ⟨⟨octets, left⟩, hsplit, heq⟩ := Option.map_eq_some_iff.1 h
    obtain ⟨rfl, rfl⟩ := Prod.mk.inj heq
    obtain ⟨front, rfl, hfront⟩ := selfContained_split? length hsplit
    exact ⟨front, rfl, by rw [readString?, hfront, Option.map_some]⟩

/-! ## Parts of items -/

section Parts

variable {part? : Bytes → Option (α × Bytes)} {item? : Bytes → Option (CborItem × Bytes)}

lemma selfContained_readTimes? (h : SelfContained part?) (hlocal : Local part?) (n : Nat) :
    SelfContained (readTimes? part? n) := by
  induction n with
  | zero => exact selfContained_pure []
  | succ n ih =>
    have hlater : ∀ part, SelfContained fun bs =>
        (readTimes? part? n bs).bind fun found => some (part :: found.1, found.2) := fun part =>
      ih.bind (local_readTimes? hlocal n) (fun later => selfContained_pure (part :: later))
        fun _ => rfl
    exact h.bind hlocal hlater fun _ => rfl

/-- The loop up to a break takes no more turns than it takes octets. -/
lemma selfContained_readUntilStop? (h : SelfContained part?) (hreads : Reads part?) {fuel : Nat}
    {parts : List α} (hread : readUntilStop? part? fuel bs = some (parts, rest)) :
    ∃ front, bs = front ++ rest ∧
      ∀ bound, front.length ≤ bound → readUntilStop? part? bound front = some (parts, []) := by
  induction fuel generalizing bs parts with
  | zero => cases hread
  | succ fuel ih =>
    rw [readUntilStop?] at hread
    cases hstop : afterStop? bs with
    | some left =>
      rw [hstop] at hread
      obtain ⟨rfl, rfl⟩ := Prod.mk.inj (Option.some.inj hread)
      unfold afterStop? at hstop
      split at hstop
      · next hhead =>
        obtain rfl := Option.some.inj hstop
        obtain ⟨front, rfl, hfront⟩ := selfContained_readHead? hhead
        refine ⟨front, rfl, fun bound hbound => ?_⟩
        have hpos := List.length_pos_iff.2 (ne_nil_of_readHead? hfront)
        obtain ⟨bound, rfl⟩ : ∃ n, bound = n + 1 := ⟨bound - 1, by omega⟩
        simp only [readUntilStop?, afterStop?, hfront]
      · cases hstop
    | none =>
      rw [hstop] at hread
      obtain ⟨⟨part, left⟩, hpart, hread⟩ := Option.bind_eq_some_iff.1 hread
      obtain ⟨⟨later, left⟩, hlater, hread⟩ := Option.bind_eq_some_iff.1 hread
      obtain ⟨rfl, rfl⟩ := Prod.mk.inj (Option.some.inj hread)
      obtain ⟨first, rfl, hfirst⟩ := h hpart
      obtain ⟨front, rfl, hfront⟩ := ih hlater
      refine ⟨first ++ front, (List.append_assoc ..).symm, fun bound hbound => ?_⟩
      obtain ⟨head, _, hhead, -⟩ := hreads.begins hfirst
      have hpos := List.length_pos_iff.2 (ne_nil_of_readHead? hhead)
      rw [List.length_append] at hbound
      obtain ⟨bound, rfl⟩ : ∃ n, bound = n + 1 := ⟨bound - 1, by omega⟩
      simp only [readUntilStop?, hreads.afterStop?_append hfirst front, Option.bind_eq_bind,
        hreads.isLocal hfirst front, Option.bind_some, List.nil_append, hfront bound (by omega)]

lemma selfContained_readParts? (h : SelfContained part?) (hreads : Reads part?)
    (length : Option Nat) : SelfContained (readParts? part? length) := by
  intro bs rest parts hread
  cases length with
  | none =>
    obtain ⟨front, rfl, hfront⟩ := selfContained_readUntilStop? h hreads hread
    exact ⟨front, rfl, hfront front.length (Nat.le_refl _)⟩
  | some length => exact selfContained_readTimes? h hreads.isLocal length hread

lemma selfContained_readPair? (h : SelfContained item?) (hlocal : Local item?) :
    SelfContained (readPair? item?) :=
  h.bind hlocal (fun key => h.bind hlocal (fun value => selfContained_pure (key, value))
    fun _ => rfl) fun _ => rfl

/-! ## Tags -/

lemma selfContained_bignumOctets? : SelfContained bignumOctets? := by
  intro bs rest octets h
  unfold bignumOctets? at h
  split at h
  · next length left hhead =>
    split_ifs at h with hlength
    obtain ⟨first, rfl, hfirst⟩ := selfContained_readHead? hhead
    obtain ⟨front, rfl, hfront⟩ := selfContained_split? length h
    refine ⟨first ++ front, (List.append_assoc ..).symm, ?_⟩
    simp only [bignumOctets?, local_readHead? hfirst front, List.nil_append, if_pos hlength, hfront]
  · cases h

lemma selfContained_readTagged? (h : SelfContained item?) (tag : UInt64) :
    SelfContained (readTagged? item? tag) := by
  intro bs rest item hread
  -- an item after the tag, where no octets of a large integer are taken
  have hitem : ∀ {bs : Bytes},
      (item? bs).map (fun found => (tagged tag found.1, found.2)) = some (item, rest) →
      ∃ front, bs = front ++ rest ∧
        (item? front).map (fun found => (tagged tag found.1, found.2)) = some (item, []) := by
    intro bs hmap
    obtain ⟨⟨found, left⟩, hfound, heq⟩ := Option.map_eq_some_iff.1 hmap
    obtain ⟨rfl, rfl⟩ := Prod.mk.inj heq
    obtain ⟨front, rfl, hfront⟩ := h hfound
    exact ⟨front, rfl, by rw [hfront, Option.map_some]⟩
  unfold readTagged? at hread ⊢
  by_cases htag : tag = 2 ∨ tag = 3
  · simp only [if_pos htag] at hread ⊢
    cases hbig : bignumOctets? bs with
    | some found =>
      obtain ⟨octets, left⟩ := found
      rw [hbig] at hread
      obtain ⟨number, hnumber, heq⟩ := Option.map_eq_some_iff.1 hread
      obtain ⟨rfl, rfl⟩ := Prod.mk.inj heq
      obtain ⟨front, rfl, hfront⟩ := selfContained_bignumOctets? hbig
      exact ⟨front, rfl, by simp only [hfront, hnumber, Option.map_some]⟩
    | none =>
      rw [hbig] at hread
      obtain ⟨front, rfl, hfront⟩ := hitem hread
      have hnone : bignumOctets? front = none := by
        refine Option.eq_none_iff_forall_ne_some.2 fun found hfound => ?_
        rw [local_bignumOctets? hfound rest] at hbig
        cases hbig
      refine ⟨front, rfl, ?_⟩
      rw [hnone]
      exact hfront
  · simp only [if_neg htag] at hread ⊢
    exact hitem hread

end Parts

/-! ## Items -/

section Items

variable {item? : Bytes → Option (CborItem × Bytes)}

lemma selfContained_readBody? (h : SelfContained item?) (hreads : Reads item?) (head : Head) :
    SelfContained (readBody? item? head) := by
  cases head with
  | unsigned value => exact selfContained_pure (unsigned value)
  | negative offset => exact selfContained_pure (negative offset)
  | float bits => exact selfContained_pure (float bits)
  | stop => exact selfContained_none
  | simple number => exact selfContained_map (ofSimple? number) id
  | bytes length =>
    exact (selfContained_readString? Head.bytesChunk? length).bind (local_readString? _ length)
      (fun chunks => selfContained_pure (bytes chunks.flatten)) fun _ => rfl
  | text length =>
    exact (selfContained_readString? Head.textChunk? length).bind (local_readString? _ length)
      (fun chunks => selfContained_map (joinText? chunks) text) fun bs => by
        simp only [readBody?, Option.bind_eq_bind, Option.map_eq_bind]
        rfl
  | array length =>
    exact (selfContained_readParts? h hreads length).bind (hreads.local_readParts? length)
      (fun items => selfContained_pure (array items)) fun _ => rfl
  | map length =>
    have hpair := selfContained_readPair? h hreads.isLocal
    exact (selfContained_readParts? hpair hreads.readPair? length).bind
      (hreads.readPair?.local_readParts? length)
      (fun entries => selfContained_pure (map entries)) fun _ => rfl
  | tag number => exact selfContained_readTagged? h number

lemma selfContained_readWithin? (depth : Nat) : SelfContained (readWithin? depth) := by
  induction depth with
  | zero =>
    intro bs rest item h
    obtain ⟨⟨head, left⟩, hhead, hbody⟩ := Option.bind_eq_some_iff.1 h
    simp only at hbody
    split_ifs at hbody with hopens
    obtain ⟨first, rfl, hfirst⟩ := selfContained_readHead? hhead
    obtain ⟨front, rfl, hfront⟩ := selfContained_readBody? selfContained_none reads_none head hbody
    refine ⟨first ++ front, (List.append_assoc ..).symm, ?_⟩
    simp only [readWithin?, Option.bind_eq_bind, local_readHead? hfirst front, Option.bind_some,
      if_neg hopens, List.nil_append, hfront]
  | succ depth ih =>
    exact selfContained_readHead?.bind local_readHead?
      (fun head => selfContained_readBody? ih (reads_readWithin? depth) head) fun _ => rfl

end Items

/-- **What follows an item can be replaced by anything.**  The octets that an item is read from
stand in front of what is left over, and the item is read from them whatever follows. -/
theorem exists_front {item : CborItem} (h : read? bs = some (item, rest)) :
    ∃ front, bs = front ++ rest ∧ ∀ more, read? (front ++ more) = some (item, more) := by
  obtain ⟨front, rfl, hfront⟩ := selfContained_readWithin? maxDepth h
  exact ⟨front, rfl, read?_append hfront⟩

end CborItem

end DeviceIdentity
