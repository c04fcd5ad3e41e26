import Mathlib.Tactic.SplitIfs
import DeviceIdentity.Cbor.Reader
import DeviceIdentity.Proofs.Bytes

/-!
# What is written in CBOR reads back

Items are read by recursion on the depth that is left, so the round trip is an induction on that
depth, with one case for each kind of item and one lemma for each loop of the reader.

* `Fits` — an item has lengths that a head can state and nests no deeper than a bound.  Tags 2 and 3
  are left out, since the reader takes them as large integers.
* `readHead?_head` — the shortest spelling of a head reads back.
* `readTimes?_encodeAll`, `readTimes?_encodeEntries` — so do the parts of an array and of a map.
* **`read?_encode`** — an item that fits reads back, whatever follows.
-/

namespace DeviceIdentity

namespace CborItem

/-! ## Heads -/

lemma split?_append (front rest : Bytes) :
    split? front.length (front ++ rest) = some (front, rest) := by
  simp [split?]

lemma split?_append_of_length {n : Nat} {front : Bytes} (h : front.length = n) (rest : Bytes) :
    split? n (front ++ rest) = some (front, rest) := by
  rw [← h, split?_append]

lemma toNat_first {major n : Nat} (hmajor : major < 8) (hn : n < 32) :
    (UInt8.ofNat (32 * major + n)).toNat / 32 = major ∧
      (UInt8.ofNat (32 * major + n)).toNat % 32 = n := by
  have hlt : 32 * major + n < 256 := by omega
  rw [UInt8.toNat_ofNat_of_lt' hlt]
  omega

/-- A first octet with low bits below 24 is the whole head. -/
lemma readHead?_short {major n : Nat} (hmajor : major < 8) (hn : n < 24) (rest : Bytes) :
    readHead? (UInt8.ofNat (32 * major + n) :: rest) =
      if major = 7 then some (.simple n, rest) else (Head.ofArgument major n).map (·, rest) := by
  obtain ⟨hdiv, hmod⟩ := toNat_first hmajor (n := n) (by omega)
  have hopen : n ≠ 31 := by omega
  have hwidth : argumentWidth? n = some 0 := if_pos hn
  simp only [readHead?, hdiv, hmod, if_neg hopen, hwidth, Option.bind_eq_bind, Option.bind_some,
    split?, List.take_zero, List.length_nil, List.drop_zero, if_true, Head.ofSimple]

/-- A first octet with low bits from 24 is followed by the argument. -/
lemma readHead?_long {major n width : Nat} {octets : Bytes} (hmajor : major < 8)
    (hn : 24 ≤ n ∧ n < 28) (hwidth : 2 ^ (n - 24) = width) (hlength : octets.length = width)
    (rest : Bytes) :
    readHead? (UInt8.ofNat (32 * major + n) :: (octets ++ rest)) =
      if major = 7 then some (Head.ofSimple width (Bytes.toNat octets), rest)
      else (Head.ofArgument major (Bytes.toNat octets)).map (·, rest) := by
  obtain ⟨hdiv, hmod⟩ := toNat_first hmajor (n := n) (by omega)
  have hopen : n ≠ 31 := by omega
  have hargument : argumentWidth? n = some width := by
    rw [argumentWidth?, if_neg (by omega), if_pos hn.2, hwidth]
  have hpos : width ≠ 0 := by
    rw [← hwidth]
    exact Nat.ne_of_gt (Nat.two_pow_pos _)
  simp only [readHead?, hdiv, hmod, if_neg hopen, hargument, Option.bind_eq_bind, Option.bind_some,
    split?_append_of_length hlength, if_neg hpos]

lemma readHead?_head {major argument : Nat} (hmajor : major < 7) (hargument : argument < 2 ^ 64)
    (rest : Bytes) :
    readHead? (head major argument ++ rest) =
      (Head.ofArgument major argument).map (·, rest) := by
  have hread : ∀ {n width : Nat}, 24 ≤ n ∧ n < 28 → 2 ^ (n - 24) = width →
      argument < 256 ^ width →
      readHead? (UInt8.ofNat (32 * major + n) :: Bytes.ofNat width argument ++ rest) =
        (Head.ofArgument major argument).map (·, rest) := by
    intro n width hn hwidth hlt
    rw [List.cons_append, readHead?_long (by omega) hn hwidth (Bytes.length_ofNat width argument),
      if_neg (by omega), Bytes.toNat_ofNat, Nat.mod_eq_of_lt hlt]
  unfold head
  simp only
  split_ifs with h₀ h₁ h₂ h₃
  · rw [List.singleton_append, readHead?_short (by omega) h₀, if_neg (by omega)]
  · exact hread (by omega) rfl (by omega)
  · exact hread (by omega) rfl (by omega)
  · exact hread (by omega) rfl (by omega)
  · exact hread (by omega) rfl (by omega)

lemma readHead?_float (bits : UInt64) (rest : Bytes) :
    readHead? (0xFB :: Bytes.ofNat 8 bits.toNat ++ rest) = some (.float bits, rest) := by
  have hlt : bits.toNat < 256 ^ 8 := bits.toNat_lt
  have hn : 24 ≤ 27 ∧ 27 < 28 := by decide
  have hwidth : 2 ^ (27 - 24) = 8 := rfl
  have hlong := readHead?_long (Nat.lt_succ_self 7) hn hwidth (Bytes.length_ofNat 8 bits.toNat) rest
  rw [if_pos rfl, Bytes.toNat_ofNat, Nat.mod_eq_of_lt hlt] at hlong
  rw [List.cons_append]
  refine hlong.trans ?_
  rw [Head.ofSimple, UInt64.ofNat_toNat]

/-! ## Items that can be written and read -/

/-- The item nests no deeper than the bound, and its lengths can be stated. -/
def Fits : Nat → CborItem → Prop
  | _, .unsigned _ => True
  | _, .negative _ => True
  | _, .bytes content => content.length < 2 ^ 64
  | _, .text content => (Bytes.ofText content).length < 2 ^ 64
  | 0, .array _ => False
  | depth + 1, .array items => items.length < 2 ^ 64 ∧ ∀ item ∈ items, Fits depth item
  | 0, .map _ => False
  | depth + 1, .map entries =>
    entries.length < 2 ^ 64 ∧ ∀ entry ∈ entries, Fits depth entry.1 ∧ Fits depth entry.2
  | 0, .tagged _ _ => False
  | depth + 1, .tagged tag item => tag ≠ 2 ∧ tag ≠ 3 ∧ Fits depth item
  | _, .bool _ => True
  | _, .null => True
  | _, .float _ => True

/-- Items that are read one by one are read as an array. -/
lemma readTimes?_encodeAll {read : Bytes → Option (CborItem × Bytes)} :
    ∀ {items : List CborItem},
      (∀ item ∈ items, ∀ rest, read (item.encode ++ rest) = some (item, rest)) → ∀ rest,
      readTimes? read items.length (encodeAll items ++ rest) = some (items, rest)
  | [], _, rest => rfl
  | item :: items, h, rest => by
      have hitem := h item (List.mem_cons_self ..)
      have hitems := readTimes?_encodeAll fun other hmem => h other (List.mem_cons_of_mem item hmem)
      rw [encodeAll, List.append_assoc, List.length_cons, readTimes?, hitem]
      simp only [Option.bind_eq_bind, Option.bind_some, hitems]

/-- Entries whose items are read one by one are read as a map. -/
lemma readTimes?_encodeEntries {read : Bytes → Option (CborItem × Bytes)} :
    ∀ {entries : List (CborItem × CborItem)},
      (∀ entry ∈ entries, ∀ rest, read (entry.1.encode ++ rest) = some (entry.1, rest) ∧
        read (entry.2.encode ++ rest) = some (entry.2, rest)) → ∀ rest,
      readTimes? (readPair? read) entries.length (encodeEntries entries ++ rest) =
        some (entries, rest)
  | [], _, rest => rfl
  | (key, value) :: entries, h, rest => by
      have hentry := h (key, value) (List.mem_cons_self ..)
      have hentries := readTimes?_encodeEntries fun other hmem =>
        h other (List.mem_cons_of_mem (key, value) hmem)
      rw [encodeEntries, List.append_assoc, List.append_assoc, List.length_cons, readTimes?]
      simp only [readPair?, Option.bind_eq_bind, (hentry _).1, (hentry _).2, Option.bind_some,
        hentries]

/-- Whether an item has items as parts. -/
def hasParts : CborItem → Bool
  | .array _ | .map _ | .tagged _ _ => true
  | _ => false

/-- An item without parts is read from its head on, whatever reads the parts of others. -/
lemma read_leaf {depth : Nat} : ∀ {item : CborItem}, Fits depth item → item.hasParts = false →
    ∀ rest, ∃ front more,
      readHead? (item.encode ++ rest) = some (front, more) ∧ front.opensLevel = false ∧
        ∀ read, readBody? read front more = some (item, rest)
  | .unsigned value, _, _, rest => by
      refine ⟨.unsigned value, rest, ?_, rfl, fun _ => rfl⟩
      rw [encode, readHead?_head (by decide) value.toNat_lt, Head.ofArgument, UInt64.ofNat_toNat]
      rfl
  | .negative offset, _, _, rest => by
      refine ⟨.negative offset, rest, ?_, rfl, fun _ => rfl⟩
      rw [encode, readHead?_head (by decide) offset.toNat_lt, Head.ofArgument, UInt64.ofNat_toNat]
      rfl
  | .bytes content, h, _, rest => by
      rw [Fits] at h
      refine ⟨.bytes (some content.length), content ++ rest, ?_, rfl, fun _ => ?_⟩
      · rw [encode, List.append_assoc, readHead?_head (by decide) h]
        rfl
      · simp [readBody?, readString?, split?_append]
  | .text content, h, _, rest => by
      rw [Fits] at h
      refine ⟨.text (some (Bytes.ofText content).length), Bytes.ofText content ++ rest, ?_, rfl,
        fun _ => ?_⟩
      · rw [encode, List.append_assoc, readHead?_head (by decide) h]
        rfl
      · simp [readBody?, readString?, split?_append, joinText?]
  | .bool value, _, _, rest => by
      refine ⟨.simple (if value then 21 else 20), rest, ?_, rfl, fun _ => ?_⟩
      · cases value <;> rfl
      · cases value <;> rfl
  | .null, _, _, rest => ⟨.simple 22, rest, rfl, rfl, fun _ => rfl⟩
  | .float bits, _, _, rest =>
      ⟨.float bits, rest, readHead?_float bits rest, rfl, fun _ => rfl⟩

/-- An item that fits reads back, whatever follows. -/
lemma readWithin?_encode : ∀ {depth : Nat} {item : CborItem}, Fits depth item → ∀ rest,
    readWithin? depth (item.encode ++ rest) = some (item, rest)
  | 0, item, h, rest => by
      have hparts : item.hasParts = false := by
        cases item <;> first | rfl | exact h.elim
      obtain ⟨front, more, hhead, hleaf, hbody⟩ := read_leaf h hparts rest
      rw [readWithin?, hhead]
      simp only [Option.bind_eq_bind, Option.bind_some, hleaf, Bool.false_eq_true, if_false, hbody]
  | depth + 1, item, h, rest => by
      rw [readWithin?]
      cases item with
      | array items =>
        obtain ⟨hlength, hitems⟩ := h
        rw [encode, List.append_assoc, readHead?_head (by decide) hlength]
        have hparts := readTimes?_encodeAll
          (fun item hmem => readWithin?_encode (hitems item hmem)) rest
        simp [Head.ofArgument, readBody?, readParts?, hparts]
      | map entries =>
        obtain ⟨hlength, hentries⟩ := h
        rw [encode, List.append_assoc, readHead?_head (by decide) hlength]
        have hparts := readTimes?_encodeEntries
          (fun entry hmem rest => ⟨readWithin?_encode (hentries entry hmem).1 rest,
            readWithin?_encode (hentries entry hmem).2 rest⟩) rest
        simp [Head.ofArgument, readBody?, readParts?, hparts]
      | tagged tag item =>
        obtain ⟨htwo, hthree, hitem⟩ := h
        rw [encode, List.append_assoc, readHead?_head (by decide) tag.toNat_lt]
        simp [Head.ofArgument, readBody?, readTagged?, htwo, hthree, readWithin?_encode hitem rest]
      | unsigned | negative | bytes | text | bool | null | float =>
        obtain ⟨front, more, hhead, -, hbody⟩ := read_leaf h rfl rest
        rw [hhead]
        exact hbody _

/-- **What is written reads back**, whatever follows. -/
theorem read?_encode {item : CborItem} (h : Fits maxDepth item) (rest : Bytes) :
    read? (item.encode ++ rest) = some (item, rest) :=
  readWithin?_encode h rest

/-- Items that fit have different spellings, and none is the front of another. -/
theorem encode_append_inj {item other : CborItem} {rest rest' : Bytes} (h : Fits maxDepth item)
    (h' : Fits maxDepth other) (heq : item.encode ++ rest = other.encode ++ rest') :
    item = other ∧ rest = rest' := by
  have hread := read?_encode h rest
  rw [heq, read?_encode h' rest'] at hread
  obtain ⟨hitem, hrest⟩ := Prod.mk.inj (Option.some.inj hread)
  exact ⟨hitem.symm, hrest.symm⟩

end CborItem

end DeviceIdentity
