import DeviceIdentity.Proofs.Der.Composed
import DeviceIdentity.Proofs.Der.Encoding
import DeviceIdentity.PublicKeyInfo
import DeviceIdentity.SubjectName

/-!
# Subject names and public keys in DER

The two parts of a request body that have a structure of their own.

* `SubjectName.encode?` — the encoding of a name, attribute by attribute in their order.
* `SubjectName.decode?` — the name that octets are the encoding of, with nothing left over.
* `SubjectName.encodes_write`, `PublicKeyInfo.encodes_write` — the writers prepend the encodings.
* `SubjectName.composed_write`, `PublicKeyInfo.composed_write` — and they do nothing else.
* `SubjectName.decode?_of_encode?` — an encoded name reads back.
* `PublicKeyInfo.decode?_of_encode?` — so does an encoded public key.
* `PublicKeyInfo.der_eq_ok` — a raw public key on its own has the same encoding.
-/

namespace DeviceIdentity

open Der (wrap? unwrap? elements? counted Encodes Composed lengthOctets?)

/-! ## Names -/

namespace NameAttribute

/-- The attribute of given arcs. -/
def ofOid? (arcs : Bytes) : Option NameAttribute :=
  all.find? (·.oid = arcs)

@[simp] lemma ofOid?_oid (kind : NameAttribute) : ofOid? kind.oid = some kind := by
  cases kind <;> rfl

end NameAttribute

namespace SubjectName

/-- One attribute: a set of one sequence of object identifier and text. -/
def encodeAttribute? : NameAttribute × String → Option Bytes
  | (kind, value) => do
    let value ← wrap? Der.utf8StringTag (Bytes.ofText value)
    let arcs ← wrap? Der.oidTag kind.oid
    let pair ← wrap? Der.sequenceTag (arcs ++ value)
    wrap? Der.setTag pair

/-- The attributes, one after another, in a sequence. -/
def encode? (subject : SubjectName) : Option Bytes := do
  let sets ← subject.attributes.mapM encodeAttribute?
  wrap? Der.sequenceTag sets.flatten

/-- Reads one attribute. -/
def decodeAttribute? (bs : Bytes) : Option (NameAttribute × String) := do
  let [pair] ← elements? (← unwrap? Der.setTag bs) | none
  let [arcs, value] ← elements? (← unwrap? Der.sequenceTag pair) | none
  let kind ← NameAttribute.ofOid? (← unwrap? Der.oidTag arcs)
  let text ← Bytes.toText? (← unwrap? Der.utf8StringTag value)
  some (kind, text)

/-- Reads a name. -/
def decode? (bs : Bytes) : Option SubjectName := do
  let sets ← elements? (← unwrap? Der.sequenceTag bs)
  let attributes ← sets.mapM decodeAttribute?
  some ⟨attributes⟩

lemma encodes_writeAttribute (a : NameAttribute × String) :
    Encodes (writeAttribute a) ((encodeAttribute? a).map counted) := by
  obtain ⟨kind, text⟩ := a
  have hvalue : Encodes (Der.utf8Text text) _ := Der.encodes_tagged _ (Bytes.ofText text)
  have harcs : Encodes (Der.oid kind.oid) _ := Der.encodes_tagged _ kind.oid
  simp only [writeAttribute, encodeAttribute?, Option.bind_eq_bind, Der.sequenceHeader]
  cases hv : wrap? Der.utf8StringTag (Bytes.ofText text) with
  | none =>
    rw [hv] at hvalue
    exact hvalue.none_bind
  | some value =>
    rw [hv] at hvalue
    rw [Option.bind_some]
    cases ha : wrap? Der.oidTag kind.oid with
    | none =>
      rw [ha] at harcs
      exact hvalue.bind_none harcs.none_bind
    | some arcs =>
      rw [ha] at harcs
      rw [Option.bind_some]
      have hpair : (arcs ++ value).length = value.length + arcs.length := by
        rw [List.length_append, Nat.add_comm]
      cases hf : lengthOctets? (value.length + arcs.length) with
      | none =>
        rw [Der.wrap?_eq_none hf hpair]
        exact hvalue.bind_none (harcs.bind_none (Der.encodes_header_none hf).none_bind)
      | some field =>
        have hset : (Der.sequenceTag :: field ++ (arcs ++ value)).length =
            value.length + arcs.length + (Der.sequenceTag :: field).length := by
          simp only [List.length_append, List.length_cons]
          omega
        rw [Der.wrap?_eq_some hf hpair, Option.bind_some]
        cases hg : lengthOctets?
            (value.length + arcs.length + (Der.sequenceTag :: field).length) with
        | none =>
          rw [Der.wrap?_eq_none hg hset]
          exact hvalue.bind_none (harcs.bind_none
            ((Der.encodes_header_some hf).bind_none (Der.encodes_header_none hg).none_bind))
        | some outer =>
          rw [Der.wrap?_eq_some hg hset]
          refine Encodes.of_eq (hvalue.bind_some (harcs.bind_some
            ((Der.encodes_header_some hf).bind_some
              ((Der.encodes_header_some hg).bind_some (Der.encodes_pure _))))) ?_
          simp [counted]
          omega

/-- The attributes are written from the last to the first, so they stand in their order. -/
lemma encodes_writeAttributes (attributes : List (NameAttribute × String)) (n : Nat) :
    Encodes (writeAttributes n attributes) ((attributes.mapM encodeAttribute?).map fun sets =>
      (sets.reverse.flatten, n + sets.reverse.flatten.length)) := by
  induction attributes generalizing n with
  | nil => exact Der.encodes_pure n
  | cons a rest ih =>
    have hfirst := encodes_writeAttribute a
    rw [writeAttributes, List.mapM_cons]
    cases ha : encodeAttribute? a with
    | none =>
      rw [ha] at hfirst
      exact hfirst.none_bind
    | some set =>
      rw [ha] at hfirst
      have hrest := ih (n + set.length)
      cases hsets : rest.mapM encodeAttribute? with
      | none =>
        rw [hsets] at hrest
        exact hfirst.bind_none hrest
      | some sets =>
        rw [hsets] at hrest
        refine Encodes.of_eq (hfirst.bind_some hrest) ?_
        simp
        omega

lemma mapM_reverse {α β : Type} (f : α → Option β) :
    ∀ l : List α, l.reverse.mapM f = (l.mapM f).map List.reverse
  | [] => rfl
  | a :: l => by
      rw [List.reverse_cons, List.mapM_append, mapM_reverse f l, List.mapM_cons]
      cases hl : l.mapM f <;> cases ha : f a <;> simp [hl, ha]

lemma encodes_write (subject : SubjectName) :
    Encodes subject.write (subject.encode?.map counted) := by
  have hbody := encodes_writeAttributes subject.attributes.reverse 0
  rw [mapM_reverse] at hbody
  unfold write encode?
  cases hsets : subject.attributes.mapM encodeAttribute? with
  | none =>
    rw [hsets] at hbody
    exact hbody.none_bind
  | some sets =>
    rw [hsets] at hbody
    simp only [Option.map_some, List.reverse_reverse, Nat.zero_add] at hbody
    rw [Option.bind_eq_bind, Option.bind_some]
    cases hf : lengthOctets? sets.flatten.length with
    | none =>
      rw [Der.wrap?_eq_none hf rfl]
      exact hbody.bind_none (Der.encodes_header_none hf).none_bind
    | some field =>
      rw [Der.wrap?_eq_some hf rfl]
      refine Encodes.of_eq (hbody.bind_some
        ((Der.encodes_header_some hf).bind_some (Der.encodes_pure _))) ?_
      simp [counted]
      omega

lemma composed_writeAttributes : ∀ (n : Nat) (attributes : List (NameAttribute × String)),
    Composed (writeAttributes n attributes)
  | n, [] => .pure n
  | n, (kind, text) :: rest => by
      refine Composed.bind ?_ fun added => composed_writeAttributes (n + added) rest
      exact (Der.composed_tagged _ _).bind fun _ => (Der.composed_tagged _ _).bind fun _ =>
        (Der.composed_header _ _).bind fun _ => (Der.composed_header _ _).bind fun _ => .pure _

lemma composed_write (subject : SubjectName) : Composed subject.write :=
  (composed_writeAttributes _ _).bind fun _ => (Der.composed_header _ _).bind fun _ => .pure _

lemma decodeAttribute?_of_encodeAttribute? {a : NameAttribute × String} {bs : Bytes}
    (h : encodeAttribute? a = some bs) : decodeAttribute? bs = some a := by
  obtain ⟨kind, text⟩ := a
  obtain ⟨value, hvalue, h⟩ := Option.bind_eq_some_iff.1 h
  obtain ⟨arcs, harcs, h⟩ := Option.bind_eq_some_iff.1 h
  obtain ⟨pair, hpair, hset⟩ := Option.bind_eq_some_iff.1 h
  have htwo : elements? (arcs ++ value) = some [arcs, value] := by
    rw [Der.elements?_append harcs, Der.elements?_one hvalue]
    rfl
  simp only [decodeAttribute?, Option.bind_eq_bind, Der.unwrap?_of_wrap? hset,
    Der.elements?_one hpair,
    Der.unwrap?_of_wrap? hpair, htwo, Der.unwrap?_of_wrap? harcs, Der.unwrap?_of_wrap? hvalue,
    Option.bind_some, NameAttribute.ofOid?_oid, Bytes.toText?_ofText]

/-- Attributes read back, and each of them is one element. -/
lemma mapM_decodeAttribute? : ∀ {attributes : List (NameAttribute × String)} {sets : List Bytes},
    attributes.mapM encodeAttribute? = some sets →
      sets.mapM decodeAttribute? = some attributes ∧
        ∀ set ∈ sets, ∃ tag content, wrap? tag content = some set
  | [], sets, h => by
      cases h
      exact ⟨rfl, fun _ hmem => absurd hmem List.not_mem_nil⟩
  | a :: attributes, sets, h => by
      rw [List.mapM_cons] at h
      obtain ⟨set, hset, h⟩ := Option.bind_eq_some_iff.1 h
      obtain ⟨more, hmore, h⟩ := Option.bind_eq_some_iff.1 h
      cases h
      obtain ⟨hread, helements⟩ := mapM_decodeAttribute? hmore
      refine ⟨?_, ?_⟩
      · rw [List.mapM_cons, decodeAttribute?_of_encodeAttribute? hset, hread]
        rfl
      · intro other hmem
        rcases List.mem_cons.1 hmem with rfl | hmem
        · obtain ⟨_, _, h⟩ := Option.bind_eq_some_iff.1 hset
          obtain ⟨_, _, h⟩ := Option.bind_eq_some_iff.1 h
          obtain ⟨pair, _, h⟩ := Option.bind_eq_some_iff.1 h
          exact ⟨_, pair, h⟩
        · exact helements other hmem

/-- **A name reads back**, with all its attributes in their order. -/
lemma decode?_of_encode? {subject : SubjectName} {bs : Bytes} (h : subject.encode? = some bs) :
    decode? bs = some subject := by
  obtain ⟨sets, hsets, hbs⟩ := Option.bind_eq_some_iff.1 h
  obtain ⟨hread, helements⟩ := mapM_decodeAttribute? hsets
  simp only [decode?, Option.bind_eq_bind, Der.unwrap?_of_wrap? hbs,
    Der.elements?_flatten helements, hread, Option.bind_some]

end SubjectName

/-! ## Public keys -/

namespace PublicKeyInfo

/-- The algorithm, an elliptic curve key on P-256. -/
def algorithm : Bytes :=
  [0x30, 0x13, 0x06, 0x07, 0x2A, 0x86, 0x48, 0xCE, 0x3D, 0x02, 0x01, 0x06, 0x08, 0x2A, 0x86, 0x48,
    0xCE, 0x3D, 0x03, 0x01, 0x07]

/-- The algorithm and the raw key as a bit string. -/
def encode? (raw : Bytes) : Option Bytes := do
  let key ← wrap? Der.bitStringTag (0x00 :: raw)
  wrap? Der.sequenceTag (algorithm ++ key)

/-- Reads a public key on P-256. -/
def decode? (bs : Bytes) : Option Bytes := do
  let [algorithm, key] ← elements? (← unwrap? Der.sequenceTag bs) | none
  let [kind, curve] ← elements? (← unwrap? Der.sequenceTag algorithm) | none
  if unwrap? Der.oidTag kind = some ecPublicKeyOid ∧
      unwrap? Der.oidTag curve = some prime256v1Oid then
    Der.bits? key
  else none

/-- The encoding of a public key is one element, and reads back. -/
lemma decode?_of_encode? {raw bs : Bytes} (h : encode? raw = some bs) :
    decode? bs = some raw ∧ ∃ content, wrap? Der.sequenceTag content = some bs := by
  obtain ⟨key, hkey, hbs⟩ := Option.bind_eq_some_iff.1 h
  refine ⟨?_, _, hbs⟩
  have halgorithm : wrap? Der.sequenceTag (Der.oidTag :: 7 :: ecPublicKeyOid ++
      Der.oidTag :: 8 :: prime256v1Oid) = some algorithm := rfl
  have hkind : wrap? Der.oidTag ecPublicKeyOid = some (Der.oidTag :: 7 :: ecPublicKeyOid) := rfl
  have hcurve : wrap? Der.oidTag prime256v1Oid = some (Der.oidTag :: 8 :: prime256v1Oid) := rfl
  have houter : elements? (algorithm ++ key) = some [algorithm, key] := by
    rw [Der.elements?_append halgorithm, Der.elements?_one hkey]
    rfl
  have hinner : elements? (Der.oidTag :: 7 :: ecPublicKeyOid ++
      Der.oidTag :: 8 :: prime256v1Oid) =
      some [Der.oidTag :: 7 :: ecPublicKeyOid, Der.oidTag :: 8 :: prime256v1Oid] := by
    rw [Der.elements?_append hkind, Der.elements?_one hcurve]
    rfl
  simp only [decode?, Option.bind_eq_bind, Der.unwrap?_of_wrap? hbs, houter,
    Der.unwrap?_of_wrap? halgorithm, hinner, Der.unwrap?_of_wrap? hkind,
    Der.unwrap?_of_wrap? hcurve, Option.bind_some, and_self, if_true,
    Der.bits?_of_wrap? hkey]

lemma encodes_write (raw : Bytes) : Encodes (write raw) ((encode? raw).map counted) := by
  have hkey := Der.encodes_bitString raw
  have hcurve : Encodes (Der.oid prime256v1Oid) (some (counted _)) := Der.encodes_tagged _ _
  have hkind : Encodes (Der.oid ecPublicKeyOid) (some (counted _)) := Der.encodes_tagged _ _
  have halgorithm : Encodes (Der.sequenceHeader 19) (some (counted _)) := Der.encodes_header _ _
  simp only [write, encode?, Option.bind_eq_bind]
  cases hk : wrap? Der.bitStringTag (0x00 :: raw) with
  | none =>
    rw [hk] at hkey
    exact hkey.none_bind
  | some key =>
    rw [hk] at hkey
    rw [Option.bind_some]
    have hlength : (algorithm ++ key).length = key.length + 21 := by
      rw [List.length_append, Nat.add_comm]
      rfl
    cases hf : lengthOctets? (key.length + 21) with
    | none =>
      rw [Der.wrap?_eq_none hf hlength]
      exact hkey.bind_none (hcurve.bind_none (hkind.bind_none (halgorithm.bind_none
        (Der.encodes_header_none hf).none_bind)))
    | some field =>
      rw [Der.wrap?_eq_some hf hlength]
      refine Encodes.of_eq (hkey.bind_some (hcurve.bind_some (hkind.bind_some
        (halgorithm.bind_some ((Der.encodes_header_some hf).bind_some
          (Der.encodes_pure _)))))) ?_
      have hparts : algorithm = [Der.sequenceTag, UInt8.ofNat 19] ++
          (Der.oidTag :: UInt8.ofNat 7 :: ecPublicKeyOid ++
            Der.oidTag :: UInt8.ofNat 8 :: prime256v1Oid) := rfl
      have hkindLength : ecPublicKeyOid.length = 7 := rfl
      have hcurveLength : prime256v1Oid.length = 8 := rfl
      simp [counted, hparts, hkindLength, hcurveLength]
      omega

lemma composed_write (raw : Bytes) : Composed (write raw) :=
  (Der.composed_bitString raw).bind fun _ => (Der.composed_tagged _ _).bind fun _ =>
    (Der.composed_tagged _ _).bind fun _ => (Der.composed_header _ _).bind fun _ =>
    (Der.composed_header _ _).bind fun _ => .pure _

/-- A public key on its own is written in a buffer that has room for every raw key. -/
lemma der_eq_ok {raw info : Bytes} (hraw : raw.length = rawLength) (h : encode? raw = some info) :
    der raw = .ok info := by
  have hlength : info.length ≤ 128 := by
    obtain ⟨key, hkey, hinfo⟩ := Option.bind_eq_some_iff.1 h
    have hkeyLength := Der.length_wrap?_le hkey
    have hinfoLength := Der.length_wrap?_le hinfo
    have halgorithm : algorithm.length = 21 := rfl
    rw [List.length_cons, hraw, rawLength] at hkeyLength
    rw [List.length_append] at hinfoLength
    omega
  obtain ⟨u, hu⟩ : ∃ u, (Tail.zeros 128).prepend? info = some u := by
    refine Option.ne_none_iff_exists'.1 fun hnone => ?_
    have hfree : (Tail.zeros 128).free.length = 128 := List.length_replicate
    have hlt := Tail.prepend?_eq_none_iff.1 hnone
    omega
  obtain ⟨hresult, hstate⟩ := (encodes_write raw).returns_counted.2 ⟨info, h, rfl, hu⟩
  rw [der]
  simp only [hresult, hstate, Tail.written_of_prepend? hu]
  rw [Tail.zeros, Tail.ofBuffer, List.append_nil]

end PublicKeyInfo

end DeviceIdentity
