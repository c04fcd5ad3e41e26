import Mathlib.Algebra.Order.BigOperators.Group.List
import DeviceIdentity.Proofs.CertRequest.Decode
import DeviceIdentity.Proofs.Der.Size
import DeviceIdentity.Proofs.P256.Signature
import DeviceIdentity.Proofs.SubjectName

/-!
# How long requests are

The sizes of a request and of its parts, from the inside out.  Each of them is a function of the
lengths of the texts and of the raw key and signature alone.

* `SubjectName.contents`, `SubjectName.size` — the lengths of the contents in a name, and its own;
  `SubjectName.measures_encode?` — they are these.
* `PublicKeyInfo.contents`, `PublicKeyInfo.size`, `PublicKeyInfo.measures_encode?` — the same of a
  public key.
* `CertRequest.measures_body?`, `CertRequest.measures_signed?` — the same of a body and of a
  request.
* `CertRequest.exists_body?`, `CertRequest.exists_signed?` — the request of a device has at most 374
  octets.
-/

namespace DeviceIdentity

open Der (Measures elementLength maxContent)

/-! ## Names -/

namespace SubjectName

/-- How many octets the pair of an attribute and its value has. -/
def pairLength (a : NameAttribute × String) : Nat :=
  elementLength a.1.oid.length + elementLength (Bytes.ofText a.2).length

/-- The lengths of the contents in an attribute. -/
def attributeContents (a : NameAttribute × String) : List Nat :=
  [(Bytes.ofText a.2).length, a.1.oid.length, pairLength a, elementLength (pairLength a)]

/-- How many octets an attribute has. -/
def attributeSize (a : NameAttribute × String) : Nat :=
  elementLength (elementLength (pairLength a))

/-- How many octets the attributes of a name have. -/
def attributesSize (subject : SubjectName) : Nat := (subject.attributes.map attributeSize).sum

/-- The lengths of the contents in a name. -/
def contents (subject : SubjectName) : List Nat :=
  subject.attributes.flatMap attributeContents ++ [subject.attributesSize]

/-- How many octets a name has. -/
def size (subject : SubjectName) : Nat := elementLength subject.attributesSize

lemma measures_encodeAttribute? (a : NameAttribute × String) :
    Measures (encodeAttribute? a) (attributeContents a) (attributeSize a) := by
  refine ((Der.measures_wrap? _ rfl).bind fun value hvalue => (Der.measures_wrap? _ rfl).bind
    fun arcs harcs => (Der.measures_wrap? _ (n := pairLength a) ?_).bind fun pair hpair =>
      Der.measures_wrap? _ hpair).of_eq rfl rfl
  rw [List.length_append, harcs, hvalue, pairLength]

lemma measures_encodeAttributes? (attributes : List (NameAttribute × String)) :
    Measures ((attributes.mapM encodeAttribute?).map List.flatten)
      (attributes.flatMap attributeContents) (attributes.map attributeSize).sum := by
  induction attributes with
  | nil => exact Der.measures_some []
  | cons a rest ih =>
    have hcons : ((a :: rest).mapM encodeAttribute?).map List.flatten =
        (encodeAttribute? a).bind fun set =>
          ((rest.mapM encodeAttribute?).map List.flatten).map (set ++ ·) := by
      rw [List.mapM_cons]
      cases encodeAttribute? a with
      | none => rfl
      | some set => cases rest.mapM encodeAttribute? <;> rfl
    rw [hcons, List.flatMap_cons, List.map_cons, List.sum_cons]
    refine (measures_encodeAttribute? a).bind fun set hset => ih.map fun sets hsets => ?_
    rw [List.length_append, hset, hsets]

lemma measures_encode? (subject : SubjectName) :
    Measures subject.encode? subject.contents subject.size := by
  have hencode : subject.encode? =
      ((subject.attributes.mapM encodeAttribute?).map List.flatten).bind
        (Der.wrap? Der.sequenceTag) := by
    rw [encode?]
    cases subject.attributes.mapM encodeAttribute? <;> rfl
  rw [hencode]
  exact (measures_encodeAttributes? subject.attributes).bind fun sets hsets =>
    Der.measures_wrap? Der.sequenceTag hsets

/-- No content of an attribute is longer than the attribute. -/
lemma le_attributeSize_of_mem {a : NameAttribute × String} {c : Nat} (h : c ∈ attributeContents a) :
    c ≤ attributeSize a := by
  have hvalue := Der.le_elementLength (Bytes.ofText a.2).length
  have harcs := Der.le_elementLength a.1.oid.length
  have hpair := Der.le_elementLength (pairLength a)
  have hset := Der.le_elementLength (elementLength (pairLength a))
  simp only [attributeContents, List.mem_cons, List.not_mem_nil, or_false] at h
  unfold attributeSize
  unfold pairLength at h hpair hset ⊢
  omega

/-- No content of a name is longer than the name. -/
lemma le_size_of_mem_contents {subject : SubjectName} {c : Nat} (h : c ∈ subject.contents) :
    c ≤ subject.size := by
  have hsize : subject.attributesSize ≤ subject.size := Der.le_elementLength _
  rcases List.mem_append.1 h with h | h
  · obtain ⟨a, ha, hc⟩ := List.mem_flatMap.1 h
    have hsum := List.le_sum_of_mem (List.mem_map_of_mem (f := attributeSize) ha)
    exact (le_attributeSize_of_mem hc).trans (hsum.trans hsize)
  · rw [List.mem_singleton.1 h]
    exact hsize

/-- An attribute is longest when its value is. -/
lemma attributeSize_le {a : NameAttribute × String} {n : Nat} (h : a.2.utf8ByteSize ≤ n) :
    attributeSize a ≤ elementLength (elementLength (5 + elementLength n)) := by
  have harcs : elementLength a.1.oid.length = 5 := by cases a.1 <;> rfl
  refine Der.elementLength_mono (Der.elementLength_mono ?_)
  rw [pairLength, harcs]
  exact Nat.add_le_add_left (Der.elementLength_mono h) 5

end SubjectName

/-! ## Public keys -/

namespace PublicKeyInfo

/-- How many octets the content of a public key has. -/
def contentLength (raw : Bytes) : Nat := algorithm.length + elementLength (raw.length + 1)

/-- The lengths of the contents in a public key that depend on the key. -/
def contents (raw : Bytes) : List Nat := [raw.length + 1, contentLength raw]

/-- How many octets a public key has. -/
def size (raw : Bytes) : Nat := elementLength (contentLength raw)

lemma measures_encode? (raw : Bytes) : Measures (encode? raw) (contents raw) (size raw) := by
  refine ((Der.measures_wrap? _ List.length_cons).bind fun key hkey =>
    Der.measures_wrap? Der.sequenceTag (n := contentLength raw) ?_).of_eq rfl rfl
  rw [List.length_append, hkey, contentLength]

end PublicKeyInfo

/-! ## Requests -/

namespace CertRequest

/-- How many octets the content of a body has. -/
def bodyContent (publicKey : Bytes) (subject : SubjectName) : Nat :=
  version.length + (subject.size + (PublicKeyInfo.size publicKey + attributes.length))

/-- How many octets a body has. -/
def bodySize (publicKey : Bytes) (subject : SubjectName) : Nat :=
  elementLength (bodyContent publicKey subject)

lemma measures_body? (publicKey : Bytes) (subject : SubjectName) :
    Measures (body? publicKey subject)
      (PublicKeyInfo.contents publicKey ++ (subject.contents ++ [bodyContent publicKey subject]))
      (bodySize publicKey subject) := by
  refine (PublicKeyInfo.measures_encode? publicKey).bind fun info hinfo =>
    subject.measures_encode?.bind fun name hname => Der.measures_wrap? Der.sequenceTag ?_
  rw [List.length_append, List.length_append, List.length_append, hname, hinfo, bodyContent]

/-- How many octets the content of a request has. -/
def requestContent (body signature : Bytes) : Nat :=
  body.length + (algorithm.length + elementLength (Der.signatureSize signature + 1))

/-- How many octets a request has. -/
def requestSize (body signature : Bytes) : Nat := elementLength (requestContent body signature)

lemma measures_signed? (body : Bytes) {signature : Bytes} (h : Der.IsPair signature) :
    Measures (signed? body signature)
      (Der.signatureContents signature ++
        ([Der.signatureSize signature + 1] ++ [requestContent body signature]))
      (requestSize body signature) := by
  refine (Der.measures_signature? h).bind fun pair hpair =>
    (Der.measures_wrap? Der.bitStringTag ?_).bind fun bits hbits =>
      Der.measures_wrap? Der.sequenceTag ?_
  · rw [List.length_cons, hpair]
  · rw [List.length_append, List.length_append, hbits, requestContent]

/-! ## The greatest request -/

lemma utf8ByteSize_label (slot : KeySlot) : slot.label.utf8ByteSize ≤ 19 := by
  cases slot <;> decide

section Device

variable {organization uuid : String} {slot : KeySlot} {subject : SubjectName}

/-- The name of a device has at most 183 octets. -/
lemma size_le_of_intended (h : SubjectName.Intended organization uuid slot.label subject) :
    subject.size ≤ 183 := by
  obtain ⟨htexts, hattributes⟩ := h
  simp only [List.forall_mem_cons] at htexts
  obtain ⟨horganization, huuid, -⟩ := htexts
  have ho := SubjectName.attributeSize_le (a := (.organization, organization)) horganization.2.1
  have hu := SubjectName.attributeSize_le (a := (.commonName, uuid)) huuid.2.1
  have hl := SubjectName.attributeSize_le (a := (.organizationalUnit, slot.label))
    (utf8ByteSize_label slot)
  have hlongest :
      elementLength (elementLength (5 + elementLength SubjectName.maxValueLength)) = 75 := rfl
  have hlabel : elementLength (elementLength (5 + elementLength 19)) = 30 := rfl
  have hsum : subject.attributesSize ≤ 180 := by
    rw [SubjectName.attributesSize, hattributes]
    simp only [List.map_cons, List.map_nil, List.sum_cons, List.sum_nil]
    omega
  exact Der.elementLength_mono hsum

end Device

/-- The body of a raw key and of such a name has at most 283 octets. -/
lemma exists_body? {publicKey : Bytes} {subject : SubjectName}
    (hkey : publicKey.length = PublicKeyInfo.rawLength) (hname : subject.size ≤ 183) :
    ∃ body, body? publicKey subject = some body ∧ body.length ≤ 283 := by
  have hinfo : PublicKeyInfo.contents publicKey = [66, 89] ∧ PublicKeyInfo.size publicKey = 91 := by
    rw [PublicKeyInfo.contents, PublicKeyInfo.size, PublicKeyInfo.contentLength, hkey]
    exact ⟨rfl, rfl⟩
  have hversion : version.length = 3 := rfl
  have hattributes : attributes.length = 2 := rfl
  have hcontent : bodyContent publicKey subject ≤ 279 := by
    rw [bodyContent, hinfo.2, hversion, hattributes]
    omega
  have hmax : maxContent = 65535 := rfl
  obtain ⟨body, hbody, hlength⟩ : ∃ body : Bytes, body? publicKey subject = some body ∧
      body.length = bodySize publicKey subject := by
    refine (measures_body? publicKey subject).exists_of_le fun c hc => ?_
    simp only [hinfo.1, List.mem_append, List.mem_cons, List.not_mem_nil, or_false] at hc
    rcases hc with (rfl | rfl) | hc | rfl
    · decide
    · decide
    · have hle := SubjectName.le_size_of_mem_contents hc
      omega
    · omega
  exact ⟨body, hbody, hlength.trans_le (Der.elementLength_mono hcontent)⟩

/-- The request around such a body and a raw signature has at most 374 octets. -/
lemma exists_signed? {body signature : Bytes} (hbody : body.length ≤ 283)
    (hsignature : signature.length = Ecdsa.signatureLength) (hpair : Der.IsPair signature) :
    ∃ request, signed? body signature = some request ∧ request.length ≤ 374 ∧
      body.length ≤ request.length := by
  have hhalf : ∀ half : Bytes, half.length = 32 → Der.integerLength half ≤ 33 := by
    intro half hlength
    exact (Der.integerLength_le half).trans_eq (by rw [hlength])
  have hfirst := hhalf (Der.firstHalf signature) (by
    rw [Der.firstHalf, List.length_take, hsignature]
    rfl)
  have hsecond := hhalf (Der.secondHalf signature) (by
    rw [Der.secondHalf, List.length_drop, hsignature]
    rfl)
  have hinteger : elementLength 33 = 35 := rfl
  have hfirstElement := Der.elementLength_mono hfirst
  have hsecondElement := Der.elementLength_mono hsecond
  have hsum : elementLength (Der.integerLength (Der.firstHalf signature)) +
      elementLength (Der.integerLength (Der.secondHalf signature)) ≤ 70 := by omega
  have hsize : Der.signatureSize signature ≤ 72 := Der.elementLength_mono hsum
  have hbits : elementLength (Der.signatureSize signature + 1) ≤ 75 :=
    Der.elementLength_mono (Nat.succ_le_succ hsize)
  have halgorithm : algorithm.length = 12 := rfl
  have hcontent : requestContent body signature ≤ 370 := by
    rw [requestContent, halgorithm]
    omega
  have hmax : maxContent = 65535 := rfl
  obtain ⟨request, hrequest, hlength⟩ : ∃ request : Bytes, signed? body signature = some request ∧
      request.length = requestSize body signature := by
    refine (measures_signed? body hpair).exists_of_le fun c hc => ?_
    simp only [Der.signatureContents, List.mem_append, List.mem_cons, List.not_mem_nil,
      or_false] at hc
    omega
  refine ⟨request, hrequest, hlength.trans_le (Der.elementLength_mono hcontent), ?_⟩
  rw [hlength]
  exact (Nat.le_add_right _ _).trans (Der.le_elementLength _)

end CertRequest

end DeviceIdentity
