import DeviceIdentity.CertRequest
import DeviceIdentity.Proofs.CertRequest.Parts

/-!
# Requests in DER

A certificate request as octets, and a strict reader of requests that knows nothing of how they are
made: it takes every level apart to its end and accepts only the shortest length fields.

* `body?`, `signed?` — the encodings of a request body and of a complete request.
* `decode?` — what a request says, with the octets of its body as they stand.
* `returns_writeBody`, `encodes_writeSigned` — the writers prepend the encodings.
* `checkSequence_of_body?` — a body passes for one sequence.
* `decode?_of_signed?` — a complete request reads back.
-/

namespace DeviceIdentity

namespace CertRequest

open Der (wrap? unwrap? elements? counted Encodes Composed lengthOctets?)

/-- The version of a request, zero. -/
def version : Bytes := [0x02, 0x01, 0x00]

/-- The attributes of a request, of which there are none. -/
def attributes : Bytes := [0xA0, 0x00]

/-- The algorithm of the signature, ECDSA with SHA-256. -/
def algorithm : Bytes := [0x30, 0x0A, 0x06, 0x08, 0x2A, 0x86, 0x48, 0xCE, 0x3D, 0x04, 0x03, 0x02]

/-- The body of a request. -/
def body? (publicKey : Bytes) (subject : SubjectName) : Option Bytes := do
  let info ← PublicKeyInfo.encode? publicKey
  let name ← subject.encode?
  wrap? Der.sequenceTag (version ++ (name ++ (info ++ attributes)))

/-- A request of a body and its raw signature. -/
def signed? (body signature : Bytes) : Option Bytes := do
  let pair ← Der.signature? signature
  let bits ← wrap? Der.bitStringTag (0x00 :: pair)
  wrap? Der.sequenceTag (body ++ (algorithm ++ bits))

/-- What a request says. -/
structure Decoded where
  /-- The octets of the body. -/
  body : Bytes
  subject : SubjectName
  /-- The octets of the SubjectPublicKeyInfo. -/
  publicKeyInfo : Bytes
  /-- The raw public key in it. -/
  publicKey : Bytes
  r : Int
  s : Int

/-- Reads a body: the name, and the octets of the SubjectPublicKeyInfo. -/
def decodeBody? (bs : Bytes) : Option (SubjectName × Bytes) := do
  let [version, name, info, attributes] ← elements? (← unwrap? Der.sequenceTag bs) | none
  let subject ← SubjectName.decode? name
  if Der.integer? version = some 0 ∧ unwrap? Der.context0Tag attributes = some [] then
    some (subject, info)
  else none

/-- Reads the octets of a signature: a sequence of two numbers. -/
def decodePair? (bs : Bytes) : Option (Int × Int) := do
  let [r, s] ← elements? (← unwrap? Der.sequenceTag bs) | none
  some (← Der.integer? r, ← Der.integer? s)

/-- Reads a request. -/
def decode? (bs : Bytes) : Option Decoded := do
  let [body, algorithm, signature] ← elements? (← unwrap? Der.sequenceTag bs) | none
  let (subject, info) ← decodeBody? body
  let publicKey ← PublicKeyInfo.decode? info
  let (r, s) ← decodePair? (← Der.bits? signature)
  if (unwrap? Der.sequenceTag algorithm).bind (unwrap? Der.oidTag) = some ecdsaWithSha256Oid then
    some ⟨body, subject, info, publicKey, r, s⟩
  else none

/-! ## What is written reads back -/

section RoundTrip

variable {publicKey signature body bs : Bytes} {subject : SubjectName}

lemma wrap?_version : wrap? Der.integerTag [0x00] = some version := rfl

lemma wrap?_attributes : wrap? Der.context0Tag [] = some attributes := rfl

lemma decodeBody?_of_body? (h : body? publicKey subject = some body) :
    ∃ info, PublicKeyInfo.encode? publicKey = some info ∧
      decodeBody? body = some (subject, info) := by
  obtain ⟨info, hinfo, h⟩ := Option.bind_eq_some_iff.1 h
  obtain ⟨name, hname, hbody⟩ := Option.bind_eq_some_iff.1 h
  obtain ⟨-, content, hinfoElement⟩ := PublicKeyInfo.decode?_of_encode? hinfo
  obtain ⟨sets, -, hnameElement⟩ := Option.bind_eq_some_iff.1 hname
  have helements : elements? (version ++ (name ++ (info ++ attributes))) =
      some [version, name, info, attributes] := by
    rw [Der.elements?_append wrap?_version, Der.elements?_append hnameElement,
      Der.elements?_append hinfoElement, Der.elements?_one wrap?_attributes]
    rfl
  have hversion : Der.integer? version = some 0 := by
    rw [Der.integer?, Der.unwrap?_of_wrap? wrap?_version]
    rfl
  refine ⟨info, hinfo, ?_⟩
  simp only [decodeBody?, Option.bind_eq_bind, Der.unwrap?_of_wrap? hbody, Option.bind_some,
    helements, SubjectName.decode?_of_encode? hname, hversion,
    Der.unwrap?_of_wrap? wrap?_attributes, and_self, if_true]

lemma decodePair?_of_signature? (h : Der.signature? signature = some bs) :
    decodePair? bs = some ((Bytes.toNat (signature.take (signature.length / 2)) : Int),
      (Bytes.toNat (signature.drop (signature.length / 2)) : Int)) := by
  rw [Der.signature?] at h
  split_ifs at h
  obtain ⟨s, hs, h⟩ := Option.bind_eq_some_iff.1 h
  obtain ⟨r, hr, hbs⟩ := Option.bind_eq_some_iff.1 h
  obtain ⟨sContent, hsElement, hsNumber⟩ := Der.integer?_of_signatureHalf? hs
  obtain ⟨rContent, hrElement, hrNumber⟩ := Der.integer?_of_signatureHalf? hr
  have helements : elements? (r ++ s) = some [r, s] := by
    rw [Der.elements?_append hrElement, Der.elements?_one hsElement]
    rfl
  simp only [decodePair?, Option.bind_eq_bind, Der.unwrap?_of_wrap? hbs, Option.bind_some,
    helements, hrNumber, hsNumber]

/-- **A request reads back**: the octets of the body, the subject, the key, and the two numbers of
the signature. -/
lemma decode?_of_signed? (hbody : body? publicKey subject = some body)
    (h : signed? body signature = some bs) :
    ∃ info, PublicKeyInfo.encode? publicKey = some info ∧
      decode? bs = some
        { body := body
          subject := subject
          publicKeyInfo := info
          publicKey := publicKey
          r := Bytes.toNat (signature.take (signature.length / 2))
          s := Bytes.toNat (signature.drop (signature.length / 2)) } := by
  obtain ⟨pair, hpair, h⟩ := Option.bind_eq_some_iff.1 h
  obtain ⟨bits, hbits, hbs⟩ := Option.bind_eq_some_iff.1 h
  obtain ⟨info, hinfo, hbodyRead⟩ := decodeBody?_of_body? hbody
  obtain ⟨_, _, hbodyElement⟩ := Option.bind_eq_some_iff.1 hbody
  obtain ⟨_, _, hbodyElement⟩ := Option.bind_eq_some_iff.1 hbodyElement
  have hoid : wrap? Der.oidTag ecdsaWithSha256Oid =
      some (Der.oidTag :: 8 :: ecdsaWithSha256Oid) := rfl
  have halgorithm : wrap? Der.sequenceTag (Der.oidTag :: 8 :: ecdsaWithSha256Oid) =
      some algorithm := rfl
  have helements : elements? (body ++ (algorithm ++ bits)) = some [body, algorithm, bits] := by
    rw [Der.elements?_append hbodyElement, Der.elements?_append halgorithm,
      Der.elements?_one hbits]
    rfl
  refine ⟨info, hinfo, ?_⟩
  simp only [decode?, Option.bind_eq_bind, Der.unwrap?_of_wrap? hbs, Option.bind_some, helements,
    hbodyRead, (PublicKeyInfo.decode?_of_encode? hinfo).1, Der.bits?_of_wrap? hbits,
    decodePair?_of_signature? hpair, Der.unwrap?_of_wrap? halgorithm, Der.unwrap?_of_wrap? hoid,
    if_true]

end RoundTrip

/-! ## The writers -/

/-- What is written before the octets of a body are looked at. -/
lemma encodes_bodyParts (publicKey : Bytes) (subject : SubjectName) :
    Encodes (do
        let attributes ← Der.header Der.context0Tag 0
        let key ← PublicKeyInfo.write publicKey
        let name ← subject.write
        let version ← Der.smallInteger 0
        let _ ← Der.sequenceHeader (attributes + key + name + version)
        return ())
      ((body? publicKey subject).map fun bs => (bs, ())) := by
  have hattributes : Encodes (Der.header Der.context0Tag 0) (some (counted attributes)) :=
    Der.encodes_header _ _
  have hkey := PublicKeyInfo.encodes_write publicKey
  have hname := subject.encodes_write
  have hversion : Encodes (Der.smallInteger 0) (some (counted version)) :=
    Der.encodes_unsigned [0]
  simp only [body?, Option.bind_eq_bind]
  cases hi : PublicKeyInfo.encode? publicKey with
  | none =>
    rw [hi] at hkey
    exact hattributes.bind_none hkey.none_bind
  | some info =>
    rw [hi] at hkey
    rw [Option.bind_some]
    cases hn : subject.encode? with
    | none =>
      rw [hn] at hname
      exact hattributes.bind_none (hkey.bind_none hname.none_bind)
    | some name =>
      rw [hn] at hname
      rw [Option.bind_some]
      have hlength : (version ++ (name ++ (info ++ attributes))).length =
          attributes.length + info.length + name.length + version.length := by
        simp only [List.length_append]
        omega
      cases hf : lengthOctets? (attributes.length + info.length + name.length + version.length) with
      | none =>
        rw [Der.wrap?_eq_none hf hlength]
        exact hattributes.bind_none (hkey.bind_none (hname.bind_none (hversion.bind_none
          (Der.encodes_header_none hf).none_bind)))
      | some field =>
        rw [Der.wrap?_eq_some hf hlength]
        refine Encodes.of_eq (hattributes.bind_some (hkey.bind_some (hname.bind_some
          (hversion.bind_some ((Der.encodes_header_some hf).bind_some
            (Der.encodes_pure ())))))) ?_
        simp

/-- A body is one sequence, as the partition demands of what it signs. -/
lemma checkSequence_of_body? {publicKey bs : Bytes} {name : SubjectName}
    (h : body? publicKey name = some bs) : ∃ n, DerHeader.checkSequence bs = .ok n := by
  obtain ⟨info, -, h⟩ := Option.bind_eq_some_iff.1 h
  obtain ⟨rdn, -, h⟩ := Option.bind_eq_some_iff.1 h
  exact ⟨_, Der.checkSequence_of_wrap? h⟩

/-- A body is written by prepending its encoding; if nothing was written before, the octets that
are returned are the encoding. -/
lemma returns_writeBody {publicKey : Bytes} {subject : SubjectName} {t u : Tail} {bs : Bytes} :
    (writeBody publicKey subject).Returns t bs u ↔
      ∃ body, body? publicKey subject = some body ∧ t.prepend? body = some u ∧
        body ++ t.written = bs := by
  have hwritten : ∀ {s : Tail}, Der.written.Returns s bs u ↔ s.written = bs ∧ s = u := by
    intro s
    simp only [Der.written, Action.returns_bind, Action.returns_get, Action.returns_pure]
    constructor
    · rintro ⟨_, _, ⟨rfl, rfl⟩, h⟩
      exact h
    · rintro h
      exact ⟨s, s, ⟨rfl, rfl⟩, h⟩
  have hparts := (encodes_bodyParts publicKey subject).returns_iff (t := t) (a := ()) (u := u)
  simp only [Action.returns_bind, Action.returns_pure, true_and] at hparts
  simp only [writeBody, Action.returns_bind, hwritten]
  constructor
  · rintro ⟨n, s₁, h₁, k, s₂, h₂, m, s₃, h₃, l, s₄, h₄, j, s₅, h₅, rfl, rfl⟩
    obtain ⟨body, hbody, hu⟩ :=
      hparts.1 ⟨n, s₁, h₁, k, s₂, h₂, m, s₃, h₃, l, s₄, h₄, j, s₅, h₅, rfl⟩
    obtain ⟨body, hbody, heq⟩ := Option.map_eq_some_iff.1 hbody
    cases heq
    exact ⟨body, hbody, hu, (Tail.written_of_prepend? hu).symm⟩
  · rintro ⟨body, hbody, hu, rfl⟩
    obtain ⟨n, s₁, h₁, k, s₂, h₂, m, s₃, h₃, l, s₄, h₄, j, s₅, h₅, rfl⟩ :=
      hparts.2 ⟨body, by rw [hbody]; rfl, hu⟩
    exact ⟨n, s₁, h₁, k, s₂, h₂, m, s₃, h₃, l, s₄, h₄, j, s₅, h₅,
      Tail.written_of_prepend? hu, rfl⟩

lemma encodes_writeSigned (body signature : Bytes) :
    Encodes (writeSigned body signature) ((signed? body signature).map counted) := by
  have hpair := Der.encodes_signature signature
  have hoid : Encodes (Der.oid ecdsaWithSha256Oid) (some (counted _)) := Der.encodes_tagged _ _
  have halgorithm : Encodes (Der.sequenceHeader 10) (some (counted _)) := Der.encodes_header _ _
  have hbody := Der.encodes_raw body
  simp only [writeSigned, signed?, Option.bind_eq_bind]
  cases hp : Der.signature? signature with
  | none =>
    rw [hp] at hpair
    exact hpair.none_bind
  | some pair =>
    rw [hp] at hpair
    rw [Option.bind_some]
    have hbits := Der.encodes_closeBitString pair.length
    cases hf : lengthOctets? (pair.length + 1) with
    | none =>
      rw [hf] at hbits
      rw [Der.wrap?_eq_none hf rfl]
      exact hpair.bind_none hbits.none_bind
    | some field =>
      rw [hf] at hbits
      rw [Der.wrap?_eq_some hf rfl, Option.bind_some]
      set bits := Der.bitStringTag :: field ++ 0x00 :: pair with hbitsdef
      have hlength : (body ++ (algorithm ++ bits)).length =
          pair.length + (field.length + 2) + 12 + body.length := by
        have halgorithmLength : algorithm.length = 12 := rfl
        simp only [hbitsdef, List.length_append, List.length_cons, halgorithmLength]
        omega
      cases hg : lengthOctets? (pair.length + (field.length + 2) + 12 + body.length) with
      | none =>
        rw [Der.wrap?_eq_none hg hlength]
        exact hpair.bind_none (hbits.bind_none (hoid.bind_none (halgorithm.bind_none
          (hbody.bind_none (Der.encodes_header_none hg).none_bind))))
      | some outer =>
        rw [Der.wrap?_eq_some hg hlength]
        refine Encodes.of_eq (hpair.bind_some (hbits.bind_some (hoid.bind_some
          (halgorithm.bind_some (hbody.bind_some ((Der.encodes_header_some hg).bind_some
            (Der.encodes_pure _))))))) ?_
        have hparts : algorithm = [Der.sequenceTag, UInt8.ofNat 10] ++
          (Der.oidTag :: UInt8.ofNat 8 :: ecdsaWithSha256Oid) := rfl
        have hoidLength : ecdsaWithSha256Oid.length = 8 := rfl
        simp [counted, hparts, hoidLength, hbitsdef]
        omega

lemma composed_writeBody (publicKey : Bytes) (subject : SubjectName) :
    Composed (writeBody publicKey subject) :=
  (Der.composed_header _ _).bind fun _ => (PublicKeyInfo.composed_write _).bind fun _ =>
    subject.composed_write.bind fun _ => (Der.composed_unsigned _).bind fun _ =>
    (Der.composed_header _ _).bind fun _ => Composed.get.bind fun _ => .pure _

lemma composed_writeSigned (body signature : Bytes) : Composed (writeSigned body signature) :=
  (Der.composed_signature _).bind fun _ => (Der.composed_closeBitString _).bind fun _ =>
    (Der.composed_tagged _ _).bind fun _ => (Der.composed_header _ _).bind fun _ =>
    (Composed.raw _).bind fun _ => (Der.composed_header _ _).bind fun _ => .pure _

end CertRequest

end DeviceIdentity
