import Mathlib.Tactic.Lemma
import Mathlib.Tactic.SplitIfs
import DeviceIdentity.SignedValue.Message

/-!
# What verification accepts, and in which order it refuses

The shape of a signed value and its authenticity are stated here on their own, from the item that
the octets spell and from the check of a pair of numbers.  Verification asks for a public key, then
for the shape, then for authenticity, and only then for a value.

* `IsMessage` — the octets have the shape of a signed value, with given parts.
* `Authentic` — the signature is a pair of numbers that verifies over header and payload.
* `parse?_eq_some_iff`, `signedBy_iff` — the reader of the code decides these.
* **`verify_decides`** — each failure is reported exactly when its condition is the first to fail,
  and a value is only ever taken from a payload that was verified.
-/

namespace DeviceIdentity

namespace CborItem

/-- An integer item is known by its number. -/
lemma isInt_iff {n : Int} (hlow : -2 ^ 64 ≤ n) (hhigh : n < 2 ^ 64) {item : CborItem} :
    item.isInt n = true ↔ item = ofInt n := by
  have hofNat : ∀ {v : UInt64} {m : Nat}, m < 2 ^ 64 → (v = UInt64.ofNat m ↔ v.toNat = m) := by
    intro v m hm
    rw [← UInt64.toNat_inj, UInt64.toNat_ofNat_of_lt' hm]
  unfold ofInt
  cases item with
  | unsigned value =>
    rw [isInt, decide_eq_true_eq]
    split_ifs with hsign
    · rw [unsigned.injEq, hofNat (by omega)]
      omega
    · have hlt := value.toNat_lt
      simp only [iff_false]
      omega
  | negative offset =>
    rw [isInt, decide_eq_true_eq]
    split_ifs with hsign
    · have hlt := offset.toNat_lt
      simp only [iff_false]
      omega
    · rw [negative.injEq, hofNat (by omega)]
      omega
  | _ => simp only [isInt]; split_ifs <;> simp

end CborItem

namespace SignedValue

open P256 (Point)

/-! ## The shape of a message -/

/-- The octets are one item and nothing more. -/
def Spells (octets : Bytes) (item : CborItem) : Prop :=
  CborItem.read? octets = some (item, [])

/-- The octets spell a map with an entry that names ECDSA with SHA-256. -/
def IsHeader (header : Bytes) : Prop :=
  ∃ entries, Spells header (.map entries) ∧
    (CborItem.unsigned 1, CborItem.negative 6) ∈ entries

/-- The octets spell a tagged array of a header, a map, a payload and a signature. -/
def IsMessage (message header payload signature : Bytes) : Prop :=
  (∃ unprotected, Spells message
    (.tagged 18 (.array [.bytes header, .map unprotected, .bytes payload, .bytes signature]))) ∧
  IsHeader header ∧ signature.length = 64

/-- The signature is a pair of numbers in range that verifies over the header and the payload. -/
def Authentic (holder : Point) (header payload signature : Bytes) : Prop :=
  ∃ pair, Ecdsa.parse? signature = some pair ∧
    Ecdsa.verify holder (sigStructure header payload) pair = true

lemma readExactly?_eq_some_iff {octets : Bytes} {item : CborItem} :
    CborItem.readExactly? octets = some item ↔ Spells octets item := by
  unfold CborItem.readExactly? Spells
  constructor
  · intro h
    split at h
    · next found hread =>
      obtain rfl := Option.some.inj h
      exact hread
    · cases h
  · intro h
    rw [h]

lemma Spells.unique {octets : Bytes} {item other : CborItem} (h : Spells octets item)
    (h' : Spells octets other) : item = other :=
  (Prod.mk.inj (Option.some.inj (h.symm.trans h'))).1

lemma IsMessage.unique {message p m s p' m' s' : Bytes} (h : IsMessage message p m s)
    (h' : IsMessage message p' m' s') : p = p' ∧ m = m' ∧ s = s' := by
  obtain ⟨⟨_, hitem⟩, -, -⟩ := h
  obtain ⟨⟨_, hitem'⟩, -, -⟩ := h'
  have heq := hitem.unique hitem'
  simp only [CborItem.tagged.injEq, CborItem.array.injEq, List.cons.injEq, CborItem.bytes.injEq,
    and_true, true_and] at heq
  exact ⟨heq.1, heq.2.2.1, heq.2.2.2⟩

lemma isEs256_iff {entry : CborItem × CborItem} :
    isEs256 entry = true ↔ entry = (.unsigned 1, .negative 6) := by
  rw [isEs256, Bool.and_eq_true, CborItem.isInt_iff (by decide) (by decide),
    CborItem.isInt_iff (by decide) (by decide), Prod.ext_iff]
  rfl

lemma isHeader_iff {header : Bytes} : isHeader header = true ↔ IsHeader header := by
  unfold isHeader IsHeader
  constructor
  · intro h
    split at h
    · next entries hread =>
      obtain ⟨entry, hmem, hentry⟩ := List.any_eq_true.1 h
      rw [isEs256_iff.1 hentry] at hmem
      exact ⟨entries, readExactly?_eq_some_iff.1 hread, hmem⟩
    · cases h
  · rintro ⟨entries, hspells, hmem⟩
    rw [readExactly?_eq_some_iff.2 hspells]
    exact List.any_eq_true.2 ⟨_, hmem, isEs256_iff.2 rfl⟩

/-- The reader finds the parts of a message exactly when the octets have the shape. -/
lemma parse?_eq_some_iff {message header payload signature : Bytes} :
    Parts.parse? message = some ⟨header, payload, signature⟩ ↔
      IsMessage message header payload signature := by
  unfold Parts.parse?
  constructor
  · intro h
    obtain ⟨item, hread, hparts⟩ := Option.bind_eq_some_iff.1 h
    unfold Parts.ofItem? at hparts
    split at hparts
    · next tag p unprotected m s =>
      split_ifs at hparts with hshape
      obtain ⟨rfl, hheader, hlength⟩ := hshape
      cases hparts
      exact ⟨⟨unprotected, readExactly?_eq_some_iff.1 hread⟩, isHeader_iff.1 hheader, hlength⟩
    · cases hparts
  · rintro ⟨⟨unprotected, hspells⟩, hheader, hlength⟩
    rw [readExactly?_eq_some_iff.2 hspells, Option.bind_some, Parts.ofItem?]
    exact if_pos ⟨rfl, isHeader_iff.2 hheader, hlength⟩

lemma signedBy_iff {holder : Point} {parts : Parts} :
    parts.signedBy holder = true ↔
      Authentic holder parts.header parts.payload parts.signature := by
  unfold Parts.signedBy Authentic
  constructor
  · intro h
    split at h
    · next pair hpair => exact ⟨pair, hpair, h⟩
    · cases h
  · rintro ⟨pair, hpair, hverify⟩
    rw [hpair]
    exact hverify

/-! ## The order of the checks -/

/-- What is made of a payload. -/
def opened (payload : Bytes) : Except Failure Single :=
  match payloadValue? payload with
  | some value => .ok value
  | none => .error .payloadDecodeFailed

/-- The outcomes of verification, in the order in which they are decided. -/
inductive Verdict (message publicKey : Bytes) : Except Failure Single → Prop where
  | noPoint (h : Point.decode? publicKey = none) :
      Verdict message publicKey (.error (.invalidInput "public key is not a P-256 point"))
  | noMessage {holder : Point} (hkey : Point.decode? publicKey = some holder)
      (h : ¬∃ p m s, IsMessage message p m s) : Verdict message publicKey (.error .malformedCose)
  | forged {holder : Point} {p m s : Bytes} (hkey : Point.decode? publicKey = some holder)
      (h : IsMessage message p m s) (hforged : ¬Authentic holder p m s) :
      Verdict message publicKey (.error .signatureInvalid)
  | verified {holder : Point} {p m s : Bytes} (hkey : Point.decode? publicKey = some holder)
      (h : IsMessage message p m s) (hauthentic : Authentic holder p m s) :
      Verdict message publicKey (opened m)

/-- Verification reaches one of the outcomes. -/
lemma verdict_verify (message publicKey : Bytes) :
    Verdict message publicKey (verify message publicKey) := by
  unfold verify
  split
  · next hkey => exact .noPoint hkey
  · next holder hkey =>
    split
    · next hparts =>
      refine .noMessage hkey ?_
      rintro ⟨p, m, s, hmessage⟩
      rw [parse?_eq_some_iff.2 hmessage] at hparts
      cases hparts
    · next parts hparts =>
      have hmessage := parse?_eq_some_iff.1 hparts
      split_ifs with hsigned
      · exact .verified hkey hmessage (signedBy_iff.1 hsigned)
      · exact .forged hkey hmessage fun hauthentic => hsigned (signedBy_iff.2 hauthentic)

/-- The outcomes exclude each other. -/
lemma Verdict.unique {message publicKey : Bytes} {result result' : Except Failure Single}
    (h : Verdict message publicKey result) (h' : Verdict message publicKey result') :
    result = result' := by
  cases h with
  | noPoint hnone =>
    cases h' with
    | noPoint => rfl
    | noMessage hkey | forged hkey | verified hkey =>
      rw [hnone] at hkey
      cases hkey
  | noMessage hkey hno =>
    cases h' with
    | noPoint hnone =>
      rw [hnone] at hkey
      cases hkey
    | noMessage => rfl
    | forged _ hmessage | verified _ hmessage => exact absurd ⟨_, _, _, hmessage⟩ hno
  | forged hkey hmessage hforged =>
    cases h' with
    | noPoint hnone =>
      rw [hnone] at hkey
      cases hkey
    | noMessage _ hno => exact absurd ⟨_, _, _, hmessage⟩ hno
    | forged => rfl
    | verified hkey' hmessage' hauthentic =>
      obtain ⟨rfl, rfl, rfl⟩ := hmessage.unique hmessage'
      rw [hkey] at hkey'
      cases hkey'
      exact absurd hauthentic hforged
  | verified hkey hmessage hauthentic =>
    cases h' with
    | noPoint hnone =>
      rw [hnone] at hkey
      cases hkey
    | noMessage _ hno => exact absurd ⟨_, _, _, hmessage⟩ hno
    | forged hkey' hmessage' hforged =>
      obtain ⟨rfl, rfl, rfl⟩ := hmessage.unique hmessage'
      rw [hkey] at hkey'
      cases hkey'
      exact absurd hauthentic hforged
    | verified _ hmessage' =>
      obtain ⟨-, rfl, -⟩ := hmessage.unique hmessage'
      rfl

lemma opened_ne_error {payload : Bytes} {cause : Failure} (h : cause ≠ .payloadDecodeFailed) :
    opened payload ≠ .error cause := by
  unfold opened
  split
  · simp
  · intro heq
    exact h (Except.error.inj heq).symm

/-- **Verification accepts what it should, and refuses in a fixed order.**  First the public key has
to be a point, then the octets have to be a message, then the signature has to be authentic for the
header and the payload that were read, and only then the payload is opened.  In particular, neither
a value nor a failure to find one is ever reported for a payload that was not verified. -/
theorem verify_decides (message publicKey : Bytes) :
    (Point.decode? publicKey = none →
      verify message publicKey = .error (.invalidInput "public key is not a P-256 point")) ∧
    (∀ text, verify message publicKey = .error (.invalidInput text) →
      Point.decode? publicKey = none) ∧
    (verify message publicKey = .error .malformedCose ↔
      ∃ holder, Point.decode? publicKey = some holder ∧ ¬∃ p m s, IsMessage message p m s) ∧
    (verify message publicKey = .error .signatureInvalid ↔
      ∃ holder p m s, Point.decode? publicKey = some holder ∧ IsMessage message p m s ∧
        ¬Authentic holder p m s) ∧
    (∀ holder p m s, Point.decode? publicKey = some holder → IsMessage message p m s →
      Authentic holder p m s → verify message publicKey = opened m) ∧
    ((∃ value, verify message publicKey = .ok value) ∨
        verify message publicKey = .error .payloadDecodeFailed →
      ∃ holder p m s, Point.decode? publicKey = some holder ∧ IsMessage message p m s ∧
        Authentic holder p m s) := by
  have hverdict := verdict_verify message publicKey
  refine ⟨fun hnone => hverdict.unique (.noPoint hnone), ?_, ⟨?_, ?_⟩, ⟨?_, ?_⟩, ?_, ?_⟩
  · intro text h
    generalize verify message publicKey = result at hverdict h
    cases hverdict with
    | noPoint hnone => exact hnone
    | noMessage | forged => cases h
    | verified => exact absurd h (opened_ne_error (by simp))
  · intro h
    generalize verify message publicKey = result at hverdict h
    cases hverdict with
    | noPoint | forged => cases h
    | noMessage hkey hno => exact ⟨_, hkey, hno⟩
    | verified => exact absurd h (opened_ne_error (by simp))
  · rintro ⟨holder, hkey, hno⟩
    exact hverdict.unique (.noMessage hkey hno)
  · intro h
    generalize verify message publicKey = result at hverdict h
    cases hverdict with
    | noPoint | noMessage => cases h
    | forged hkey hmessage hforged => exact ⟨_, _, _, _, hkey, hmessage, hforged⟩
    | verified => exact absurd h (opened_ne_error (by simp))
  · rintro ⟨holder, p, m, s, hkey, hmessage, hforged⟩
    exact hverdict.unique (.forged hkey hmessage hforged)
  · intro holder p m s hkey hmessage hauthentic
    exact hverdict.unique (.verified hkey hmessage hauthentic)
  · intro h
    generalize verify message publicKey = result at hverdict h
    cases hverdict with
    | noPoint | noMessage | forged => rcases h with ⟨value, h⟩ | h <;> cases h
    | verified hkey hmessage hauthentic => exact ⟨_, _, _, _, hkey, hmessage, hauthentic⟩

end SignedValue

end DeviceIdentity
