import DeviceIdentity.Proofs.Cbor.Delimiting
import DeviceIdentity.Proofs.P256.Signature
import DeviceIdentity.Proofs.SignedValue.Verification

/-!
# A message ends where it ends

Octets that are one item spelled out are neither the front of another item nor longer than one.  So
a message, however it is spelled, stops being one as soon as octets are taken from its end or put
there, and verification reports this before it looks at anything else.

* `Spells.eq_nil_of_append` — one item is not the front of another.
* `verify_eq_malformedCose_iff` — verification finds no message where there is none.
* **`verify_delimited`** — no message is a proper front of another.
-/

namespace DeviceIdentity

namespace SignedValue

open P256 (Point)

variable {message publicKey : Bytes}

lemma Spells.eq_nil_of_append {octets more : Bytes} {item other : CborItem}
    (h : Spells octets item) (h' : Spells (octets ++ more) other) : more = [] := by
  have hread := CborItem.read?_append h more
  rw [h', List.nil_append] at hread
  exact (Prod.mk.inj (Option.some.inj hread)).2.symm

lemma IsMessage.eq_nil_of_append {more p m s p' m' s' : Bytes} (h : IsMessage message p m s)
    (h' : IsMessage (message ++ more) p' m' s') : more = [] := by
  obtain ⟨⟨_, hspells⟩, -, -⟩ := h
  obtain ⟨⟨_, hspells'⟩, -, -⟩ := h'
  exact hspells.eq_nil_of_append hspells'

/-- Under a public key, verification finds no message exactly where there is none. -/
lemma verify_eq_malformedCose_iff {holder : Point} (hkey : Point.decode? publicKey = some holder) :
    verify message publicKey = .error .malformedCose ↔ ¬∃ p m s, IsMessage message p m s := by
  constructor
  · rintro hverify ⟨p, m, s, hmessage⟩
    have hverdict := verdict_verify message publicKey
    by_cases hauthentic : Authentic holder p m s
    · have hopened := hverdict.unique (.verified hkey hmessage hauthentic)
      rw [hverify] at hopened
      exact opened_ne_error (by simp) hopened.symm
    · have hforged := hverdict.unique (.forged hkey hmessage hauthentic)
      rw [hverify] at hforged
      cases hforged
  · intro hno
    exact (verdict_verify message publicKey).unique (.noMessage hkey hno)

/-- **A message ends where it ends.**  If verification under a public key finds a message in some
octets, whatever else it says of them, then it finds none in a proper front of the octets, and none
when more octets follow. -/
theorem verify_delimited {message publicKey : Bytes} (hkey : Point.decode? publicKey ≠ none)
    (h : verify message publicKey ≠ .error .malformedCose) :
    (∀ front, front <+: message → front ≠ message →
      verify front publicKey = .error .malformedCose) ∧
    (∀ more, more ≠ [] → verify (message ++ more) publicKey = .error .malformedCose) := by
  obtain ⟨holder, hholder⟩ := Option.ne_none_iff_exists'.1 hkey
  have hiff : ∀ octets, verify octets publicKey = .error .malformedCose ↔
      ¬∃ p m s, IsMessage octets p m s := fun _ => verify_eq_malformedCose_iff hholder
  obtain ⟨p, m, s, hmessage⟩ := Classical.not_not.1 (mt (hiff message).2 h)
  constructor
  · rintro front ⟨more, rfl⟩ hproper
    rw [hiff]
    rintro ⟨p', m', s', hfront⟩
    -- both are messages, so nothing was cut off
    have hmore : more = [] := hfront.eq_nil_of_append hmessage
    rw [hmore, List.append_nil] at hproper
    exact hproper rfl
  · intro more hmore
    rw [hiff]
    rintro ⟨p', m', s', hlonger⟩
    exact hmore (hmessage.eq_nil_of_append hlonger)

/-- A message with a tag that is longer than needed, in which the array, the header and the map
leave their lengths open.  Its signature is no pair of numbers in range. -/
def openMessage : Bytes :=
  [0xD8, 0x12, 0x9F, 0x5F, 0x43, 0xA1, 0x01, 0x26, 0xFF, 0xBF, 0xFF, 0x40, 0x58, 0x40] ++
    List.replicate 64 0 ++ [0xFF]

lemma isMessage_openMessage :
    IsMessage openMessage [0xA1, 0x01, 0x26] [] (List.replicate 64 0) :=
  parse?_eq_some_iff.1 (by decide +kernel)

/-- This message has 79 octets; with 78 or with one more it is none. -/
theorem verify_delimited_openMessage :
    let publicKey := Ecdsa.PrivateKey.point ⟨1, by decide⟩ |>.encode
    verify openMessage publicKey = .error .signatureInvalid ∧
      verify (openMessage.take 78) publicKey = .error .malformedCose ∧
      verify (openMessage ++ [0xFF]) publicKey = .error .malformedCose := by
  intro publicKey
  have hkey : Point.decode? publicKey = some _ := Ecdsa.PrivateKey.decode?_encode_point _
  have hverify : verify openMessage publicKey = .error .signatureInvalid := by
    refine (verdict_verify _ _).unique (.forged hkey isMessage_openMessage ?_)
    rintro ⟨pair, hpair, -⟩
    have hnone : Ecdsa.parse? (List.replicate 64 0) = none := by decide +kernel
    rw [hnone] at hpair
    cases hpair
  obtain ⟨hfront, hmore⟩ := verify_delimited (by rw [hkey]; simp) (by rw [hverify]; simp)
  exact ⟨hverify, hfront _ (List.take_prefix 78 openMessage) (by decide), hmore [0xFF] (by decide)⟩

end SignedValue

end DeviceIdentity
