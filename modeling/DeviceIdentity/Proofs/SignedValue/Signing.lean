import DeviceIdentity.Proofs.Action
import DeviceIdentity.Proofs.SignedValue.Delimiting
import DeviceIdentity.Proofs.SignedValue.RoundTrip

/-!
# Making a message and taking it apart

A message is made with the help of a signer, which may be anything: a key at hand, a service that is
asked, something that fails.  Nothing is known of it but what it returns, so what it is given is
told by a signer that takes note and then does what the other would have done.

* `noting`, `octetsGiven` — the octets that a signer is given while a message is made.
* `returns_sign1`, `fails_sign1` — a message is made exactly when the signer returns.
* `Makes` — a signature of the right length was made, and a message from it.
* **`sign1_reads_back`** — whatever the payload, the reader finds the parts that the message was
  made of, and would have the signature checked over the octets that were signed.
-/

namespace DeviceIdentity

namespace SignedValue

open P256 (Point)

variable {σ : Type} {payload signature c : Bytes} {sign : Bytes → Action σ Bytes} {s s' : σ}

/-! ## What the signer is given -/

/-- Takes note of the octets to be signed and has them signed. -/
def noting (sign : Bytes → Action σ Bytes) (octets : Bytes) : Action (σ × List Bytes) Bytes := do
  Action.modify fun (s, noted) => (s, noted ++ [octets])
  (sign octets).onFst

/-- What the signer is given from `s` on, call after call, while a message is made. -/
def octetsGiven (payload : Bytes) (sign : Bytes → Action σ Bytes) (s : σ) : List Bytes :=
  ((sign1 payload (noting sign)).run (s, [])).state.2

/-- The signer is called once. -/
lemma octetsGiven_eq (payload : Bytes) (sign : Bytes → Action σ Bytes) (s : σ) :
    octetsGiven payload sign s = [toBeSigned payload] := by
  rw [octetsGiven, sign1, Action.state_bind_pure]
  rfl

lemma returns_sign1 :
    (sign1 payload sign).Returns s c s' ↔
      ∃ signature, (sign (toBeSigned payload)).Returns s signature s' ∧
        c = message payload signature := by
  simp only [sign1, Action.returns_bind, Action.returns_pure]
  constructor
  · rintro ⟨signature, _, hsign, rfl, rfl⟩
    exact ⟨signature, hsign, rfl⟩
  · rintro ⟨signature, hsign, rfl⟩
    exact ⟨signature, s', hsign, rfl, rfl⟩

lemma fails_sign1 {e : Failure} :
    (sign1 payload sign).Fails s e s' ↔ (sign (toBeSigned payload)).Fails s e s' := by
  simp only [sign1, Action.fails_bind, Action.fails_pure, and_false, exists_false, or_false]

/-! ## What is made -/

/-- The signer, called from `s`, makes a signature of 64 octets for the payload, and the message
made with it is `c`. -/
structure Makes (sign : Bytes → Action σ Bytes) (s : σ) (payload signature c : Bytes) : Prop where
  length : signature.length = 64
  made : ∃ s', (sign (toBeSigned payload)).Returns s signature s' ∧
    (sign1 payload sign).Returns s c s'

lemma Makes.eq_message (h : Makes sign s payload signature c) : c = message payload signature := by
  obtain ⟨-, s', hsign, hmade⟩ := h
  obtain ⟨signature', hsign', rfl⟩ := returns_sign1.1 hmade
  rw [(hsign.unique hsign').1]

lemma Makes.isMessage (h : Makes sign s payload signature c) (hpayload : payload.length < 2 ^ 64) :
    IsMessage c protectedHeader payload signature := by
  rw [h.eq_message]
  exact isMessage_message hpayload h.length

/-- **What is made reads back.**  While a message is made for a payload of any length that a head
can state, the signer is called once.  If it fails, so does the making, with the same failure.  If
it returns 64 octets, a message is returned in which the reader finds the header that names the
algorithm, the payload and these octets, and the octets that verification checks the signature over
are those that the signer was given.  So under a public key the message is never refused for its
shape, and equal messages were made from equal payloads and signatures, whoever signed them. -/
theorem sign1_reads_back (payload : Bytes) (hpayload : payload.length < 2 ^ 64)
    (sign : Bytes → Action σ Bytes) (s : σ) :
    octetsGiven payload sign s = [toBeSigned payload] ∧
    (∀ e s', (sign (toBeSigned payload)).Fails s e s' → (sign1 payload sign).Fails s e s') ∧
    (∀ signature s', (sign (toBeSigned payload)).Returns s signature s' → signature.length = 64 →
      ∃ c, (sign1 payload sign).Returns s c s' ∧
        Parts.parse? c =
          some ⟨(CborItem.map [(.ofInt 1, .ofInt (-7))]).encode, payload, signature⟩ ∧
        (∀ parts, Parts.parse? c = some parts →
          octetsGiven payload sign s = [sigStructure parts.header parts.payload]) ∧
        (∀ publicKey, Point.decode? publicKey ≠ none →
          verify c publicKey ≠ .error .malformedCose)) ∧
    (∀ {τ : Type} (sign' : Bytes → Action τ Bytes) (t : τ)
      (payload' signature signature' c : Bytes), payload'.length < 2 ^ 64 →
      Makes sign s payload signature c → Makes sign' t payload' signature' c →
        payload = payload' ∧ signature = signature') := by
  refine ⟨octetsGiven_eq payload sign s, fun e s' => fails_sign1.2, ?_, ?_⟩
  · intro signature s' hsign hlength
    have hmade := returns_sign1.2 ⟨signature, hsign, rfl⟩
    have hmessage := Makes.isMessage ⟨hlength, s', hsign, hmade⟩ hpayload
    have hparse := parse?_eq_some_iff.2 hmessage
    refine ⟨message payload signature, hmade, hparse, ?_, ?_⟩
    · intro parts hparts
      rw [hparse] at hparts
      cases hparts
      exact octetsGiven_eq payload sign s
    · intro publicKey hkey hmalformed
      obtain ⟨holder, hholder⟩ := Option.ne_none_iff_exists'.1 hkey
      exact (verify_eq_malformedCose_iff hholder).1 hmalformed ⟨_, _, _, hmessage⟩
  · intro τ sign' t payload' signature signature' c hpayload' hmakes hmakes'
    obtain ⟨-, hsame⟩ := (hmakes.isMessage hpayload).unique (hmakes'.isMessage hpayload')
    exact hsame

/-- A signer that knows one signature only, and counts how often it gives it. -/
def countingSigner (_ : Bytes) : Action Nat Bytes := do
  Action.modify (· + 1)
  return List.replicate 64 1

lemma returns_countingSigner (octets : Bytes) (n : Nat) :
    (countingSigner octets).Returns n (List.replicate 64 1) (n + 1) :=
  ⟨rfl, rfl⟩

/-- A payload of three hundred octets: it reads back with the one signature that the signer has, a
signer that fails makes nothing of it, and with the same signature another payload makes another
message. -/
theorem sign1_reads_back_counting :
    let payload : Bytes := List.replicate 300 0x58
    let signature : Bytes := List.replicate 64 1
    let publicKey := Ecdsa.PrivateKey.point ⟨1, by decide⟩ |>.encode
    (∃ c, (sign1 payload countingSigner).Returns 0 c 1 ∧
      Parts.parse? c = some ⟨[0xA1, 0x01, 0x26], payload, signature⟩ ∧
      octetsGiven payload countingSigner 0 = [toBeSigned payload] ∧
      verify c publicKey ≠ .error .malformedCose) ∧
    (sign1 payload fun _ => Action.fail .transportUnavailable).Fails () .transportUnavailable () ∧
    message payload signature ≠ message [] signature := by
  intro payload signature publicKey
  have hpayload : payload.length < 2 ^ 64 := by
    rw [List.length_replicate]
    decide
  have hlength : signature.length = 64 := List.length_replicate
  have hsign := returns_countingSigner (toBeSigned payload) 0
  obtain ⟨hgiven, -, hmade, hinjective⟩ := sign1_reads_back payload hpayload countingSigner 0
  obtain ⟨c, hreturns, hparse, -, hverify⟩ := hmade signature 1 hsign hlength
  obtain ⟨-, hfails, -⟩ :=
    sign1_reads_back payload hpayload (fun _ => Action.fail .transportUnavailable) ()
  refine ⟨⟨c, hreturns, hparse, hgiven, hverify publicKey ?_⟩,
    hfails _ () (Action.fails_fail.2 ⟨rfl, rfl⟩), ?_⟩
  · rw [Ecdsa.PrivateKey.decode?_encode_point]
    simp
  · intro heq
    have hsign' := returns_countingSigner (toBeSigned []) 0
    obtain ⟨hsame, -⟩ := hinjective countingSigner 0 [] signature signature (message [] signature)
      (by decide) ⟨hlength, 1, hsign, returns_sign1.2 ⟨signature, hsign, heq.symm⟩⟩
      ⟨hlength, 1, hsign', returns_sign1.2 ⟨signature, hsign', rfl⟩⟩
    exact List.cons_ne_nil _ _ hsame

end SignedValue

end DeviceIdentity
