import DeviceIdentity.Proofs.Partition.Calls
import DeviceIdentity.Proofs.SecureService.Inquiries

/-!
# A key is imported whole or not at all

The usual way of deriving a key asks the service for two halves, each of a fixed length, and hands
both to the import.  The service may answer with a failure or with any number of octets.  An answer
that is not half a key ends the derivation there, so nothing is imported that was cut short, filled
up, or put together from one half alone.

* `Deriver.Refused` — why an answer is not half a key.
* `returns_block`, `fails_block` — a block is the answer, if it has the length asked for.
* `fails_deriveKey_high`, `fails_deriveKey_low`, `run_deriveKey` — how far the derivation comes.
* `Derives` — what is asked on the way, and what comes out; `derives_of_refused_high`,
  `derives_of_refused_low`, `derives_of_halves` — in each case.
* **`key_imported_whole`** — all of this together.
-/

namespace DeviceIdentity

open DeviceIdentity.Action (Fails Returns)

/-! ## Blocks -/

namespace Deriver

variable {σ : Type}

/-- Why an answer is not the block that was asked for: it is a failure, or it has another length. -/
inductive Refused : Except Failure Bytes → Failure → Prop
  | failed (e : Failure) : Refused (.error e) e
  | length {octets : Bytes} (h : octets.length ≠ blockLength) : Refused (.ok octets) .bufferTooSmall

lemma accepted_or_refused (answer : Except Failure Bytes) :
    (∃ octets, answer = .ok octets ∧ octets.length = blockLength) ∨ ∃ e, Refused answer e := by
  cases answer with
  | error e => exact .inr ⟨e, .failed e⟩
  | ok octets =>
    by_cases hlength : octets.length = blockLength
    · exact .inl ⟨octets, rfl, hlength⟩
    · exact .inr ⟨_, .length hlength⟩

/-- What a deriver answers when it is asked for the block for a part of a purpose. -/
def answer (d : Deriver σ) (base part : String) (s : σ) : Outcome σ Bytes :=
  (d.deriveOctets (Bytes.ofText (label base part (d.labelSuffix s))) blockLength).run s

variable {d : Deriver σ} {base part : String} {s : σ}

lemma returns_block {octets : Bytes} (h : (d.answer base part s).result = .ok octets)
    (hlength : octets.length = blockLength) :
    (d.block base part).Returns s octets (d.answer base part s).state :=
  returns_block_iff.2 ⟨⟨h, rfl⟩, hlength⟩

lemma fails_block {e : Failure} (h : Refused (d.answer base part s).result e) :
    (d.block base part).Fails s e (d.answer base part s).state := by
  refine Action.fails_bind.2 (.inr ⟨s, s, Action.returns_get.2 ⟨rfl, rfl⟩, ?_⟩)
  generalize hresult : (d.answer base part s).result = result at h
  cases h with
  | failed e => exact Action.fails_bind.2 (.inl ⟨hresult, rfl⟩)
  | length hlength =>
    refine Action.fails_bind.2 (.inr ⟨_, _, ⟨hresult, rfl⟩, ?_⟩)
    rw [if_neg hlength]
    exact Action.fails_bind.2
      (.inr ⟨(), _, Action.returns_log.2 rfl, Action.fails_fail.2 ⟨rfl, rfl⟩⟩)

end Deriver

/-! ## Keys -/

namespace SecureService

open Deriver (Refused blockLength highHalf lowHalf)

variable {σ : Type} {service : SecureService σ} {id : KeyId} {purpose : String} {usage : KeyUsage}
  {s t : σ} {high low : Bytes} {e : Failure}

/-- Without a high half, nothing else is tried. -/
lemma fails_deriveKey_high (h : Refused (service.answer purpose highHalf s).result e) :
    (service.usual.deriveKey id purpose usage).Fails s e
      (service.answer purpose highHalf s).state :=
  Action.fails_bind.2 (.inl (Action.fails_bind.2 (.inl (Deriver.fails_block h))))

/-- Without a low half, nothing is imported. -/
lemma fails_deriveKey_low (hhigh : (service.block purpose highHalf).Returns s high t)
    (h : Refused (service.answer purpose lowHalf t).result e) :
    (service.usual.deriveKey id purpose usage).Fails s e
      (service.answer purpose lowHalf t).state := by
  refine Action.fails_bind.2 (.inl (Action.fails_bind.2 (.inr ⟨high, t, hhigh, ?_⟩)))
  exact Action.fails_bind.2 (.inl (Deriver.fails_block h))

/-- With both halves, deriving the key is importing it. -/
lemma run_deriveKey (hhigh : (service.block purpose highHalf).Returns s high t) {u : σ}
    (hlow : (service.block purpose lowHalf).Returns t low u) :
    ((service.usual.deriveKey id purpose usage).run s).result =
        ((service.importKey id usage (high ++ low)).run u).result ∧
      ((service.usual.deriveKey id purpose usage).run s).state =
        ((service.importKey id usage (high ++ low)).run u).state := by
  have hscalar : (service.ecPrivateKey purpose).Returns s (high ++ low) u := by
    refine Action.returns_bind.2 ⟨high, t, hhigh, ?_⟩
    exact Action.returns_bind.2 ⟨low, u, hlow, Action.returns_pure.2 ⟨rfl, rfl⟩⟩
  have hrun : (service.usual.deriveKey id purpose usage).run s =
      (service.ecPrivateKey purpose >>= fun scalar => service.importKey id usage scalar).run s :=
    rfl
  rw [hrun, Action.run_bind_of_ok hscalar.1, hscalar.2]
  exact ⟨rfl, rfl⟩

/-- From `s`, deriving a key ends with a result in the state `t`, and the service is asked the given
questions in between. -/
structure Derives (service : SecureService σ) (id : KeyId) (purpose : String) (usage : KeyUsage)
    (s : σ) (result : Except Failure Unit) (t : σ) (inquiries : List Inquiry) : Prop where
  plain : ((service.usual.deriveKey id purpose usage).run s).result = result ∧
    ((service.usual.deriveKey id purpose usage).run s).state = t
  noting : ((service.noting.usual.deriveKey id purpose usage).run (s, [])).result = result ∧
    ((service.noting.usual.deriveKey id purpose usage).run (s, [])).state = (t, inquiries)

/-- The question for the block for a part of a purpose, and how it is answered. -/
def blockInquiry (service : SecureService σ) (purpose part : String) (s : σ) : Inquiry where
  question := .deriveOctets (Bytes.ofText (Deriver.label purpose part (service.labelSuffix s)))
    blockLength
  answer := (service.answer purpose part s).result

section Derives

variable {part : String} {octets : Bytes}

/-- The clerk passes on the answers as they are. -/
lemma returns_block_noting (h : (service.answer purpose part s).result = .ok octets)
    (hlength : octets.length = blockLength) (inquiries : List Inquiry) :
    (service.noting.block purpose part).Returns (s, inquiries) octets
      ((service.answer purpose part s).state,
        inquiries ++ [service.blockInquiry purpose part s]) :=
  Deriver.returns_block (d := service.noting.toDeriver) (s := (s, inquiries)) h hlength

lemma derives_of_refused_high (h : Refused (service.answer purpose highHalf s).result e) :
    service.Derives id purpose usage s (.error e) (service.answer purpose highHalf s).state
      [service.blockInquiry purpose highHalf s] := by
  have hnoting : (service.noting.usual.deriveKey id purpose usage).Fails (s, []) e
      ((service.answer purpose highHalf s).state, [service.blockInquiry purpose highHalf s]) :=
    fails_deriveKey_high h
  exact ⟨fails_deriveKey_high h, hnoting⟩

variable (hhigh : (service.answer purpose highHalf s).result = .ok high)
  (hlength : high.length = blockLength) (ht : (service.answer purpose highHalf s).state = t)
include hhigh hlength ht

lemma derives_of_refused_low (h : Refused (service.answer purpose lowHalf t).result e) :
    service.Derives id purpose usage s (.error e) (service.answer purpose lowHalf t).state
      [service.blockInquiry purpose highHalf s, service.blockInquiry purpose lowHalf t] := by
  subst ht
  exact ⟨fails_deriveKey_low (Deriver.returns_block hhigh hlength) h,
    fails_deriveKey_low (returns_block_noting hhigh hlength []) h⟩

lemma derives_of_halves (hlow : (service.answer purpose lowHalf t).result = .ok low)
    (hlength' : low.length = blockLength) {u : σ}
    (hu : (service.answer purpose lowHalf t).state = u) :
    let stored := (service.importKey id usage (high ++ low)).run u
    service.Derives id purpose usage s stored.result stored.state
      [service.blockInquiry purpose highHalf s, service.blockInquiry purpose lowHalf t,
        ⟨.importKey id usage (high ++ low), stored.result⟩] := by
  subst ht hu
  exact ⟨run_deriveKey (Deriver.returns_block hhigh hlength)
      (Deriver.returns_block hlow hlength'),
    run_deriveKey (returns_block_noting hhigh hlength [])
      (returns_block_noting hlow hlength' _)⟩

end Derives

/-! ## The main result -/

/-- **A key is imported whole or not at all.**  In the usual way of deriving a key, the high half is
asked for first.  Unless the answer has just the length asked for, the derivation ends there: with
the failure if it was one, and for want of room if the length is another one.  Only after a high
half, the low half is asked for, with the same two ends.  Only after both, the two together are
imported under the given identifier and for the given uses, and what comes out is what the import
answers.  So there is one import at most, and without one, the service is as its answers to the
derivations left it: its keys are as before if derivations leave them alone. -/
theorem key_imported_whole {σ κ : Type} (service : SecureService σ) (keys : σ → κ) (id : KeyId)
    (purpose : String) (usage : KeyUsage) (s : σ) :
    let highLabel := Bytes.ofText (purpose ++ "_EC_PRIV_KEY_HI" ++ service.labelSuffix s)
    let first := (service.deriveOctets highLabel 16).run s
    let lowLabel := Bytes.ofText (purpose ++ "_EC_PRIV_KEY_LO" ++ service.labelSuffix first.state)
    let second := (service.deriveOctets lowLabel 16).run first.state
    let Derives := service.Derives id purpose usage s
    (∀ e, Refused first.result e →
      Derives (.error e) first.state [⟨.deriveOctets highLabel 16, first.result⟩]) ∧
    (∀ high e, first.result = .ok high → high.length = 16 → Refused second.result e →
      Derives (.error e) second.state
        [⟨.deriveOctets highLabel 16, first.result⟩,
          ⟨.deriveOctets lowLabel 16, second.result⟩]) ∧
    (∀ high low, first.result = .ok high → high.length = 16 → second.result = .ok low →
      low.length = 16 →
      let stored := (service.importKey id usage (high ++ low)).run second.state
      (high ++ low).length = 32 ∧
        Derives stored.result stored.state
          [⟨.deriveOctets highLabel 16, first.result⟩,
            ⟨.deriveOctets lowLabel 16, second.result⟩,
            ⟨.importKey id usage (high ++ low), stored.result⟩]) ∧
    ∃ result t inquiries, Derives result t inquiries ∧
      let imports := inquiries.filter fun inquiry => inquiry.question.asksImport
      ((∃ high low, first.result = .ok high ∧ high.length = 16 ∧ second.result = .ok low ∧
          low.length = 16 ∧ imports = [⟨.importKey id usage (high ++ low), result⟩]) ∨
        imports = [] ∧ (∃ e, result = .error e) ∧
          ((∀ label length u, keys ((service.deriveOctets label length).run u).state = keys u) →
            keys t = keys s)) := by
  intro highLabel first lowLabel second Derives
  refine ⟨fun e h => derives_of_refused_high h,
    fun high e hfirst hlength h => derives_of_refused_low hfirst hlength rfl h,
    fun high low hfirst hlength hsecond hlength' => ⟨?_, ?_⟩, ?_⟩
  · rw [List.length_append, hlength, hlength']
  · exact derives_of_halves hfirst hlength rfl hsecond hlength' rfl
  rcases Deriver.accepted_or_refused first.result with ⟨high, hfirst, hlength⟩ | ⟨e, h⟩
  · rcases Deriver.accepted_or_refused second.result with ⟨low, hsecond, hlength'⟩ | ⟨e, h⟩
    · refine ⟨_, _, _, derives_of_halves hfirst hlength rfl hsecond hlength' rfl, .inl ?_⟩
      exact ⟨high, low, hfirst, hlength, hsecond, hlength', rfl⟩
    · refine ⟨_, _, _, derives_of_refused_low hfirst hlength rfl h, .inr ⟨rfl, ⟨e, rfl⟩, ?_⟩⟩
      exact fun hkeys => (hkeys _ _ _).trans (hkeys _ _ _)
  · refine ⟨_, _, _, derives_of_refused_high h, .inr ⟨rfl, ⟨e, rfl⟩, ?_⟩⟩
    exact fun hkeys => hkeys _ _ _

/-- A service that answers derivations as it is told to, in order, and stores every key that it is
given. -/
def told : SecureService (List (Except Failure Bytes) × List (KeyId × Bytes)) where
  labelSuffix _ := "-lab"
  setLabelSuffix _ s := s
  deriveOctets _ _ := fun (answers, stored) =>
    ⟨answers.head?.getD (.error .derivationUnavailable), (answers.tail, stored), []⟩
  importKey id _ scalar := Action.modify fun (answers, stored) => (answers, (id, scalar) :: stored)
  exportKey _ := Action.fail .exportFailed
  sign _ _ := Action.fail .signingFailed
  encodeValue _ _ _ := Action.fail .signingFailed
  deviceUuid := Action.fail .derivationUnavailable

/-- A half that is cut short ends the derivation, whichever it is, and the key stored before is all
that is stored afterwards; two halves are stored as one key. -/
theorem key_imported_whole_told :
    let high : Bytes := List.replicate 16 1
    let low : Bytes := List.replicate 16 2
    let before := [(KeyId.clientTls, low ++ high)]
    let derive := told.usual.deriveKey KeyId.coseSign "Device COSE SIGN" KeyUsage.encrypt
    derive.Fails ([.ok (high.take 12), .ok low], before) .bufferTooSmall ([.ok low], before) ∧
    derive.Fails ([.ok high, .ok (low ++ low)], before) .bufferTooSmall ([], before) ∧
    derive.Fails ([.ok high], before) .derivationUnavailable ([], before) ∧
    derive.Returns ([.ok high, .ok low], before) ()
      ([], (KeyId.coseSign, high ++ low) :: before) ∧
    ∃ result t inquiries, told.Derives KeyId.coseSign "Device COSE SIGN" KeyUsage.encrypt
      ([.ok high, .ok (low ++ low)], before) result t inquiries ∧ t.2 = before := by
  intro high low before derive
  obtain ⟨hnoHigh, -, -, -⟩ := key_imported_whole told Prod.snd KeyId.coseSign "Device COSE SIGN"
    KeyUsage.encrypt ([.ok (high.take 12), .ok low], before)
  obtain ⟨-, hnoLow, -, result, t, inquiries, hderives, h⟩ := key_imported_whole told Prod.snd
    KeyId.coseSign "Device COSE SIGN" KeyUsage.encrypt ([.ok high, .ok (low ++ low)], before)
  obtain ⟨-, hnone, -, -⟩ := key_imported_whole told Prod.snd KeyId.coseSign "Device COSE SIGN"
    KeyUsage.encrypt ([.ok high], before)
  obtain ⟨-, -, hwhole, -⟩ := key_imported_whole told Prod.snd KeyId.coseSign "Device COSE SIGN"
    KeyUsage.encrypt ([.ok high, .ok low], before)
  refine ⟨(hnoHigh _ (.length (by decide))).plain,
    (hnoLow high _ rfl (by decide) (.length (by decide))).plain,
    (hnone high _ rfl (by decide) (.failed _)).plain,
    (hwhole high low rfl (by decide) rfl (by decide)).2.plain, result, t, inquiries, hderives, ?_⟩
  rcases h with ⟨_, other, -, -, hother, hlength, -⟩ | ⟨-, -, hkeys⟩
  · obtain rfl := Except.ok.inj hother
    exact absurd hlength (by decide)
  · exact hkeys fun _ _ _ => rfl

end SecureService

end DeviceIdentity
