import DeviceIdentity.CaExchange
import DeviceIdentity.Proofs.Cbor.Front
import DeviceIdentity.Proofs.Cbor.RoundTrip

/-!
# Which octets are a response

A response is looked at entry by entry, and each entry first for its key and then for its value.  So
there are nine places at which a map can be refused, and the entries before that place have already
been taken.  The order plays no part in what is accepted.  Every check decides a condition on one
item, and objects to the input if the condition fails, and a sequence of such checks decides all the
conditions together.

* `IsResponse` — an item has the form of a response, with given values.
* `CaResponse.item` — the item that a response is written as.
* `Decides` — a result is what meets a condition, and else an objection to the input.
* `Decides.bind` — conditions that are checked one after the other.
* **`parse_decides`** — which octets are a response, which failure is reported of all others, and
  what is not looked at.
-/

namespace DeviceIdentity

namespace CaResponse

/-! ## The form of a response -/

/-- The item is a map of four entries with the keys 1 to 4 in order, whose values are an unsigned
integer, a byte string, a text and an unsigned integer of at most 65535, and these are the values of
the response. -/
def IsResponse (item : CborItem) (response : CaResponse) : Prop :=
  ∃ port : UInt64, port.toNat ≤ 65535 ∧ response.record.hubPort.toNat = port.toNat ∧
    item = .map [(.unsigned 1, .unsigned response.status),
      (.unsigned 2, .bytes response.record.certificate),
      (.unsigned 3, .text response.record.hubName), (.unsigned 4, .unsigned port)]

/-- The item that a response is written as. -/
def item (response : CaResponse) : CborItem :=
  .map [(.unsigned 1, .unsigned response.status),
    (.unsigned 2, .bytes response.record.certificate),
    (.unsigned 3, .text response.record.hubName),
    (.unsigned 4, .unsigned (UInt64.ofNat response.record.hubPort.toNat))]

lemma toNat_port (port : UInt16) : (UInt64.ofNat port.toNat).toNat = port.toNat := by
  have hlt : port.toNat < 2 ^ 16 := port.toNat_lt
  have hsize : port.toNat < UInt64.size := lt_trans hlt (by decide)
  exact UInt64.toNat_ofNat_of_lt' hsize

lemma isResponse_iff {item : CborItem} {response : CaResponse} :
    IsResponse item response ↔ item = response.item := by
  constructor
  · rintro ⟨port, -, hport, rfl⟩
    have heq : port = UInt64.ofNat response.record.hubPort.toNat := by
      rw [hport, UInt64.ofNat_toNat]
    rw [heq]
    rfl
  · rintro rfl
    have hlt := response.record.hubPort.toNat_lt
    have hport := toNat_port response.record.hubPort
    exact ⟨_, by omega, hport.symm, rfl⟩

/-! ## Checks -/

section Decides

variable {α β : Type}

/-- The result is what meets the condition, if anything does, and else an objection to the input. -/
structure Decides (meets : α → Prop) (result : Except Failure α) : Prop where
  eq_ok_iff (a : α) : result = .ok a ↔ meets a
  eq_error {e : Failure} : result = .error e → ∃ detail, e = .invalidInput detail

/-- What meets no condition is refused. -/
lemma Decides.refused {meets : α → Prop} {result : Except Failure α} (h : Decides meets result)
    (hno : ¬∃ a, meets a) : ∃ detail, result = .error (.invalidInput detail) := by
  cases hresult : result with
  | ok a => exact absurd ⟨a, (h.eq_ok_iff a).1 hresult⟩ hno
  | error e =>
    obtain ⟨detail, rfl⟩ := h.eq_error hresult
    exact ⟨detail, rfl⟩

lemma decides_ok {meets : α → Prop} {b : α} (h : ∀ a, meets a ↔ b = a) : Decides meets (.ok b) :=
  ⟨fun a => Iff.trans ⟨Except.ok.inj, congrArg _⟩ (h a).symm, nofun⟩

lemma decides_refusal {meets : α → Prop} {detail : String} (hno : ∀ a, ¬meets a) :
    Decides meets (.error (.invalidInput detail)) :=
  ⟨fun a => ⟨nofun, fun h => absurd h (hno a)⟩, fun h => ⟨detail, (Except.error.inj h).symm⟩⟩

/-- Checks one after the other decide their conditions together. -/
lemma Decides.bind {meets : α → Prop} {result : Except Failure α} {meetsNext : α → β → Prop}
    {next : α → Except Failure β} (h : Decides meets result)
    (hnext : ∀ a, Decides (meetsNext a) (next a)) :
    Decides (fun b => ∃ a, meets a ∧ meetsNext a b) (result >>= next) := by
  cases result with
  | ok a =>
    have hmeets : ∀ a', meets a' ↔ a = a' := fun a' =>
      (h.eq_ok_iff a').symm.trans ⟨Except.ok.inj, congrArg _⟩
    refine ⟨fun b => ((hnext a).eq_ok_iff b).trans ⟨fun hb => ⟨a, (hmeets a).2 rfl, hb⟩, ?_⟩,
      (hnext a).eq_error⟩
    rintro ⟨a', ha', hb⟩
    obtain rfl := (hmeets a').1 ha'
    exact hb
  | error e =>
    refine ⟨fun b => ⟨nofun, ?_⟩, fun heq => h.eq_error (congrArg _ (Except.error.inj heq))⟩
    rintro ⟨a, ha, -⟩
    cases (h.eq_ok_iff a).2 ha

lemma Decides.congr {meets meets' : α → Prop} {result : Except Failure α}
    (h : Decides meets result) (hiff : ∀ a, meets a ↔ meets' a) : Decides meets' result :=
  ⟨fun a => (h.eq_ok_iff a).trans (hiff a), h.eq_error⟩

end Decides

variable {item : CborItem}

lemma decides_requireUnsigned (field : String) (item : CborItem) :
    Decides (fun value => item = .unsigned value) (requireUnsigned field item) := by
  cases item with
  | unsigned value => exact decides_ok fun _ => Iff.of_eq (CborItem.unsigned.injEq ..)
  | _ => exact decides_refusal fun _ => nofun

lemma decides_requireKey {key : Nat} (hkey : key < 2 ^ 64) (item : CborItem) :
    Decides (fun _ => item = .unsigned (UInt64.ofNat key)) (requireKey key item) := by
  cases item with
  | unsigned value =>
    have hvalue : value.toNat = key ↔ CborItem.unsigned value = .unsigned (UInt64.ofNat key) := by
      rw [CborItem.unsigned.injEq, ← UInt64.toNat_inj, UInt64.toNat_ofNat_of_lt' hkey]
    simp only [requireKey, unsigned?, ← hvalue]
    split_ifs with heq
    · exact ⟨fun _ => ⟨fun _ => heq, fun _ => rfl⟩, nofun⟩
    · exact decides_refusal fun _ => heq
  | _ => exact decides_refusal fun _ => nofun

lemma decides_requireBytes (key : Nat) (item : CborItem) :
    Decides (fun content => item = .bytes content) (requireBytes key item) := by
  cases item with
  | bytes content => exact decides_ok fun _ => Iff.of_eq (CborItem.bytes.injEq ..)
  | _ => exact decides_refusal fun _ => nofun

lemma decides_requireText (key : Nat) (item : CborItem) :
    Decides (fun content => item = .text content) (requireText key item) := by
  cases item with
  | text content => exact decides_ok fun _ => Iff.of_eq (CborItem.text.injEq ..)
  | _ => exact decides_refusal fun _ => nofun

lemma decides_requirePort (item : CborItem) :
    Decides (fun port : UInt16 => ∃ value, item = .unsigned value ∧ port.toNat = value.toNat)
      (requirePort item) := by
  refine (decides_requireUnsigned "hub port" item).bind fun value => ?_
  split_ifs with hrange
  · refine decides_ok fun port => ?_
    rw [← UInt16.toNat_inj, UInt16.toNat_ofNat_of_lt' hrange, eq_comm]
  · refine decides_refusal fun port heq => hrange ?_
    rw [← heq]
    exact port.toNat_lt

/-! ## Responses -/

lemma decides_ofEntries (entries : List (CborItem × CborItem)) :
    Decides (IsResponse (.map entries)) (ofEntries entries) := by
  match entries with
  | [(k1, v1), (k2, v2), (k3, v3), (k4, v4)] =>
    have hchecks :=
      (decides_requireKey (by decide : 1 < 2 ^ 64) k1).bind fun _ =>
      (decides_requireUnsigned "status" v1).bind fun status =>
      (decides_requireKey (by decide : 2 < 2 ^ 64) k2).bind fun _ =>
      (decides_requireBytes 2 v2).bind fun certificate =>
      (decides_requireKey (by decide : 3 < 2 ^ 64) k3).bind fun _ =>
      (decides_requireText 3 v3).bind fun hubName =>
      (decides_requireKey (by decide : 4 < 2 ^ 64) k4).bind fun _ =>
      (decides_requirePort v4).bind fun hubPort =>
        decides_ok (b := (⟨status, ⟨certificate, hubName, hubPort⟩⟩ : CaResponse)) fun _ => Iff.rfl
    refine hchecks.congr fun response => ?_
    constructor
    · rintro ⟨_, rfl, status, rfl, _, rfl, certificate, rfl, _, rfl, hubName, rfl, _, rfl, hubPort,
        ⟨port, rfl, hport⟩, rfl⟩
      have hlt := hubPort.toNat_lt
      exact ⟨port, by omega, hport, rfl⟩
    · rintro ⟨port, -, hport, heq⟩
      simp only [CborItem.map.injEq, List.cons.injEq, Prod.mk.injEq, and_true] at heq
      obtain ⟨⟨rfl, rfl⟩, ⟨rfl, rfl⟩, ⟨rfl, rfl⟩, rfl, rfl⟩ := heq
      exact ⟨(), rfl, _, rfl, (), rfl, _, rfl, (), rfl, _, rfl, (), rfl, _, ⟨port, rfl, hport⟩, rfl⟩
  | [] | [_] | [_, _] | [_, _, _] | _ :: _ :: _ :: _ :: _ :: _ =>
    refine decides_refusal fun response h => ?_
    obtain ⟨port, -, -, heq⟩ := h
    simp at heq

/-- What reading a response comes to, once it is known what item stands at the front. -/
lemma parse_of_read? {octets rest : Bytes} {item : CborItem}
    (h : CborItem.read? octets = some (item, rest)) : Decides (IsResponse item) (parse octets) := by
  rw [parse, h]
  cases item with
  | map entries => exact decides_ofEntries entries
  | _ =>
    refine decides_refusal fun response hresponse => ?_
    obtain ⟨port, -, -, heq⟩ := hresponse
    cases heq

lemma eq_error_serialization_iff {octets : Bytes} :
    (∃ detail, parse octets = .error (.serialization detail)) ↔ CborItem.read? octets = none := by
  constructor
  · rintro ⟨detail, herror⟩
    refine Option.eq_none_iff_forall_ne_some.2 fun ⟨item, rest⟩ hread => ?_
    obtain ⟨_, heq⟩ := (parse_of_read? hread).eq_error herror
    cases heq
  · intro hnone
    exact ⟨"not a CBOR item", by rw [parse, hnone]⟩

/-- A response whose strings can be written is written within the depth that is read. -/
lemma fits_item {response : CaResponse} (hcertificate : response.record.certificate.length < 2 ^ 64)
    (hname : (Bytes.ofText response.record.hubName).length < 2 ^ 64) :
    CborItem.Fits CborItem.maxDepth response.item := by
  change CborItem.Fits (255 + 1) _
  simpa [item, CborItem.Fits] using ⟨hcertificate, hname⟩

/-- **Exactly the octets of the format are a response.**  Octets from which no item can be read are
no document.  Of others, the item at the front decides: if it has the form of a response, the
values of this response are given, and otherwise the input is refused.  What follows the item can be
replaced by anything.  In particular a response reads back from the item it is written as, whatever
follows, if only the lengths of its strings can be stated in 64 bits. -/
theorem parse_decides :
    (∀ octets, (∃ detail, parse octets = .error (.serialization detail)) ↔
      CborItem.read? octets = none) ∧
    (∀ octets item rest, CborItem.read? octets = some (item, rest) →
      (∀ response, parse octets = .ok response ↔ IsResponse item response) ∧
      ((¬∃ response, IsResponse item response) →
        ∃ detail, parse octets = .error (.invalidInput detail)) ∧
      ∃ front, octets = front ++ rest ∧ ∀ more, parse (front ++ more) = parse octets) ∧
    (∀ response : CaResponse, response.record.certificate.length < 2 ^ 64 →
      (Bytes.ofText response.record.hubName).length < 2 ^ 64 →
      ∀ more, parse (response.item.encode ++ more) = .ok response) := by
  refine ⟨fun octets => eq_error_serialization_iff, fun octets item rest hread => ?_, ?_⟩
  · have hdecides := parse_of_read? hread
    refine ⟨hdecides.eq_ok_iff, hdecides.refused, ?_⟩
    obtain ⟨front, hoctets, hfront⟩ := CborItem.exists_front hread
    refine ⟨front, hoctets, fun more => ?_⟩
    rw [parse, parse, hfront more, hread]
    cases item <;> rfl
  · intro response hcertificate hname more
    have hread := CborItem.read?_encode (fits_item hcertificate hname) more
    exact ((parse_of_read? hread).eq_ok_iff response).2 (isResponse_iff.2 rfl)

/-- The octets of a map that leaves its length open, with the key 1 as a large integer and the
certificate in two chunks. -/
def looseResponse (port : Bytes) : Bytes :=
  [0xBF, 0xC2, 0x41, 0x01, 0x00, 0x02, 0x5F, 0x41, 0xAA, 0x41, 0xBB, 0xFF, 0x03, 0x63, 0x68, 0x75,
    0x62, 0x04] ++ port ++ [0xFF]

/-- The item of that map. -/
def looseItem (port : UInt64) : CborItem :=
  .map [(.unsigned 1, .unsigned 0), (.unsigned 2, .bytes [0xAA, 0xBB]), (.unsigned 3, .text "hub"),
    (.unsigned 4, .unsigned port)]

/-- The loose map is a response with the greatest port, and none with a port that is greater by one;
octets behind it change nothing.  A response with the greatest status reads back, and a break is not
CBOR. -/
theorem parse_decides_loose :
    let loose : CaResponse := ⟨0, ⟨[0xAA, 0xBB], "hub", 65535⟩⟩
    let busy : CaResponse := ⟨0xFFFFFFFFFFFFFFFF, ⟨[], "", 0⟩⟩
    parse (looseResponse [0x19, 0xFF, 0xFF] ++ [0xFF]) = .ok loose ∧
      (∃ front, (∃ more, looseResponse [0x19, 0xFF, 0xFF] ++ [0xFF] = front ++ more) ∧
        parse (front ++ [0x00, 0x01]) = .ok loose) ∧
      (∃ detail, parse (looseResponse [0x1A, 0, 1, 0, 0]) = .error (.invalidInput detail)) ∧
      parse (busy.item.encode ++ [0xFF]) = .ok busy ∧
      ∃ detail, parse [0xFF] = .error (.serialization detail) := by
  intro loose busy
  obtain ⟨hserial, hdecides, hback⟩ := parse_decides
  have hread : CborItem.read? (looseResponse [0x19, 0xFF, 0xFF] ++ [0xFF]) =
      some (looseItem 65535, [0xFF]) := rfl
  have hbeyond : CborItem.read? (looseResponse [0x1A, 0, 1, 0, 0]) =
      some (looseItem 65536, []) := rfl
  have hnone : CborItem.read? [0xFF] = none := rfl
  obtain ⟨hiff, -, front, hfront, hsame⟩ := hdecides _ _ _ hread
  have hloose := (hiff loose).2 ⟨65535, by decide, by decide, rfl⟩
  refine ⟨hloose, ⟨front, ⟨_, hfront⟩, (hsame _).trans hloose⟩, ?_, ?_, (hserial _).2 hnone⟩
  · refine (hdecides _ _ _ hbeyond).2.1 ?_
    rintro ⟨response, port, hport, -, heq⟩
    simp only [looseItem, CborItem.map.injEq, List.cons.injEq, Prod.mk.injEq,
      CborItem.unsigned.injEq] at heq
    obtain ⟨-, -, -, ⟨-, rfl⟩, -⟩ := heq
    exact absurd hport (by decide)
  · exact hback busy (by decide) (by decide) [0xFF]

end CaResponse

end DeviceIdentity
