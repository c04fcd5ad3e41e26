import DeviceIdentity.Proofs.Device.Provisioning

/-!
# A response is applied whole or not at all

A response of the certificate authority either fails to be read, and then nothing happens, or it is
read, and then two things happen: its record takes the place of the one before, and the slot for TLS
clients is certified if it has a key.  Certifying can fail; the response is applied all the same.

* `CaExchange.certified` — the table after a response; `certified_certified` — a second time changes
  nothing.
* `fails_apply`, `returns_apply` — how applying a response ends.
* `Device.Exchange`, `Device.exchanged` — responses and initialisations in any order.
* `Device.lastRecord?` — the record of the last response that could be read.
* **`apply_all_or_nothing`** — all of this together.
-/

namespace DeviceIdentity

open DeviceIdentity.Action (Fails Returns)

namespace CaExchange

variable {octets : Bytes} {p p' : HandOver × KeyTable}

/-! ## One response -/

/-- The table after a response: the slot for TLS clients is certified if it has a key. -/
def certified (table : KeyTable) : KeyTable :=
  if table.hasKey .clientTls then table.set .clientTls .certificateGenerated else table

lemma status_certified (table : KeyTable) (slot : KeySlot) :
    (certified table).status slot =
      if slot = .clientTls ∧ table.status slot ≠ .notProvisioned then .certificateGenerated
      else table.status slot := by
  by_cases hslot : slot = .clientTls
  · subst hslot
    by_cases hkey : table.hasKey .clientTls = true
    · have hstatus : table.status .clientTls ≠ .notProvisioned := of_decide_eq_true hkey
      rw [certified, if_pos hkey, KeyTable.status_set_self, if_pos ⟨rfl, hstatus⟩]
    · have hstatus : ¬table.status .clientTls ≠ .notProvisioned := fun h =>
        hkey (decide_eq_true h)
      rw [certified, if_neg hkey, if_neg fun h => hstatus h.2]
  · rw [if_neg fun h => hslot h.1]
    unfold certified
    split
    · exact KeyTable.status_set_of_ne table _ hslot
    · rfl

/-- A certified slot stays certified, and one without a key stays without. -/
lemma certified_certified (table : KeyTable) : certified (certified table) = certified table := by
  refine KeyTable.ext_status fun slot => ?_
  simp only [status_certified]
  split_ifs with hfirst hsecond
  · rfl
  · rfl
  · rfl

lemma state_recordCertificate (table : KeyTable) :
    ((KeyTable.recordCertificate KeyId.clientTls).run table).state = certified table := by
  have hslot : KeyTable.slot KeyId.clientTls = .ok .clientTls := KeyTable.slot_keyId .clientTls
  unfold certified
  split_ifs with hkey
  · exact (KeyTable.returns_recordCertificate hslot hkey).2
  · exact (KeyTable.fails_recordCertificate hslot hkey).2

lemma hasKey_certified (table : KeyTable) (slot : KeySlot) :
    (certified table).hasKey slot = table.hasKey slot := by
  rw [← state_recordCertificate]
  exact KeyTable.hasKey_recordCertificate table KeyId.clientTls slot

/-- A response that cannot be read changes nothing. -/
lemma fails_apply_of_parse {e : Failure} (h : CaResponse.parse octets = .error e) :
    (apply octets).Fails p e p :=
  Action.fails_bind.2 (.inl ⟨h, rfl⟩)

/-- A response that is read is applied, whether or not the slot has a key to certify. -/
lemma returns_apply_of_parse {response : CaResponse} (h : CaResponse.parse octets = .ok response) :
    (apply octets).Returns p () (some response.record, certified p.2) := by
  refine Action.returns_bind.2 ⟨response, p, Action.returns_ofExcept.2 ⟨h, rfl⟩, ?_⟩
  refine Action.returns_bind.2 ⟨(), p, Action.returns_log.2 rfl, ?_⟩
  refine Action.returns_bind.2 ⟨(), (some response.record, p.2), ?_, ?_⟩
  · refine Action.returns_within.2 ⟨some response.record, ?_, rfl⟩
    exact Action.returns_bind.2 ⟨(), p.1, Action.returns_log.2 rfl, Action.returns_modify.2 rfl⟩
  refine Action.returns_bind.2
    ⟨_, (some response.record, certified p.2), Action.returns_attempt.2 ⟨rfl, ?_⟩, ?_⟩
  · exact congrArg (Prod.mk _) (state_recordCertificate p.2)
  · split
    · exact Action.returns_pure.2 ⟨rfl, rfl⟩
    · exact Action.returns_log.2 rfl

lemma fails_apply {e : Failure} :
    (apply octets).Fails p e p' ↔ CaResponse.parse octets = .error e ∧ p' = p := by
  constructor
  · rintro ⟨hresult, rfl⟩
    cases hparse : CaResponse.parse octets with
    | error cause =>
      have hfails := fails_apply_of_parse (p := p) hparse
      rw [hfails.1] at hresult
      exact ⟨congrArg _ (Except.error.inj hresult), hfails.2⟩
    | ok response =>
      rw [(returns_apply_of_parse hparse).1] at hresult
      cases hresult
  · rintro ⟨hparse, rfl⟩
    exact fails_apply_of_parse hparse

lemma returns_apply {u : Unit} :
    (apply octets).Returns p u p' ↔
      ∃ response, CaResponse.parse octets = .ok response ∧
        p' = (some response.record, certified p.2) := by
  constructor
  · intro h
    cases hparse : CaResponse.parse octets with
    | error cause =>
      have hresult := h.1
      rw [(fails_apply_of_parse hparse).1] at hresult
      cases hresult
    | ok response => exact ⟨response, rfl, (h.unique (returns_apply_of_parse hparse)).2⟩
  · rintro ⟨response, hparse, rfl⟩
    exact returns_apply_of_parse hparse

end CaExchange

namespace Device

variable {σ : Type} {octets : Bytes} {d : DeviceState σ}

lemma fails_applyResponse {e : Failure} (h : CaResponse.parse octets = .error e) :
    (applyResponse octets).Fails d e d :=
  Action.fails_within.2 ⟨(d.handOver, d.table), CaExchange.fails_apply_of_parse h, rfl⟩

lemma returns_applyResponse {response : CaResponse} (h : CaResponse.parse octets = .ok response) :
    (applyResponse octets).Returns d ()
      { d with handOver := some response.record, table := CaExchange.certified d.table } :=
  Action.returns_within.2 ⟨_, CaExchange.returns_apply_of_parse h, rfl⟩

/-- A response ends the second time as it did the first time, and changes nothing more. -/
lemma run_applyResponse_again (octets : Bytes) (d : DeviceState σ) :
    let once := (applyResponse octets).run d
    let twice := (applyResponse octets).run once.state
    twice.result = once.result ∧ twice.state = once.state := by
  intro once twice
  cases hparse : CaResponse.parse octets with
  | error e =>
    obtain ⟨hresult, hstate⟩ := fails_applyResponse (d := d) hparse
    obtain ⟨hresult', hstate'⟩ := fails_applyResponse (d := once.state) hparse
    exact ⟨hresult'.trans hresult.symm, hstate'⟩
  | ok response =>
    obtain ⟨hresult, hstate⟩ := returns_applyResponse (d := d) hparse
    obtain ⟨hresult', hstate'⟩ := returns_applyResponse (d := once.state) hparse
    refine ⟨hresult'.trans hresult.symm, hstate'.trans ?_⟩
    simp only [once, hstate, CaExchange.certified_certified]

/-! ## Responses and initialisations in any order -/

/-- What a device takes part in until it is provisioned. -/
inductive Exchange where
  | init
  | response (octets : Bytes)

namespace Exchange

/-- Carries out an exchange. -/
def run (device : Device σ) : Exchange → Action (DeviceState σ) Unit
  | init => do
    let _ ← device.init
    return ()
  | response octets => applyResponse octets

/-- The record that an exchange brings. -/
def record? : Exchange → Option ProvisionRecord
  | init => none
  | response octets => (CaResponse.parse octets).toOption.map CaResponse.record

end Exchange

/-- The state after exchanges. -/
def exchanged (device : Device σ) (exchanges : List Exchange) (d : DeviceState σ) :
    DeviceState σ :=
  exchanges.foldl (fun d exchange => ((exchange.run device).run d).state) d

/-- The record of the last response that could be read. -/
def lastRecord? (exchanges : List Exchange) : Option ProvisionRecord :=
  (exchanges.filterMap Exchange.record?).getLast?

lemma lastRecord?_cons (exchange : Exchange) (rest : List Exchange) :
    lastRecord? (exchange :: rest) = (lastRecord? rest).or exchange.record? := by
  unfold lastRecord?
  cases hrecord : exchange.record? with
  | none => rw [List.filterMap_cons_none hrecord, Option.or_none]
  | some record =>
    rw [List.filterMap_cons_some hrecord, List.getLast?_cons]
    cases (rest.filterMap Exchange.record?).getLast? <;> rfl

/-- One exchange leaves the record that it brings, if it brings one. -/
lemma handOver_run (device : Device σ) (exchange : Exchange) (d : DeviceState σ) :
    ((exchange.run device).run d).state.handOver = exchange.record?.or d.handOver := by
  cases exchange with
  | init =>
    rw [Exchange.run, Action.state_bind_pure, (returns_init device d).2]
    rfl
  | response octets =>
    rw [Exchange.run, Exchange.record?]
    cases hparse : CaResponse.parse octets with
    | error e =>
      rw [(fails_applyResponse hparse).2]
      rfl
    | ok response =>
      rw [(returns_applyResponse hparse).2]
      rfl

/-- After any exchanges, the record is that of the last response that could be read. -/
lemma handOver_exchanged (device : Device σ) (exchanges : List Exchange) (d : DeviceState σ) :
    (device.exchanged exchanges d).handOver = (lastRecord? exchanges).or d.handOver := by
  induction exchanges generalizing d with
  | nil => rfl
  | cons exchange rest ih =>
    rw [lastRecord?_cons, Option.or_assoc, ← handOver_run device exchange d]
    exact ih _

end Device

/-- **A response is applied whole or not at all.**  Applying a response fails exactly when it cannot
be read, with the same cause, and then changes nothing.  It returns exactly when the response can be
read, and then the record is the one it carries, the slot for TLS clients is certified if it has a
key, and nothing else is changed.  So after any responses and initialisations the record is that of
the last response that could be read, and a response applied twice in a row does what it does when
it is applied once. -/
theorem CaExchange.apply_all_or_nothing :
    (∀ (octets : Bytes) (p p' : HandOver × KeyTable) (e : Failure),
      (apply octets).Fails p e p' ↔ CaResponse.parse octets = .error e ∧ p' = p) ∧
    (∀ (octets : Bytes) (p p' : HandOver × KeyTable),
      (apply octets).Returns p () p' ↔
        ∃ response, CaResponse.parse octets = .ok response ∧ p'.1 = some response.record ∧
          ∀ slot, p'.2.status slot =
            if slot = .clientTls ∧ p.2.status slot ≠ .notProvisioned then .certificateGenerated
            else p.2.status slot) ∧
    (∀ {σ : Type} (device : Device σ) (exchanges : List Device.Exchange) (d : DeviceState σ),
      (device.exchanged exchanges d).handOver = (Device.lastRecord? exchanges).or d.handOver) ∧
    (∀ {σ : Type} (device : Device σ) (before after : List Device.Exchange) (octets : Bytes)
      (d : DeviceState σ),
      device.exchanged (before ++ .response octets :: .response octets :: after) d =
        device.exchanged (before ++ .response octets :: after) d) ∧
    (∀ {σ : Type} (octets : Bytes) (d : DeviceState σ),
      ((Device.applyResponse octets).run ((Device.applyResponse octets).run d).state).result =
        ((Device.applyResponse octets).run d).result) := by
  refine ⟨fun octets p p' e => fails_apply, fun octets p p' => returns_apply.trans ?_,
    Device.handOver_exchanged, fun device before after octets d => ?_, fun octets d => ?_⟩
  · constructor
    · rintro ⟨response, hparse, rfl⟩
      exact ⟨response, hparse, rfl, status_certified p.2⟩
    · rintro ⟨response, hparse, hrecord, hstatus⟩
      refine ⟨response, hparse, Prod.ext hrecord (KeyTable.ext_status fun slot => ?_)⟩
      rw [hstatus, status_certified]
  · have htwice := (Device.run_applyResponse_again octets (device.exchanged before d)).2
    simp only [Device.exchanged, List.foldl_append, List.foldl_cons]
    exact congrArg (List.foldl _ · after) htwice
  · exact (Device.run_applyResponse_again octets d).1

end DeviceIdentity
