import Mathlib.Data.Fintype.Vector
import Mathlib.Tactic.NormNum
import DeviceIdentity.Proofs.CaExchange
import DeviceIdentity.Proofs.CertRequest.Reports
import DeviceIdentity.Proofs.Device.History
import DeviceIdentity.Proofs.Key.Reports
import DeviceIdentity.Proofs.SignedValue.Reports

/-!
# The log reveals no key

Log records are written beside private keys, derived octets and signatures, and some of them format
the cause of a failure.  What is emitted is nevertheless told by what can be seen anyway: what was
asked for, whether it was done or with which label it failed, and the statuses of the slots.

So two devices of different hardware keys that look the same at every step emit the same records.
The two runs are not compared instruction by instruction, because they need not take the same path:
a derived scalar may be refused under one key, and a signature may not come about under the other.
Each run is described by itself instead, with the records told by what can be seen, and the
descriptions of two runs that look the same are the same.

* `Task`, `outcomes` — what a device is asked to do, and what becomes of it.
* `Observation` — what can be seen of a task besides its records.
* `log_init`, `log_request`, `log_encode`, `log_infer` — the records of a task, told by what can be
  seen.
* `inStep_run` — the state after a task, as far as records depend on it.
* `Twins` — two devices that look the same; `Twins.log_run`, `Twins.run` — a task that looks the
  same says the same, and leaves them so.
* `exists_look_same` — there are different hardware keys that look the same.
* **`log_reveals_no_key`** — the records of any run.
-/

namespace DeviceIdentity

open DeviceIdentity.Action (label? reported)

namespace Device

/-! ## Tasks -/

/-- What a device is asked to do. -/
inductive Task where
  | init
  | setOnline (online : Bool)
  | request (id : KeyId) (uuid : String) (format : RequestFormat)
  | encode (id : KeyId) (value : Single) (format : EncodeFormat) (buffer : Bytes)
  | infer (model : SineModel) (x : Single) (format : EncodeFormat) (buffer : Bytes)
  | verify (id : KeyId) (message : Bytes)
  | publicKey (id : KeyId)
  | applyResponse (octets : Bytes)
  | recordCertificate (id : KeyId)

/-- Carries out a task on a device with given settings. -/
def Task.run (settings : Settings) : Task → Action (DeviceState Partition) Unit
  | init => silent (emulated settings).init
  | setOnline online => DeviceState.onService (Action.modify (Partition.setOnline online))
  | request id uuid format => do
    let table := (← Action.get).table
    silent ((CertRequest.generate Partition.service table settings.organization
      settings.csrBufferSize.toNat id uuid format).within (fun d => { service := d.service })
        fun b d => { d with service := b.service })
  | encode id value format buffer =>
    silent ((SignedValue.encodeInto Partition.service id value format).within
      (fun d => (d.service, buffer)) fun p d => { d with service := p.1 })
  | infer model x format buffer =>
    silent ((model.inferInto Partition.service x format).within
      (fun d => (d.service, buffer)) fun p d => { d with service := p.1 })
  | verify id message => silent ((emulated settings).verify id message)
  | publicKey id => silent ((emulated settings).publicKey id)
  | applyResponse octets => Device.applyResponse octets
  | recordCertificate id => DeviceState.onTable (KeyTable.recordCertificate id)

/-- What becomes of a device that is asked to carry out tasks, one after the other. -/
def outcomes (settings : Settings) :
    DeviceState Partition → List Task → List (Outcome (DeviceState Partition) Unit)
  | _, [] => []
  | d, task :: rest =>
    let outcome := (task.run settings).run d
    outcome :: outcomes settings outcome.state rest

/-- What can be seen of a task besides its records. -/
structure Observation where
  /-- The label of the failure, if there is one. -/
  failure? : Option String
  /-- The statuses of the slots after the task. -/
  statuses : List KeyStatus
  deriving DecidableEq

/-- What can be seen of a task that has been carried out. -/
def observe (outcome : Outcome (DeviceState Partition) Unit) : Observation :=
  ⟨label? outcome.result, KeySlot.all.map outcome.state.table.status⟩

/-- The statuses that can be seen make up the table. -/
lemma table_eq_of_observe {outcome outcome' : Outcome (DeviceState Partition) Unit}
    (h : observe outcome = observe outcome') : outcome.state.table = outcome'.state.table := by
  have hstatuses := congrArg Observation.statuses h
  exact KeyTable.ext_status fun slot => List.map_inj_left.1 hstatuses slot (KeySlot.mem_all slot)

/-! ## Devices that look the same -/

/-- Two devices with the same tables, records and reach, each in step with its partition. -/
structure Twins (d d' : DeviceState Partition) : Prop where
  online : d.service.online = d'.service.online
  table : d.table = d'.table
  handOver : d.handOver = d'.handOver
  inStep : KeyTable.InStep (d.service, d.table)
  inStep' : KeyTable.InStep (d'.service, d'.table)

lemma Twins.refusal {d d' : DeviceState Partition} (h : Twins d d') (id : KeyId) :
    d.service.refusal id = d'.service.refusal id := by
  have hkeys := h.inStep id
  have hkeys' := h.inStep' id
  dsimp only at hkeys hkeys'
  exact Partition.refusal_congr (by rw [hkeys, hkeys', h.table])

lemma run_silent {σ α : Type} (step : Action σ α) (s : σ) :
    (silent step).run s =
      ⟨(step.run s).result.map fun _ => (), (step.run s).state, (step.run s).log⟩ := by
  unfold silent
  rcases step.returns_or_fails s with ⟨a, hreturns⟩ | ⟨e, hfails⟩
  · rw [Action.run_bind_of_ok hreturns.1, hreturns.1, Action.run_pure, List.append_nil]
    rfl
  · rw [Action.run_bind_of_error hfails.1, hfails.1]
    rfl

section Step

variable {settings : Settings} {d d' : DeviceState Partition}

/-! ### Records -/

/-- The last record of an initialisation. -/
def readyRecord (table : KeyTable) : LogRecord :=
  ⟨.info, logTarget,
    toString table.ready ++ " of " ++ toString KeySlot.all.length ++ " device keys ready"⟩

lemma log_init (h : KeyTable.InStep (d.service, d.table)) :
    let outcome := (Task.init.run settings).run d
    outcome.log = KeySlot.all.map
        (KeyTable.slotRecord d.service.online d.table outcome.state.table) ++
      [readyRecord outcome.state.table] := by
  intro outcome
  have hprovision := KeyTable.returns_provision Partition.service (d.service, d.table)
  have hlog := KeyTable.log_provision h
  have hinit := returns_init (emulated settings) d
  have hkeys : (DeviceState.onKeys (KeyTable.provision Partition.service)).Returns d _ _ :=
    Action.returns_within.2 ⟨_, hprovision, rfl⟩
  simp only [outcome, Task.run, run_silent]
  rw [hinit.2, init, emulated, Action.log_bind_of_returns hkeys]
  exact congrArg (· ++ _) hlog

lemma log_request {id : KeyId} {uuid : String} {format : RequestFormat} :
    let outcome := ((Task.request id uuid format).run settings).run d
    outcome.log = CertRequest.preface settings.organization uuid id ++
      reported (fun cause => CertRequest.objection (d.service.refusal id) cause ++
        [CertRequest.abandonment cause]) outcome.result := by
  intro outcome
  have hrun : outcome = (silent ((CertRequest.generate Partition.service d.table
      settings.organization settings.csrBufferSize.toNat id uuid format).within
        (fun d => { service := d.service }) fun b d => { d with service := b.service })).run d :=
    rfl
  rw [hrun, run_silent, Action.reported_map]
  exact CertRequest.log_generate d.table settings.organization uuid id _ format
    { service := d.service }

lemma log_encode {id : KeyId} {value : Single} {format : EncodeFormat} {buffer : Bytes} :
    let outcome := ((Task.encode id value format buffer).run settings).run d
    outcome.log =
      reported (SignedValue.objection (d.service.refusal id) format buffer.length)
        outcome.result := by
  intro outcome
  simp only [outcome, Task.run, run_silent, Action.reported_map]
  exact SignedValue.reports_encodeInto (p := (d.service, buffer))

lemma log_infer {model : SineModel} {x : Single} {format : EncodeFormat} {buffer : Bytes} :
    let outcome := ((Task.infer model x format buffer).run settings).run d
    outcome.log = model.preface x ++
      reported (SignedValue.objection (d.service.refusal KeyId.coseSign) format buffer.length)
        outcome.result := by
  intro outcome
  simp only [outcome, Task.run, run_silent, Action.reported_map]
  exact SineModel.log_inferInto (p := (d.service, buffer))

lemma quiet_publicKey (id : KeyId) : ((emulated settings).publicKey id).Quiet d := by
  refine Action.reports_bind Action.reports_get fun hget => ?_
  obtain ⟨rfl, rfl⟩ := Action.returns_get.1 hget
  exact Action.reports_within (KeyTable.quiet_publicKey d.table id)

lemma quiet_verify (id : KeyId) (message : Bytes) :
    ((emulated settings).verify id message).Quiet d :=
  Action.reports_bind (quiet_publicKey id) fun _ => Action.reports_ofExcept fun _ => rfl

/-! ### States -/

/-- The tasks that change nothing. -/
inductive Task.ReadsOnly : Task → Prop
  | request (id : KeyId) (uuid : String) (format : RequestFormat) :
      ReadsOnly (.request id uuid format)
  | encode (id : KeyId) (value : Single) (format : EncodeFormat) (buffer : Bytes) :
      ReadsOnly (.encode id value format buffer)
  | infer (model : SineModel) (x : Single) (format : EncodeFormat) (buffer : Bytes) :
      ReadsOnly (.infer model x format buffer)
  | verify (id : KeyId) (message : Bytes) : ReadsOnly (.verify id message)
  | publicKey (id : KeyId) : ReadsOnly (.publicKey id)

lemma Task.ReadsOnly.state_run {task : Task} (h : task.ReadsOnly) :
    ((task.run settings).run d).state = d := by
  have hpublicKey : ∀ id, ((emulated settings).publicKey id).Keeps Eq := fun id =>
    Action.keeps_bind Action.keeps_get fun d => Action.keeps_within
      (KeyTable.keeps_publicKey Partition.keeps_exportKey d.table id) fun d s hs => by rw [← hs]
  have hkeeps : (task.run settings).Keeps Eq := by
    cases h with
    | request id uuid format =>
      refine Action.keeps_bind Action.keeps_get fun d => keeps_silent ?_
      exact Action.keeps_within (CertRequest.keeps_generate Partition.keeps_exportKey
        Partition.keeps_sign _ _ _ _ _ _) fun d b hb => by rw [← hb]
    | encode id value format buffer =>
      refine keeps_silent (Action.keeps_within (SignedValue.keeps_encodeInto
        Partition.keeps_encodeValue _ _ _) fun d p hp => by rw [← hp])
    | infer model x format buffer =>
      refine keeps_silent (Action.keeps_within (SineModel.keeps_inferInto
        Partition.keeps_encodeValue _ _ _) fun d p hp => by rw [← hp])
    | verify id message =>
      exact keeps_silent (Action.keeps_bind (hpublicKey id) fun _ => Action.keeps_ofExcept _)
    | publicKey id => exact keeps_silent (hpublicKey id)
  exact (hkeeps d).symm

/-! ### The step -/

/-- The device is in step with its partition. -/
abbrev InStep (d : DeviceState Partition) : Prop := KeyTable.InStep (d.service, d.table)

/-- Whether the partition can be reached after a task. -/
def Task.reach : Task → Bool → Bool
  | setOnline online, _ => online
  | _, online => online

/-- The record that a task brings. -/
def Task.record? : Task → Option ProvisionRecord
  | applyResponse octets => (Exchange.response octets).record?
  | _ => none

/-- A task leaves the partition in step with the table, and its effect on the reach of the partition
and on the record is told by the task. -/
lemma inStep_run (settings : Settings) (h : InStep d) (task : Task) :
    let reached := ((task.run settings).run d).state
    InStep reached ∧ reached.service.online = task.reach d.service.online ∧
      reached.handOver = task.record?.or d.handOver := by
  intro reached
  have hread : task.ReadsOnly → reached = d := fun hread => hread.state_run
  have htable : ∀ {table : KeyTable}, (∀ slot, table.hasKey slot = d.table.hasKey slot) →
      KeyTable.InStep (d.service, table) := fun hsame id => by
    rw [KeyTable.usage?_congr hsame]
    exact h id
  cases task with
  | init =>
    simp only [reached, Task.run, run_silent]
    rw [(returns_init (emulated settings) d).2]
    exact ⟨h.after_turns _, h.online_turns _, rfl⟩
  | setOnline online => exact ⟨h, rfl, rfl⟩
  | applyResponse octets =>
    have hhandOver := handOver_run (emulated settings) (.response octets) d
    cases hparse : CaResponse.parse octets with
    | error e =>
      have hstate : reached = d := (fails_applyResponse hparse).2
      refine ⟨?_, ?_, hhandOver⟩
      · rw [hstate]
        exact h
      · rw [hstate]
        rfl
    | ok response =>
      have hstate : reached = { d with handOver := _, table := _ } :=
        (returns_applyResponse hparse).2
      refine ⟨?_, ?_, hhandOver⟩
      · rw [hstate]
        exact htable (CaExchange.hasKey_certified d.table)
      · rw [hstate]
        rfl
  | recordCertificate id => exact ⟨htable (KeyTable.hasKey_recordCertificate d.table id), rfl, rfl⟩
  | request id uuid format =>
    rw [hread (.request id uuid format)]
    exact ⟨h, rfl, rfl⟩
  | encode id value format buffer =>
    rw [hread (.encode id value format buffer)]
    exact ⟨h, rfl, rfl⟩
  | infer model x format buffer =>
    rw [hread (.infer model x format buffer)]
    exact ⟨h, rfl, rfl⟩
  | verify id message =>
    rw [hread (.verify id message)]
    exact ⟨h, rfl, rfl⟩
  | publicKey id =>
    rw [hread (.publicKey id)]
    exact ⟨h, rfl, rfl⟩

/-- Tasks that look the same say the same. -/
lemma Twins.log_run (h : Twins d d') (task : Task)
    (hseen : observe ((task.run settings).run d) = observe ((task.run settings).run d')) :
    ((task.run settings).run d).log = ((task.run settings).run d').log := by
  have hlabel : label? ((task.run settings).run d).result =
      label? ((task.run settings).run d').result := congrArg Observation.failure? hseen
  have htable := table_eq_of_observe hseen
  cases task with
  | init => rw [log_init h.inStep, log_init h.inStep', h.online, h.table, htable]
  | setOnline online => rfl
  | applyResponse octets =>
    change ((CaExchange.apply octets).run (d.handOver, d.table)).log =
      ((CaExchange.apply octets).run (d'.handOver, d'.table)).log
    rw [h.handOver, h.table]
  | recordCertificate id =>
    change ((KeyTable.recordCertificate id).run d.table).log =
      ((KeyTable.recordCertificate id).run d'.table).log
    rw [h.table]
  | request id uuid format =>
    rw [log_request, log_request, h.refusal]
    refine congrArg _ (Action.reported_eq_of_label hlabel fun he => ?_)
    rw [CertRequest.objection_congr he, CertRequest.abandonment_congr he]
  | encode id value format buffer =>
    rw [log_encode, log_encode, h.refusal]
    exact Action.reported_eq_of_label hlabel SignedValue.objection_congr
  | infer model x format buffer =>
    rw [log_infer, log_infer, h.refusal]
    exact congrArg _ (Action.reported_eq_of_label hlabel SignedValue.objection_congr)
  | verify id message =>
    rw [Task.run, run_silent, run_silent]
    exact (quiet_verify id message).log.trans (quiet_verify id message).log.symm
  | publicKey id =>
    rw [Task.run, run_silent, run_silent]
    exact (quiet_publicKey id).log.trans (quiet_publicKey id).log.symm

/-- Tasks that look the same leave devices that look the same. -/
lemma Twins.run (h : Twins d d') (task : Task)
    (hseen : observe ((task.run settings).run d) = observe ((task.run settings).run d')) :
    Twins ((task.run settings).run d).state ((task.run settings).run d').state := by
  obtain ⟨hinStep, honline, hhandOver⟩ := inStep_run settings h.inStep task
  obtain ⟨hinStep', honline', hhandOver'⟩ := inStep_run settings h.inStep' task
  refine ⟨?_, table_eq_of_observe hseen, ?_, hinStep, hinStep'⟩
  · rw [honline, honline', h.online]
  · rw [hhandOver, hhandOver', h.handOver]

end Step

/-! ## Runs -/

/-- Devices that look the same say the same for as long as they look the same. -/
lemma Twins.log_outcomes {settings : Settings} : ∀ (tasks : List Task)
    {d d' : DeviceState Partition}, Twins d d' →
    (outcomes settings d tasks).map observe = (outcomes settings d' tasks).map observe →
      (outcomes settings d tasks).flatMap Outcome.log =
        (outcomes settings d' tasks).flatMap Outcome.log
  | [], _, _, _, _ => rfl
  | task :: rest, d, d', h, hseen => by
    obtain ⟨hfirst, hrest⟩ := List.cons.inj hseen
    rw [outcomes, outcomes, List.flatMap_cons, List.flatMap_cons, h.log_run task hfirst,
      log_outcomes rest (h.run task hfirst) hrest]

/-- A device of a hardware key, before anything is done with it. -/
def fresh (settings : Settings) (hardwareKey : Bytes) (labelSuffix : String) :
    DeviceState Partition :=
  (emulated settings).start { hardwareKey, labelSuffix }

lemma twins_fresh (settings : Settings) (hardwareKey hardwareKey' : Bytes) (labelSuffix : String) :
    Twins (fresh settings hardwareKey labelSuffix) (fresh settings hardwareKey' labelSuffix) := by
  simp only [fresh, start]
  split_ifs
  · exact ⟨rfl, rfl, rfl, KeyTable.inStep_empty rfl, KeyTable.inStep_empty rfl⟩
  · exact ⟨rfl, rfl, rfl, KeyTable.inStep_empty rfl, KeyTable.inStep_empty rfl⟩

/-! ## Keys that look the same -/

/-- All that can be seen of a task: it is done or fails with one of the labels, and leaves three
slots with their statuses. -/
def sights : List Observation :=
  let labels := [.derivationUnavailable, .bufferTooSmall, .importFailed, .unknownKeyId,
    .exportFailed, .subjectNameInvalid, .signingFailed, .encodingFailed, .malformedCose,
    .signatureInvalid, .payloadDecodeFailed, .notProvisioned, .transportUnavailable,
    .invalidInput "", .serialization ""].map Failure.label
  (none :: labels.map some).flatMap fun failure? =>
    KeyStatus.all.flatMap fun tls => KeyStatus.all.flatMap fun sign =>
      KeyStatus.all.map fun encrypt => ⟨failure?, [tls, sign, encrypt]⟩

lemma length_sights : sights.length = 432 := by decide +kernel

lemma observe_mem_sights (outcome : Outcome (DeviceState Partition) Unit) :
    observe outcome ∈ sights := by
  have hstatus : ∀ status : KeyStatus, status ∈ KeyStatus.all := fun status => by
    cases status <;> decide
  refine List.mem_flatMap.2 ⟨label? outcome.result, ?_, ?_⟩
  · cases outcome.result with
    | ok => exact List.mem_cons_self
    | error e => cases e <;> simp [label?, Failure.label]
  · refine List.mem_flatMap.2 ⟨_, hstatus (outcome.state.table.status .clientTls), ?_⟩
    refine List.mem_flatMap.2 ⟨_, hstatus (outcome.state.table.status .coseSign), ?_⟩
    exact List.mem_map.2 ⟨_, hstatus (outcome.state.table.status .coseEncrypt), rfl⟩

lemma length_outcomes (settings : Settings) : ∀ (d : DeviceState Partition) (tasks : List Task),
    (outcomes settings d tasks).length = tasks.length
  | _, [] => rfl
  | _, _ :: rest => congrArg Nat.succ (length_outcomes settings _ rest)

/-- For any few tasks there are two hardware keys that look the same: there are more hardware keys
than things to be seen. -/
lemma exists_look_same (settings : Settings) (labelSuffix : String) (tasks : List Task)
    (hfew : tasks.length ≤ 29) :
    ∃ hardwareKey hardwareKey' : Bytes,
      (hardwareKey.length = 32 ∧ hardwareKey'.length = 32 ∧ hardwareKey ≠ hardwareKey') ∧
      (outcomes settings (fresh settings hardwareKey labelSuffix) tasks).map observe =
        (outcomes settings (fresh settings hardwareKey' labelSuffix) tasks).map observe := by
  let sight (outcome : Outcome (DeviceState Partition) Unit) : {seen // seen ∈ sights.toFinset} :=
    ⟨observe outcome, List.mem_toFinset.2 (observe_mem_sights outcome)⟩
  let view (n : Fin (256 ^ 32)) : List.Vector {seen // seen ∈ sights.toFinset} tasks.length :=
    ⟨(outcomes settings (fresh settings (Bytes.ofNat 32 n) labelSuffix) tasks).map sight, by
      rw [List.length_map, length_outcomes]⟩
  have hcard : Fintype.card (List.Vector {seen // seen ∈ sights.toFinset} tasks.length) <
      Fintype.card (Fin (256 ^ 32)) := by
    rw [card_vector, Fintype.card_coe, Fintype.card_fin]
    calc sights.toFinset.card ^ tasks.length
      _ ≤ sights.length ^ tasks.length := Nat.pow_le_pow_left (List.toFinset_card_le sights) _
      _ = 432 ^ tasks.length := by rw [length_sights]
      _ ≤ 432 ^ 29 := Nat.pow_le_pow_right (by decide) hfew
      _ < 256 ^ 32 := by norm_num
  obtain ⟨n, n', hne, hview⟩ := Fintype.exists_ne_map_eq_of_card_lt view hcard
  refine ⟨Bytes.ofNat 32 n, Bytes.ofNat 32 n', ⟨Bytes.length_ofNat _ _, Bytes.length_ofNat _ _,
    fun hkeys => hne (Fin.ext ?_)⟩, ?_⟩
  · have hnumbers := congrArg Bytes.toNat hkeys
    rwa [Bytes.toNat_ofNat, Bytes.toNat_ofNat, Nat.mod_eq_of_lt n.isLt, Nat.mod_eq_of_lt n'.isLt]
      at hnumbers
  · simpa [view, sight, Function.comp_def] using
      congrArg (List.map Subtype.val) (congrArg List.Vector.toList hview)

/-! ## The main result -/

/-- **The log reveals no key.**  Two devices of any hardware keys, with the same settings and the
same label suffix, carry out the same tasks.  If each task is done on both or fails on both with the
same label, and leaves their slots with the same statuses, then the devices emit the same records in
the same order. -/
theorem log_reveals_no_key (settings : Settings) (labelSuffix : String)
    (hardwareKey hardwareKey' : Bytes) (tasks : List Task)
    (hseen : (outcomes settings (fresh settings hardwareKey labelSuffix) tasks).map observe =
      (outcomes settings (fresh settings hardwareKey' labelSuffix) tasks).map observe) :
    (outcomes settings (fresh settings hardwareKey labelSuffix) tasks).flatMap Outcome.log =
      (outcomes settings (fresh settings hardwareKey' labelSuffix) tasks).flatMap Outcome.log :=
  (twins_fresh settings hardwareKey hardwareKey' labelSuffix).log_outcomes tasks hseen

/-- Tasks on a partition that is out of reach while its keys should be derived. -/
def unreached : List Task :=
  [.setOnline false, .init, .setOnline true, .request KeyId.clientTls "device-1" .pem,
    .verify KeyId.coseSign [], .publicKey KeyId.clientTls,
    .encode KeyId.coseSign ⟨0⟩ .claims (List.replicate 8 0),
    .encode KeyId.coseSign ⟨0⟩ .signed (List.replicate 128 0), .applyResponse [0xFF],
    .recordCertificate KeyId.clientTls]

/-- Tasks on a partition within reach, which is then closed. -/
def reached : List Task :=
  [.init, .request KeyId.clientTls "device-1" .pem, .publicKey KeyId.coseSign,
    .encode KeyId.coseSign ⟨0⟩ .signed (List.replicate 128 0), .verify KeyId.coseSign [],
    .recordCertificate KeyId.clientTls, .setOnline false, .publicKey KeyId.clientTls]

lemma observe_unreached :
    (outcomes {} (fresh {} (List.replicate 32 1) "") unreached).map observe =
      (outcomes {} (fresh {} (List.replicate 32 2) "") unreached).map observe := by
  decide +kernel

/-- Nothing tells two hardware keys apart that are set up out of reach.  Within reach there are two
more that look the same. -/
theorem log_reveals_no_key_unreached :
    (outcomes {} (fresh {} (List.replicate 32 1) "") unreached).flatMap Outcome.log =
      (outcomes {} (fresh {} (List.replicate 32 2) "") unreached).flatMap Outcome.log ∧
    ∃ hardwareKey hardwareKey' : Bytes,
      (hardwareKey.length = 32 ∧ hardwareKey'.length = 32 ∧ hardwareKey ≠ hardwareKey') ∧
      (outcomes {} (fresh {} hardwareKey "") reached).flatMap Outcome.log =
        (outcomes {} (fresh {} hardwareKey' "") reached).flatMap Outcome.log := by
  obtain ⟨hardwareKey, hardwareKey', hkeys, hseen⟩ :=
    exists_look_same {} "" reached (by decide)
  exact ⟨log_reveals_no_key {} "" _ _ unreached observe_unreached, hardwareKey, hardwareKey', hkeys,
    log_reveals_no_key {} "" _ _ reached hseen⟩

end Device

end DeviceIdentity
