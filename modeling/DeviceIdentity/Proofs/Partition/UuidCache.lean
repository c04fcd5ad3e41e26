import DeviceIdentity.Proofs.Device.History
import DeviceIdentity.Proofs.Partition.Run

/-!
# The remembered UUID

A partition derives its UUID when it is first asked for it, and remembers it.  There are two ways to
give a partition another label suffix.  Setting the suffix forgets the UUID.  The one by which a
partition is set up does not, so a partition that has been asked already goes on answering with the
UUID of the suffix that it had then.

* `Partition.derivedUuid` — the UUID under the present suffix, as it is derived.
* `Partition.Use` — an operation, or the set-up with a suffix; `Partition.used` — the state after a
  run of them.
* `returns_deviceUuid_iff` — the answer is what is remembered, or else what is derived.
* `knownUuid_use`, `derivedUuid_use` — what one use does to either.
* `origin_of_knownUuid`, `knownUuid_follows_suffix` — where the UUID that a run ends with comes
  from, and when it is the one that would be derived.
* **`uuid_follows_suffix`** — the answer is the derived UUID, but for a set-up that came too late.
* **`uuid_of_former_suffix`** — there is such a set-up, and the answer is another one then.
-/

namespace DeviceIdentity

namespace Partition

variable {s s' : Partition} {uuid : String}

/-! ## The UUID as it is derived -/

/-- The UUID under the present suffix. -/
def derivedUuid (s : Partition) : String :=
  Uuid.format (Uuid.markVersion4 (s.derived Deriver.uuidBase ""))

lemma derivedUuid_congr (hkey : s'.hardwareKey = s.hardwareKey)
    (hsuffix : s'.labelSuffix = s.labelSuffix) : s'.derivedUuid = s.derivedUuid := by
  simp only [derivedUuid, derived, hkey, hsuffix]

lemma returns_uuid :
    deriver.uuid.Returns s uuid s' ↔ s.online = true ∧ uuid = s.derivedUuid ∧ s' = s := by
  simp only [Deriver.uuid, Deriver.uuidOctets, Action.returns_bind, returns_block,
    Action.returns_pure]
  constructor
  · rintro ⟨_, _, ⟨_, _, ⟨honline, rfl, rfl⟩, rfl, rfl⟩, rfl, rfl⟩
    exact ⟨honline, rfl, rfl⟩
  · rintro ⟨honline, rfl, rfl⟩
    exact ⟨_, s', ⟨_, s', ⟨honline, rfl, rfl⟩, rfl, rfl⟩, rfl, rfl⟩

/-- The partition answers with what it remembers, or else with what it derives and remembers
then. -/
lemma returns_deviceUuid_iff :
    deviceUuid.Returns s uuid s' ↔
      s.online = true ∧ uuid = s.knownUuid.getD s.derivedUuid ∧
        s' = { s with knownUuid := some uuid } := by
  simp only [deviceUuid, Action.returns_bind, returns_requireOnline, Action.returns_get]
  constructor
  · rintro ⟨_, _, ⟨honline, rfl⟩, _, _, ⟨rfl, rfl⟩, h⟩
    refine ⟨honline, ?_⟩
    split at h
    · next hknown =>
      obtain ⟨rfl, rfl⟩ := Action.returns_pure.1 h
      refine ⟨by rw [hknown, Option.getD_some], ?_⟩
      rw [← hknown]
    · next hunknown =>
      obtain ⟨_, _, hderive, h⟩ := Action.returns_bind.1 h
      obtain ⟨-, rfl, rfl⟩ := returns_uuid.1 hderive
      obtain ⟨_, _, hmodify, h⟩ := Action.returns_bind.1 h
      obtain rfl := Action.returns_modify.1 hmodify
      obtain ⟨rfl, rfl⟩ := Action.returns_pure.1 h
      exact ⟨by rw [hunknown, Option.getD_none], rfl⟩
  · rintro ⟨honline, rfl, rfl⟩
    refine ⟨(), s, ⟨honline, rfl⟩, s, s, ⟨rfl, rfl⟩, ?_⟩
    split
    · next hknown =>
      refine Action.returns_pure.2 ⟨by rw [hknown, Option.getD_some], ?_⟩
      rw [hknown, Option.getD_some, ← hknown]
    · next hunknown =>
      rw [hunknown, Option.getD_none]
      exact Action.returns_bind.2 ⟨_, s, returns_uuid.2 ⟨honline, rfl, rfl⟩,
        Action.returns_bind.2
          ⟨(), _, Action.returns_modify.2 rfl, Action.returns_pure.2 ⟨rfl, rfl⟩⟩⟩

/-! ## What is done with a partition -/

/-- What the owner of a partition can do with it: an operation, or setting it up with a suffix. -/
inductive Use where
  | operation (operation : Operation)
  | withLabelSuffix (suffix : String)

/-- Carries out a use. -/
def Use.run : Use → Action Partition Answer
  | operation o => o.run
  | withLabelSuffix suffix => do
    Action.modify (Partition.withLabelSuffix suffix)
    return .done

/-- Asking for the UUID. -/
abbrev Use.askUuid : Use := .operation (.call .deviceUuid)

/-- The state after a run. -/
def used (s : Partition) (uses : List Use) : Partition :=
  uses.foldl (fun s use => (use.run.run s).state) s

lemma used_append (s : Partition) (front later : List Use) :
    s.used (front ++ later) = (s.used front).used later :=
  List.foldl_append ..

/-! ## One use -/

/-- What is remembered after a call was remembered before, or the call has just derived it. -/
lemma knownUuid_of_returns {call : Call} {answer : Answer} (h : call.run.Returns s answer s')
    (hknown : s'.knownUuid = some uuid) :
    s.knownUuid = some uuid ∨ call = .deviceUuid ∧ uuid = s.derivedUuid := by
  have hrun : (Operation.call call).run.Returns s answer s' := h
  cases (change_of_returns hrun).2 with
  | nothing => exact .inl hknown
  | reach => exact .inl hknown
  | uuid hunknown =>
    right
    obtain ⟨_, hask, -⟩ := returns_wrapped.1 h
    obtain ⟨-, hderived, hstate⟩ := returns_deviceUuid_iff.1 hask
    rw [hunknown, Option.getD_none] at hderived
    rw [hstate] at hknown
    exact ⟨rfl, (Option.some.inj hknown).symm.trans hderived⟩
  | key => exact .inl hknown

variable {use : Use}

/-- What is remembered after a use was remembered before and the suffix was not set, or the use was
to ask for it. -/
lemma knownUuid_use (h : (use.run.run s).state.knownUuid = some uuid) :
    (s.knownUuid = some uuid ∧ ∀ suffix, use ≠ .operation (.setLabelSuffix suffix)) ∨
      use = .askUuid ∧ uuid = s.derivedUuid := by
  cases use with
  | withLabelSuffix suffix => exact .inl ⟨h, nofun⟩
  | operation o =>
    cases o with
    | setLabelSuffix suffix => exact nomatch (h : none = some uuid)
    | call c =>
      rcases c.run.returns_or_fails s with ⟨answer, hreturns⟩ | ⟨e, hfails⟩
      · rcases knownUuid_of_returns hreturns h with hknown | ⟨rfl, huuid⟩
        · exact .inl ⟨hknown, nofun⟩
        · exact .inr ⟨rfl, huuid⟩
      · have hrun : (Operation.call c).run.Fails s e (c.run.run s).state := hfails
        have hknown : (c.run.run s).state.knownUuid = some uuid := h
        rw [eq_of_fails hrun] at hknown
        exact .inl ⟨hknown, nofun⟩

/-- Asking within reach leaves the answer behind. -/
lemma state_askUuid (honline : s.online = true) :
    (Use.askUuid.run.run s).state =
      { s with knownUuid := some (s.knownUuid.getD s.derivedUuid) } :=
  (returns_wrapped.2 ⟨_, returns_deviceUuid_iff.2 ⟨honline, rfl, rfl⟩, rfl⟩).2

/-- Only another suffix changes what is derived. -/
lemma derivedUuid_use (hset : ∀ suffix, use ≠ .operation (.setLabelSuffix suffix))
    (hwith : ∀ suffix, use ≠ .withLabelSuffix suffix) :
    (use.run.run s).state.derivedUuid = s.derivedUuid := by
  cases use with
  | withLabelSuffix suffix => exact (hwith suffix rfl).elim
  | operation o =>
    cases o with
    | setLabelSuffix suffix => exact (hset suffix rfl).elim
    | call c =>
      have hextends : Extends s (c.run.run s).state := keeps_call c s
      exact derivedUuid_congr hextends.hardwareKey hextends.labelSuffix

/-! ## Runs -/

/-- What is derived stays the same in a run without another suffix. -/
lemma derivedUuid_used {uses : List Use}
    (hset : ∀ suffix, .operation (.setLabelSuffix suffix) ∉ uses)
    (hwith : ∀ suffix, .withLabelSuffix suffix ∉ uses) :
    (s.used uses).derivedUuid = s.derivedUuid := by
  induction uses generalizing s with
  | nil => rfl
  | cons use rest ih =>
    have hrest : ((use.run.run s).state.used rest).derivedUuid =
        (use.run.run s).state.derivedUuid :=
      ih (fun suffix hmem => hset suffix (.tail _ hmem))
        fun suffix hmem => hwith suffix (.tail _ hmem)
    refine hrest.trans (derivedUuid_use ?_ ?_)
    · rintro suffix rfl
      exact hset suffix (.head _)
    · rintro suffix rfl
      exact hwith suffix (.head _)

/-- A UUID that is remembered at the end of a run was derived when it was asked for at some point of
the run, and the suffix has not been set since. -/
lemma origin_of_knownUuid {uses : List Use} (hstart : s.knownUuid = none)
    (h : (s.used uses).knownUuid = some uuid) :
    ∃ front later, uses = front ++ .askUuid :: later ∧ uuid = (s.used front).derivedUuid ∧
      ∀ suffix, .operation (.setLabelSuffix suffix) ∉ later := by
  -- by induction on the end of the run, since the invariant speaks of what happened last
  induction uses using List.reverseRecOn with
  | nil => exact nomatch hstart.symm.trans h
  | append_singleton uses use ih =>
    rw [used_append] at h
    rcases knownUuid_use h with ⟨hknown, hset⟩ | ⟨rfl, huuid⟩
    · obtain ⟨front, later, rfl, huuid, hlater⟩ := ih hknown
      refine ⟨front, later ++ [use], by simp, huuid, fun suffix hmem => ?_⟩
      rcases List.mem_append.1 hmem with hmem | hmem
      · exact hlater suffix hmem
      · exact hset suffix (List.mem_singleton.1 hmem).symm
    · exact ⟨uses, [], rfl, huuid, fun suffix => List.not_mem_nil⟩

/-- What is remembered at the end of a run is what would be derived, unless the partition was set up
after it was asked, and its suffix has not been set since. -/
lemma knownUuid_follows_suffix {uses : List Use} (hstart : s.knownUuid = none)
    (h : (s.used uses).knownUuid = some uuid) :
    uuid = (s.used uses).derivedUuid ∨
      ∃ front later, uses = front ++ .askUuid :: later ∧ uuid = (s.used front).derivedUuid ∧
        (∀ suffix, .operation (.setLabelSuffix suffix) ∉ later) ∧
        ∃ suffix, .withLabelSuffix suffix ∈ later := by
  obtain ⟨front, later, rfl, horigin, hset⟩ := origin_of_knownUuid hstart h
  by_cases hwith : ∃ suffix, .withLabelSuffix suffix ∈ later
  · exact .inr ⟨front, later, rfl, horigin, hset, hwith⟩
  · -- since then nothing gave the partition another suffix
    left
    have hsame : ((s.used front).used (.askUuid :: later)).derivedUuid =
        (s.used front).derivedUuid := by
      refine derivedUuid_used (fun suffix hmem => ?_) fun suffix hmem => ?_
      · exact hset suffix ((List.mem_cons.1 hmem).resolve_left nofun)
      · exact hwith ⟨suffix, (List.mem_cons.1 hmem).resolve_left nofun⟩
    rw [used_append, hsame, horigin]

/-- **A new partition answers with the UUID that it derives under its present suffix**, whenever it
is within reach, unless it was asked for the UUID, then set up with another suffix, and its suffix
has not been set since; its answer is the UUID of the suffix that it had when it was asked.  From
each such answer on, setting the suffix leads to the derived UUID, and setting the partition up
does not lead away from this answer. -/
theorem uuid_follows_suffix (hardwareKey : Bytes) (uses : List Use) :
    let start : Partition := { hardwareKey }
    let s := start.used uses
    ((∃ uuid s', deviceUuid.Returns s uuid s') ↔ s.online = true) ∧
      ∀ uuid s', deviceUuid.Returns s uuid s' →
        (uuid = s.derivedUuid ∨
          ∃ front later, uses = front ++ .askUuid :: later ∧
            uuid = (start.used front).derivedUuid ∧
            (∀ suffix, .operation (.setLabelSuffix suffix) ∉ later) ∧
            ∃ suffix, .withLabelSuffix suffix ∈ later) ∧
        ∀ suffix,
          let renewed := s'.setLabelSuffix suffix
          let stale := s'.withLabelSuffix suffix
          deviceUuid.Returns renewed renewed.derivedUuid
              { renewed with knownUuid := some renewed.derivedUuid } ∧
            deviceUuid.Returns stale uuid stale := by
  intro start s
  refine ⟨?_, ?_⟩
  · constructor
    · rintro ⟨uuid, s', h⟩
      exact (returns_deviceUuid_iff.1 h).1
    · intro honline
      exact ⟨_, _, returns_deviceUuid_iff.2 ⟨honline, rfl, rfl⟩⟩
  · intro uuid s' h
    obtain ⟨honline, huuid, rfl⟩ := returns_deviceUuid_iff.1 h
    refine ⟨?_, fun suffix => ⟨returns_deviceUuid_iff.2 ⟨honline, rfl, rfl⟩,
      returns_deviceUuid_iff.2 ⟨honline, rfl, rfl⟩⟩⟩
    cases hknown : s.knownUuid with
    | none =>
      rw [hknown, Option.getD_none] at huuid
      exact .inl huuid
    | some known =>
      rw [hknown, Option.getD_some] at huuid
      subst huuid
      exact knownUuid_follows_suffix rfl hknown

/-! ## A suffix that comes too late -/

/-- A new partition with a hardware key of ones. -/
def onesPartition : Partition := { hardwareKey := Device.ones }

/-- It is set up, asked, and given another suffix. -/
def renamedRun : List Use :=
  [.withLabelSuffix "A", .askUuid, .operation (.setLabelSuffix "B")]

lemma used_renamedRun :
    onesPartition.used renamedRun = onesPartition.setLabelSuffix "B" := by
  have hasked := state_askUuid (s := onesPartition.withLabelSuffix "A") rfl
  change ((Use.askUuid.run.run (onesPartition.withLabelSuffix "A")).state).setLabelSuffix "B" = _
  rw [hasked]
  rfl

/-- Whoever asks in this run, the suffix is set afterwards. -/
lemma setLabelSuffix_mem_of_renamedRun {front later : List Use}
    (h : renamedRun = front ++ .askUuid :: later) :
    .operation (.setLabelSuffix "B") ∈ later := by
  rcases front with _ | ⟨first, _ | ⟨second, rest⟩⟩
  · cases h
  · cases h
    exact .head _
  · -- too much comes before
    have hrest : [.operation (.setLabelSuffix "B")] = rest ++ .askUuid :: later :=
      (List.cons.inj (List.cons.inj h).2).2
    rcases rest with _ | ⟨third, rest⟩ <;> simp at hrest

/-- After this run the partition answers with the UUID derived under the last suffix, and it would
not change its answer if it was set up once more. -/
theorem uuid_follows_suffix_renamedRun :
    let s := onesPartition.used renamedRun
    s.labelSuffix = "B" ∧
      ∃ s', deviceUuid.Returns s s.derivedUuid s' ∧
        deviceUuid.Returns (s'.withLabelSuffix "C") s.derivedUuid (s'.withLabelSuffix "C") := by
  intro s
  have hs : s = onesPartition.setLabelSuffix "B" := used_renamedRun
  have honline : s.online = true := by rw [hs]; rfl
  obtain ⟨hreturns, hanswer⟩ := uuid_follows_suffix Device.ones renamedRun
  obtain ⟨uuid, s', h⟩ := hreturns.2 honline
  obtain ⟨huuid | ⟨front, later, huses, -, hset, -⟩, hlater⟩ := hanswer uuid s' h
  · subst huuid
    exact ⟨by rw [hs]; rfl, s', h, (hlater "C").2⟩
  · exact (hset "B" (setLabelSuffix_mem_of_renamedRun huses)).elim

/-- It is asked, and then set up. -/
def lateRun : List Use := [.askUuid, .withLabelSuffix "B"]

lemma used_lateRun :
    onesPartition.used lateRun =
      { onesPartition with labelSuffix := "B", knownUuid := some onesPartition.derivedUuid } := by
  have hasked := state_askUuid (s := onesPartition) rfl
  change ((Use.askUuid.run.run onesPartition).state).withLabelSuffix "B" = _
  rw [hasked]
  rfl

set_option maxRecDepth 100000 in
/-- Without a suffix and with one, a hardware key of ones gives two UUIDs. -/
lemma derivedUuid_ones_ne :
    onesPartition.derivedUuid ≠ (onesPartition.withLabelSuffix "B").derivedUuid := by
  simp only [derivedUuid, derived, Hkdf.derive, Hmac.mac, Sha256.hash_eq]
  decide +kernel

/-- **A partition that is set up after it was asked answers with the UUID of its former suffix**,
which is not the one that it derives. -/
theorem uuid_of_former_suffix :
    (∃ s', deviceUuid.Returns (onesPartition.used lateRun) onesPartition.derivedUuid s') ∧
      onesPartition.derivedUuid ≠ (onesPartition.used lateRun).derivedUuid ∧
      ¬ ∀ (hardwareKey : Bytes) (uses : List Use) (uuid : String) (s' : Partition),
        hardwareKey.length = 32 →
        let s := ({ hardwareKey } : Partition).used uses
        deviceUuid.Returns s uuid s' → uuid = s.derivedUuid := by
  have hreturns : ∃ s', deviceUuid.Returns (onesPartition.used lateRun)
      onesPartition.derivedUuid s' := by
    rw [used_lateRun]
    exact ⟨_, returns_deviceUuid_iff.2 ⟨rfl, rfl, rfl⟩⟩
  have hne : onesPartition.derivedUuid ≠ (onesPartition.used lateRun).derivedUuid := by
    have hderived : (onesPartition.used lateRun).derivedUuid =
        (onesPartition.withLabelSuffix "B").derivedUuid := by
      rw [used_lateRun]
      exact derivedUuid_congr rfl rfl
    rw [hderived]
    exact derivedUuid_ones_ne
  obtain ⟨s', h⟩ := hreturns
  exact ⟨⟨s', h⟩, hne, fun hclaim => hne (hclaim Device.ones lateRun _ s' rfl h)⟩

end Partition

end DeviceIdentity
