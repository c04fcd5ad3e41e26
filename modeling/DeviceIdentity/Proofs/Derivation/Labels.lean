import Mathlib.Data.List.Nodup
import Mathlib.Data.Set.Function
import DeviceIdentity.Proofs.Bytes
import DeviceIdentity.Proofs.Partition.Calls

/-!
# Derivation labels never collide

A derivation label is a base, a part and the label suffix, with nothing between them, and the suffix
may be any text.  Two labels are told apart all the same, because no base with its part begins
another base with its part.  A new slot, or a slot under another name, has to keep this
(`eq_of_stems` decides it).

* `Purpose` — what a block of octets is derived for: a half of the key of a slot, or the UUID.
* `Deriver.labelsGiven` — the labels that a derivation gives to the deriver below it, which notes
  them down; `labelsGiven_ecPrivateKey` — a whole key is its two halves in this respect.
* `Purpose.label_inj` — a label gives back the purpose and the suffix.
* **`labels_never_collide`** — so the labels given are the same for one purpose under one suffix
  alone, and a derivation that tells labels apart gives no block twice.
-/

namespace DeviceIdentity

open DeviceIdentity.Action (Fails Returns)

/-! ## Purposes -/

/-- What a block of octets is derived for. -/
inductive Purpose where
  | highHalf (slot : KeySlot)
  | lowHalf (slot : KeySlot)
  | uuid
  deriving DecidableEq

namespace Purpose

/-- All purposes. -/
def all : List Purpose :=
  KeySlot.all.map highHalf ++ KeySlot.all.map lowHalf ++ [uuid]

@[simp] lemma mem_all (p : Purpose) : p ∈ all := by
  cases p with
  | highHalf slot | lowHalf slot => cases slot <;> decide
  | uuid => decide

/-- The base of the label. -/
def base : Purpose → String
  | highHalf slot | lowHalf slot => slot.label
  | uuid => Deriver.uuidBase

/-- The part of the label. -/
def part : Purpose → String
  | highHalf _ => Deriver.highHalf
  | lowHalf _ => Deriver.lowHalf
  | uuid => ""

/-- The label under a suffix, as octets. -/
def label (p : Purpose) (suffix : String) : Bytes :=
  Bytes.ofText (Deriver.label p.base p.part suffix)

/-- Derives the block for a purpose. -/
def derive (p : Purpose) {σ : Type} (d : Deriver σ) : Action σ Bytes :=
  d.block p.base p.part

/-- The label without the suffix. -/
def stem (p : Purpose) : List Char := p.base.toList ++ p.part.toList

/-- No stem begins another one.  The only place where the labels of the slots are looked at. -/
lemma eq_of_stems {p q : Purpose} (h : p.stem <+: q.stem) : p = q := by
  have hall : ∀ p ∈ all, ∀ q ∈ all, p.stem <+: q.stem → p = q := by decide +kernel
  exact hall p (mem_all p) q (mem_all q) h

/-- **A label gives back its purpose and its suffix.**  Of two equal texts, one stem begins the
other. -/
lemma label_inj {p q : Purpose} {s t : String} : p.label s = q.label t ↔ p = q ∧ s = t := by
  constructor
  · intro h
    have htext : Deriver.label p.base p.part s = Deriver.label q.base q.part t := by
      simpa [label] using congrArg Bytes.toText? h
    have hchars : p.stem ++ s.toList = q.stem ++ t.toList := by
      simpa [Deriver.label, stem] using congrArg String.toList htext
    have hpurpose : p = q := by
      rcases List.append_eq_append_iff.1 hchars with ⟨_, hstem, -⟩ | ⟨_, hstem, -⟩
      · exact eq_of_stems ⟨_, hstem.symm⟩
      · exact (eq_of_stems ⟨_, hstem.symm⟩).symm
    subst hpurpose
    exact ⟨rfl, String.toList_inj.1 (List.append_cancel_left hchars)⟩
  · rintro ⟨rfl, rfl⟩
    rfl

/-- The labels of all purposes under some suffixes. -/
def labelsUnder (suffixes : Set String) : Set Bytes :=
  {octets | ∃ p : Purpose, ∃ suffix ∈ suffixes, p.label suffix = octets}

end Purpose

/-! ## The labels that are given -/

namespace Deriver

variable {σ α : Type}

/-- A deriver that notes the labels it is given, in order. -/
def noting (d : Deriver σ) : Deriver (σ × List Bytes) where
  labelSuffix p := d.labelSuffix p.1
  deriveOctets label length := do
    Action.modify fun (s, noted) => (s, noted ++ [label])
    (d.deriveOctets label length).onFst

/-- The labels that a derivation from `s` gives to the deriver below it. -/
def labelsGiven (d : Deriver σ) (derivation : {τ : Type} → Deriver τ → Action τ α) (s : σ) :
    List Bytes :=
  ((derivation d.noting).run (s, [])).state.2

variable (d : Deriver σ)

/-- Noting the label is all that is added to the derivation of a block. -/
lemma run_block_noting (base part : String) (s : σ) (noted : List Bytes) :
    let outcome := (d.block base part).run s
    (d.noting.block base part).run (s, noted) =
      ⟨outcome.result,
        (outcome.state, noted ++ [Bytes.ofText (label base part (d.labelSuffix s))]),
        outcome.log⟩ := by
  intro outcome
  have hget : ((Action.get : Action σ σ).run s).result = .ok s := rfl
  have hgetNoting : ((Action.get : Action (σ × List Bytes) _).run (s, noted)).result =
      .ok (s, noted) := rfl
  simp only [outcome, block]
  rw [Action.run_bind_of_ok hget, Action.run_bind_of_ok hgetNoting]
  simp only [Action.run_get, List.nil_append]
  cases hderive : ((d.deriveOctets (Bytes.ofText (label base part (d.labelSuffix s)))
      blockLength).run s).result with
  | error e =>
    rw [Action.run_bind_of_error (e := e), Action.run_bind_of_error hderive]
    · rfl
    · exact hderive
  | ok octets =>
    rw [Action.run_bind_of_ok (a := octets), Action.run_bind_of_ok hderive]
    · split
      · rfl
      · rfl
    · exact hderive

lemma labelsGiven_derive (p : Purpose) (s : σ) :
    d.labelsGiven p.derive s = [p.label (d.labelSuffix s)] := by
  simp only [labelsGiven, Purpose.derive, run_block_noting, List.nil_append]
  rfl

/-- The UUID is one block. -/
lemma labelsGiven_uuidOctets (s : σ) :
    d.labelsGiven uuidOctets s = d.labelsGiven Purpose.uuid.derive s := by
  simp only [labelsGiven, uuidOctets, Action.state_bind_pure]
  rfl

/-- If the high half of a key cannot be derived, nothing else is tried. -/
lemma labelsGiven_ecPrivateKey_of_fails {slot : KeySlot} {s s' : σ} {e : Failure}
    (h : ((Purpose.highHalf slot).derive d).Fails s e s') :
    d.labelsGiven (fun d => d.ecPrivateKey slot.label) s =
      d.labelsGiven (Purpose.highHalf slot).derive s := by
  have hhigh : ((Purpose.highHalf slot).derive d.noting).Fails (s, []) e
      (s', [(Purpose.highHalf slot).label (d.labelSuffix s)]) := by
    rw [Fails, Purpose.derive, run_block_noting]
    exact ⟨h.1, Prod.ext h.2 rfl⟩
  rw [labelsGiven_derive]
  exact congrArg Prod.snd (Action.state_bind_of_fails hhigh)

/-- The low half of a key is derived after the high half. -/
lemma labelsGiven_ecPrivateKey_of_returns {slot : KeySlot} {s s' : σ} {octets : Bytes}
    (h : ((Purpose.highHalf slot).derive d).Returns s octets s') :
    d.labelsGiven (fun d => d.ecPrivateKey slot.label) s =
      d.labelsGiven (Purpose.highHalf slot).derive s ++
        d.labelsGiven (Purpose.lowHalf slot).derive s' := by
  have hhigh : ((Purpose.highHalf slot).derive d.noting).Returns (s, []) octets
      (s', [(Purpose.highHalf slot).label (d.labelSuffix s)]) := by
    rw [Returns, Purpose.derive, run_block_noting]
    exact ⟨h.1, Prod.ext h.2 rfl⟩
  rw [labelsGiven_derive, labelsGiven_derive]
  refine (congrArg Prod.snd (Action.state_bind_of_returns hhigh)).trans ?_
  rw [Action.state_bind_pure, run_block_noting]
  rfl

/-! ## The blocks that are derived -/

/-- Whatever the deriver derives from `s` is what `f` gives for the label and the length. -/
def DerivesBy (f : Bytes → Nat → Bytes) (d : Deriver σ) (s : σ) : Prop :=
  ∀ {label : Bytes} {length : Nat} {octets : Bytes} {s' : σ},
    (d.deriveOctets label length).Returns s octets s' → octets = f label length

variable {d}

/-- A block is what is derived for its label. -/
lemma DerivesBy.eq_of_derive {f : Bytes → Nat → Bytes} {s s' : σ} {p : Purpose} {octets : Bytes}
    (hf : DerivesBy f d s) (h : (p.derive d).Returns s octets s') :
    octets = f (p.label (d.labelSuffix s)) blockLength :=
  hf (returns_block_iff.1 h).1

/-- The emulated partition derives by HKDF under its hardware key. -/
lemma derivesBy_partition (s : Partition) :
    DerivesBy (Hkdf.derive Partition.salt s.hardwareKey) Partition.deriver s :=
  fun h => (Partition.returns_deriveOctets.1 h).2.2.2.1

/-! ## The main result -/

/-- **Derivation labels never collide.**  The label that any two derivers are given for two purposes
is the same exactly when the purposes and the suffixes in force are.  A key gives the labels of its
two halves, the low half after the high one, and the UUID gives its own.  So where two derivers
share a derivation that tells apart the labels under some suffixes, as two devices of one hardware
key do, two blocks derived under these suffixes are the same only for one purpose under one
suffix. -/
theorem labels_never_collide :
    (∀ {σ τ : Type} (d : Deriver σ) (e : Deriver τ) (s : σ) (t : τ) (p q : Purpose),
      d.labelsGiven p.derive s = e.labelsGiven q.derive t ↔
        p = q ∧ d.labelSuffix s = e.labelSuffix t) ∧
    (∀ {σ : Type} (d : Deriver σ) (s : σ),
      (∀ p : Purpose, d.labelsGiven p.derive s = [p.label (d.labelSuffix s)]) ∧
      d.labelsGiven uuidOctets s = d.labelsGiven Purpose.uuid.derive s ∧
      ∀ slot : KeySlot,
        (∀ failure s', ((Purpose.highHalf slot).derive d).Fails s failure s' →
          d.labelsGiven (fun d => d.ecPrivateKey slot.label) s =
            d.labelsGiven (Purpose.highHalf slot).derive s) ∧
        (∀ octets s', ((Purpose.highHalf slot).derive d).Returns s octets s' →
          d.labelsGiven (fun d => d.ecPrivateKey slot.label) s =
            d.labelsGiven (Purpose.highHalf slot).derive s ++
              d.labelsGiven (Purpose.lowHalf slot).derive s')) ∧
    (∀ {σ τ : Type} (f : Bytes → Nat → Bytes) (suffixes : Set String) (d : Deriver σ)
      (e : Deriver τ) (s s' : σ) (t t' : τ) (p q : Purpose) (octets octets' : Bytes),
      Set.InjOn (fun label => f label blockLength) (Purpose.labelsUnder suffixes) →
      DerivesBy f d s → DerivesBy f e t →
      d.labelSuffix s ∈ suffixes → e.labelSuffix t ∈ suffixes →
      (p.derive d).Returns s octets s' → (q.derive e).Returns t octets' t' →
        (octets = octets' ↔ p = q ∧ d.labelSuffix s = e.labelSuffix t)) ∧
    ∀ s : Partition,
      DerivesBy (Hkdf.derive Partition.salt s.hardwareKey) Partition.deriver s := by
  refine ⟨fun d e s t p q => ?_, fun d s => ⟨d.labelsGiven_derive (s := s),
    d.labelsGiven_uuidOctets s, fun slot => ⟨?_, ?_⟩⟩, ?_, derivesBy_partition⟩
  · rw [labelsGiven_derive, labelsGiven_derive, List.singleton_inj, Purpose.label_inj]
  · exact fun failure s' h => d.labelsGiven_ecPrivateKey_of_fails h
  · exact fun octets s' h => d.labelsGiven_ecPrivateKey_of_returns h
  · intro σ τ f suffixes d e s s' t t' p q octets octets' hinj hd he hs ht hp hq
    rw [hd.eq_of_derive hp, he.eq_of_derive hq, ← Purpose.label_inj]
    constructor
    · intro h
      exact hinj ⟨p, _, hs, rfl⟩ ⟨q, _, ht, rfl⟩ h
    · intro h
      rw [h]

/-- The remainder of a label's number by a prime of 128 bits. -/
def remainder (label : Bytes) (length : Nat) : Bytes :=
  Bytes.ofNat length (Bytes.toNat label % (2 ^ 128 - 159))

/-- A deriver whose state is its suffix, and which derives remainders. -/
def remainders : Deriver String where
  labelSuffix := id
  deriveOctets label length := pure (remainder label length)

lemma derivesBy_remainders (suffix : String) : DerivesBy remainder remainders suffix :=
  fun h => (Action.returns_pure.1 h).1.symm

lemma returns_remainders (p : Purpose) (suffix : String) :
    (p.derive remainders).Returns suffix (remainder (p.label suffix) blockLength)
      suffix := by
  refine Action.returns_bind.2 ⟨suffix, suffix, Action.returns_get.2 ⟨rfl, rfl⟩, ?_⟩
  refine Action.returns_bind.2 ⟨_, suffix, Action.returns_pure.2 ⟨rfl, rfl⟩, ?_⟩
  have hlength : ∀ label, (remainder label blockLength).length = blockLength :=
    fun _ => Bytes.length_ofNat _ _
  rw [if_pos (hlength _)]
  exact Action.returns_pure.2 ⟨rfl, rfl⟩

/-- It tells labels apart under no suffix, a plain one, and one that looks like a part. -/
lemma injOn_remainders :
    Set.InjOn (fun label => remainder label blockLength)
      (Purpose.labelsUnder {"", "-lab", "_EC_PRIV_KEY_LO"}) := by
  let labels : List Bytes := ["", "-lab", "_EC_PRIV_KEY_LO"].flatMap fun suffix =>
    Purpose.all.map fun p => p.label suffix
  have hmem : ∀ {label}, label ∈ Purpose.labelsUnder {"", "-lab", "_EC_PRIV_KEY_LO"} →
      label ∈ labels := by
    rintro _ ⟨p, suffix, hsuffix, rfl⟩
    have hlist : suffix ∈ ["", "-lab", "_EC_PRIV_KEY_LO"] := by simpa using hsuffix
    exact List.mem_flatMap.2 ⟨suffix, hlist, List.mem_map_of_mem (Purpose.mem_all p)⟩
  have hnodup : (labels.map fun label => remainder label blockLength).Nodup := by
    decide +kernel
  intro label hlabel other hother h
  exact List.inj_on_of_nodup_map hnodup (hmem hlabel) (hmem hother) h

/-- Two users of that deriver, one without a suffix and one with the suffix `-lab`, derive different
high halves for the signing key; the second gives two labels for its key, and a partition out of
reach is given one. -/
theorem labels_never_collide_remainders :
    (∃ octets octets',
      ((Purpose.highHalf .coseSign).derive remainders).Returns "" octets "" ∧
      ((Purpose.highHalf .coseSign).derive remainders).Returns "-lab" octets' "-lab" ∧
      octets ≠ octets') ∧
    remainders.labelsGiven (fun d => d.ecPrivateKey KeySlot.coseSign.label) "-lab" =
      [Bytes.ofText "Device COSE SIGN_EC_PRIV_KEY_HI-lab",
        Bytes.ofText "Device COSE SIGN_EC_PRIV_KEY_LO-lab"] ∧
    Partition.deriver.labelsGiven (fun d => d.ecPrivateKey KeySlot.coseSign.label)
        { hardwareKey := Device.ones, online := false } =
      [Bytes.ofText "Device COSE SIGN_EC_PRIV_KEY_HI"] := by
  have hplain := returns_remainders (.highHalf .coseSign) ""
  have hlab := returns_remainders (.highHalf .coseSign) "-lab"
  have hoffline : ((Purpose.highHalf .coseSign).derive Partition.deriver).Fails
      { hardwareKey := Device.ones, online := false } .derivationUnavailable
      { hardwareKey := Device.ones, online := false } := ⟨rfl, rfl⟩
  refine ⟨⟨_, _, hplain, hlab, fun heq => ?_⟩, ?_, ?_⟩
  · have hsame := (labels_never_collide.2.2.1 _ _ remainders remainders _ _ _ _ _ _ _ _
      injOn_remainders (derivesBy_remainders "") (derivesBy_remainders "-lab")
      (by simp [remainders]) (by simp [remainders]) hplain hlab).1 heq
    exact absurd hsame.2 (by decide)
  · rw [((labels_never_collide.2.1 remainders "-lab").2.2 .coseSign).2 _ _ hlab]
    decide +kernel
  · rw [((labels_never_collide.2.1 Partition.deriver _).2.2 .coseSign).1 _ _ hoffline]
    decide +kernel

end Deriver

end DeviceIdentity
