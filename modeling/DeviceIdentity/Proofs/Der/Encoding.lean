import DeviceIdentity.Proofs.Action
import DeviceIdentity.Proofs.Der.Element

/-!
# Writing prepends an encoding

Each step of the DER writer has an encoding, which depends on the arguments of the step alone.  The
step returns exactly when its arguments have an encoding and there is room for it, and then the
encoding stands in front of what was written before.

* `Encodes` — a step has a given encoding, or none.
* `Prepends` — a step puts given octets in front, or says that there is no room for them;
  `Encodes.prepends` — a step that has an encoding does so.
* `Encodes.bind_some` — the encoding of a sequence has the later part in front.
* `encodes_header`, `encodes_tagged`, `encodes_bitString`, `encodes_unsigned`, `encodes_signature` —
  the encodings of the writer's steps.
-/

namespace DeviceIdentity

namespace Tail

@[simp] lemma buffer_ofBuffer (octets : Bytes) : (ofBuffer octets).buffer = octets :=
  List.append_nil octets

@[simp] lemma buffer_reset (t : Tail) : t.reset.buffer = t.buffer :=
  buffer_ofBuffer t.buffer

@[simp] lemma written_reset (t : Tail) : t.reset.written = [] := rfl

@[simp] lemma prepend?_nil (t : Tail) : t.prepend? [] = some t := by
  simp [prepend?]

/-- Writing two strings at once is writing the second one and then the first one before it. -/
lemma prepend?_append (front back : Bytes) (t : Tail) :
    t.prepend? (front ++ back) = (t.prepend? back).bind (prepend? front) := by
  unfold prepend?
  by_cases hback : back.length ≤ t.free.length
  · rw [if_pos hback]
    simp only [Option.bind_some, List.length_append, List.length_take]
    by_cases hboth : front.length + back.length ≤ t.free.length
    · rw [if_pos hboth, if_pos (by omega), List.take_take, List.append_assoc]
      congr 3
      omega
    · rw [if_neg hboth, if_neg (by omega)]
  · rw [if_neg hback, if_neg (by rw [List.length_append]; omega)]
    rfl

lemma written_of_prepend? {bs : Bytes} {t u : Tail} (h : t.prepend? bs = some u) :
    u.written = bs ++ t.written := by
  obtain ⟨_, _, -, -, rfl⟩ := prepend?_eq_some_iff.1 h
  rfl

lemma prepend?_eq_none_iff {bs : Bytes} {t : Tail} :
    t.prepend? bs = none ↔ t.free.length < bs.length := by
  simp [prepend?]

end Tail

namespace Der

variable {α β : Type}

/-- The step writes the octets of `encoding` and returns its value; without an encoding it never
returns. -/
structure Encodes (step : Write α) (encoding : Option (Bytes × α)) : Prop where
  returns_iff : ∀ {t : Tail} {a : α} {u : Tail},
    step.Returns t a u ↔ ∃ bs, encoding = some (bs, a) ∧ t.prepend? bs = some u
  fails : ∀ {t : Tail} {a : α} {bs : Bytes}, encoding = some (bs, a) → t.prepend? bs = none →
    ∃ u, step.Fails t .bufferTooSmall u

/-- Octets with their number, which is what a step returns. -/
def counted (bs : Bytes) : Bytes × Nat := (bs, bs.length)

namespace Encodes

lemma of_eq {step : Write α} {e e' : Option (Bytes × α)} (h : Encodes step e) (heq : e = e') :
    Encodes step e' :=
  heq ▸ h

/-- A step that returns how many octets it wrote. -/
lemma returns_counted {step : Write Nat} {e : Option Bytes} (h : Encodes step (e.map counted))
    {t u : Tail} {n : Nat} :
    step.Returns t n u ↔ ∃ bs, e = some bs ∧ n = bs.length ∧ t.prepend? bs = some u := by
  rw [h.returns_iff]
  constructor
  · rintro ⟨_, heq, hbs⟩
    obtain ⟨bs, hbs', heq⟩ := Option.map_eq_some_iff.1 heq
    cases heq
    exact ⟨_, hbs', rfl, hbs⟩
  · rintro ⟨bs, rfl, rfl, hbs⟩
    exact ⟨bs, rfl, hbs⟩

/-- In a sequence, what the second step writes stands in front. -/
lemma bind_some {step : Write α} {next : α → Write β} {bs cs : Bytes} {a : α} {b : β}
    (h : Encodes step (some (bs, a))) (hnext : Encodes (next a) (some (cs, b))) :
    Encodes (step >>= next) (some (cs ++ bs, b)) where
  returns_iff := by
    intro t b' u
    rw [Action.returns_bind]
    constructor
    · rintro ⟨a', s, hstep, hrest⟩
      obtain ⟨_, heq, hbs⟩ := h.returns_iff.1 hstep
      cases heq
      obtain ⟨_, heq, hcs⟩ := hnext.returns_iff.1 hrest
      cases heq
      refine ⟨cs ++ bs, rfl, ?_⟩
      rw [Tail.prepend?_append, hbs]
      exact hcs
    · rintro ⟨_, heq, hboth⟩
      cases heq
      rw [Tail.prepend?_append] at hboth
      obtain ⟨s, hbs, hcs⟩ := Option.bind_eq_some_iff.1 hboth
      exact ⟨a, s, h.returns_iff.2 ⟨bs, rfl, hbs⟩, hnext.returns_iff.2 ⟨cs, rfl, hcs⟩⟩
  fails := by
    intro t b' _ heq hboth
    cases heq
    rw [Tail.prepend?_append] at hboth
    cases hbs : t.prepend? bs with
    | none =>
      obtain ⟨u, hu⟩ := h.fails rfl hbs
      exact ⟨u, Action.fails_bind.2 (.inl hu)⟩
    | some s =>
      rw [hbs, Option.bind_some] at hboth
      obtain ⟨u, hu⟩ := hnext.fails rfl hboth
      exact ⟨u, Action.fails_bind.2 (.inr ⟨a, s, h.returns_iff.2 ⟨bs, rfl, hbs⟩, hu⟩)⟩

lemma of_not_returns {step : Write α} (h : ∀ {t a u}, ¬step.Returns t a u) :
    Encodes step none where
  returns_iff := by
    intro t a u
    constructor
    · exact fun hr => absurd hr h
    · rintro ⟨_, hnone, -⟩
      cases hnone
  fails := by
    intro t a bs hnone
    cases hnone

lemma not_returns {step : Write α} (h : Encodes step none) {t u : Tail} {a : α} :
    ¬step.Returns t a u := by
  intro hr
  obtain ⟨_, hnone, -⟩ := h.returns_iff.1 hr
  cases hnone

lemma none_bind {step : Write α} {next : α → Write β} (h : Encodes step none) :
    Encodes (step >>= next) none := by
  refine of_not_returns fun hr => ?_
  obtain ⟨a, s, hstep, -⟩ := Action.returns_bind.1 hr
  exact h.not_returns hstep

lemma bind_none {step : Write α} {next : α → Write β} {bs : Bytes} {a : α}
    (h : Encodes step (some (bs, a))) (hnext : Encodes (next a) none) :
    Encodes (step >>= next) none := by
  refine of_not_returns fun hr => ?_
  obtain ⟨a', s, hstep, hrest⟩ := Action.returns_bind.1 hr
  obtain ⟨_, heq, -⟩ := h.returns_iff.1 hstep
  cases heq
  exact hnext.not_returns hrest

end Encodes

/-- The step puts `bs` in front exactly if there is room, and otherwise says that there is not. -/
def Prepends (step : Write Nat) (bs : Bytes) : Prop :=
  ∀ t : Tail,
    (step.Returns t bs.length ⟨t.free.take (t.free.length - bs.length), bs ++ t.written⟩ ↔
      bs.length ≤ t.free.length) ∧
    ((∃ u, step.Fails t .bufferTooSmall u) ↔ t.free.length < bs.length)

namespace Encodes

variable {step : Write Nat} {e : Option Bytes} {bs : Bytes}

lemma prepends (h : Encodes step (e.map counted)) (he : e = some bs) : Prepends step bs := by
  intro t
  have hreturns (hroom : bs.length ≤ t.free.length) :
      step.Returns t bs.length ⟨t.free.take (t.free.length - bs.length), bs ++ t.written⟩ :=
    h.returns_counted.2 ⟨bs, he, rfl, if_pos hroom⟩
  have hfails (hshort : t.free.length < bs.length) : ∃ u, step.Fails t .bufferTooSmall u :=
    h.fails (by rw [he]; rfl) (Tail.prepend?_eq_none_iff.2 hshort)
  refine ⟨⟨fun hr => Nat.le_of_not_lt fun hshort => ?_, hreturns⟩,
    ⟨fun ⟨u, hu⟩ => Nat.lt_of_not_le fun hroom => ?_, hfails⟩⟩
  · obtain ⟨u, hu⟩ := hfails hshort
    exact Action.not_fails_of_returns hr hu
  · exact Action.not_fails_of_returns (hreturns hroom) hu

/-- A step that returns `n` has put `n` octets in front. -/
lemma written_of_returns (h : Encodes step (e.map counted)) {t u : Tail} {n : Nat}
    (hreturns : step.Returns t n u) :
    ∃ front : Bytes, front.length = n ∧ u.written = front ++ t.written := by
  obtain ⟨front, -, rfl, hfront⟩ := h.returns_counted.1 hreturns
  exact ⟨front, rfl, Tail.written_of_prepend? hfront⟩

end Encodes

namespace Prepends

variable {step : Write Nat} {bs : Bytes} {t : Tail}

/-- A step that puts octets in front fails only when there is no room. -/
lemma eq_bufferTooSmall (h : Prepends step bs) {e : Failure} {u : Tail}
    (hfails : step.Fails t e u) : e = .bufferTooSmall := by
  by_cases hroom : bs.length ≤ t.free.length
  · exact (Action.not_fails_of_returns ((h t).1.2 hroom) hfails).elim
  · obtain ⟨v, hsmall⟩ := (h t).2.2 (Nat.lt_of_not_le hroom)
    exact (hfails.unique hsmall).1

/-- A step that puts octets in front and returns had room for them. -/
lemma eq_of_returns (h : Prepends step bs) {n : Nat} {u : Tail} (hreturns : step.Returns t n u) :
    n = bs.length ∧ u.written = bs ++ t.written := by
  have hroom : bs.length ≤ t.free.length := by
    refine Nat.le_of_not_lt fun hshort => ?_
    obtain ⟨v, hsmall⟩ := (h t).2.2 hshort
    exact Action.not_fails_of_returns hreturns hsmall
  obtain ⟨hn, rfl⟩ := hreturns.unique ((h t).1.2 hroom)
  exact ⟨hn, rfl⟩

end Prepends

/-! ## Building blocks -/

lemma encodes_pure (a : α) : Encodes (pure a) (some ([], a)) where
  returns_iff := by
    intro t b u
    rw [Action.returns_pure]
    constructor
    · rintro ⟨rfl, rfl⟩
      exact ⟨[], rfl, Tail.prepend?_nil t⟩
    · rintro ⟨_, heq, hbs⟩
      cases heq
      rw [Tail.prepend?_nil] at hbs
      exact ⟨rfl, Option.some.inj hbs⟩
  fails := by
    intro t b bs heq hnone
    cases heq
    rw [Tail.prepend?_nil] at hnone
    cases hnone

lemma encodes_fail (e : Failure) : Encodes (Action.fail e : Write α) none :=
  Encodes.of_not_returns fun hr => Action.returns_fail.1 hr

lemma encodes_raw (bs : Bytes) : Encodes (raw bs) (some (counted bs)) where
  returns_iff := by
    intro t n u
    cases h : t.prepend? bs with
    | none => simp [Action.Returns, Action.run, raw, h, counted]
    | some v => simp [Action.Returns, Action.run, raw, h, counted]
  fails := by
    intro t n cs heq hnone
    cases heq
    refine ⟨t, ?_⟩
    simp [Action.Fails, Action.run, raw, hnone]

lemma encodes_octet (b : UInt8) : Encodes (octet b) (some ([b], 1)) :=
  encodes_raw [b]

lemma encodes_lengthField (n : Nat) : Encodes (lengthField n) ((lengthOctets? n).map counted) := by
  unfold lengthField
  cases lengthOctets? n with
  | none => exact encodes_fail _
  | some field => exact encodes_raw field

/-- The header of a content has an encoding exactly when the length does. -/
lemma encodes_header (tag : UInt8) (n : Nat) :
    Encodes (header tag n) ((lengthOctets? n).map fun field => counted (tag :: field)) := by
  unfold header lengthField
  cases lengthOctets? n with
  | none => exact (encodes_fail _).none_bind
  | some field =>
    exact Encodes.of_eq
      ((encodes_raw field).bind_some ((encodes_octet tag).bind_some (encodes_pure _))) rfl

section Header

variable {tag : UInt8} {content field : Bytes} {n : Nat}

lemma encodes_header_none (h : lengthOctets? n = none) : Encodes (header tag n) none :=
  (encodes_header tag n).of_eq (by rw [h]; rfl)

lemma encodes_header_some (h : lengthOctets? n = some field) :
    Encodes (header tag n) (some (counted (tag :: field))) :=
  (encodes_header tag n).of_eq (by rw [h]; rfl)

lemma wrap?_eq_some (h : lengthOctets? n = some field) (hn : content.length = n) :
    wrap? tag content = some (tag :: field ++ content) := by
  rw [wrap?, hn, h]
  rfl

lemma wrap?_eq_none (h : lengthOctets? n = none) (hn : content.length = n) :
    wrap? tag content = none := by
  rw [wrap?, hn, h]
  rfl

end Header

/-! ## Elements -/

lemma encodes_tagged (tag : UInt8) (content : Bytes) :
    Encodes (tagged tag content) ((wrap? tag content).map counted) := by
  unfold tagged
  cases h : lengthOctets? content.length with
  | none =>
    rw [wrap?_eq_none h rfl]
    exact (encodes_raw content).bind_none (encodes_header_none h).none_bind
  | some field =>
    rw [wrap?_eq_some h rfl]
    refine Encodes.of_eq ((encodes_raw content).bind_some
      ((encodes_header_some h).bind_some (encodes_pure _))) ?_
    simp [counted]
    omega

/-- Closing a BIT STRING puts the count of unused bits and the header in front. -/
lemma encodes_closeBitString (n : Nat) :
    Encodes (closeBitString n) ((lengthOctets? (n + 1)).map fun field =>
      (bitStringTag :: field ++ [0x00], n + (field.length + 2))) := by
  unfold closeBitString
  cases h : lengthOctets? (n + 1) with
  | none => exact (encodes_octet 0x00).bind_none (encodes_header_none h).none_bind
  | some field =>
    refine Encodes.of_eq ((encodes_octet 0x00).bind_some
      ((encodes_header_some h).bind_some (encodes_pure _))) ?_
    simp
    omega

lemma encodes_bits {step : Write Nat} {bits : Bytes} (h : Encodes step (some (counted bits))) :
    Encodes (step >>= closeBitString) ((wrap? bitStringTag (0x00 :: bits)).map counted) := by
  have hclose := encodes_closeBitString bits.length
  rw [wrap?, List.length_cons]
  cases hfield : lengthOctets? (bits.length + 1) with
  | none =>
    rw [hfield] at hclose
    exact h.bind_none hclose
  | some field =>
    rw [hfield] at hclose
    refine Encodes.of_eq (h.bind_some hclose) ?_
    simp [counted]
    omega

lemma encodes_bitString (bits : Bytes) :
    Encodes (bitString bits) ((wrap? bitStringTag (0x00 :: bits)).map counted) :=
  encodes_bits (encodes_raw bits)

/-- An element of two parts, the back one of which is written first. -/
lemma encodes_parts (tag : UInt8) {first second : Write Nat} {back front : Bytes}
    (hback : Encodes first (some (counted back)))
    (hfront : Encodes second (some (counted front))) :
    Encodes (do
        let b ← first
        let f ← second
        let head ← header tag (b + f)
        return b + f + head)
      ((wrap? tag (front ++ back)).map counted) := by
  have hlength : (front ++ back).length = back.length + front.length := by
    rw [List.length_append, Nat.add_comm]
  cases h : lengthOctets? (back.length + front.length) with
  | none =>
    rw [wrap?_eq_none h hlength]
    exact hback.bind_none (hfront.bind_none (encodes_header_none h).none_bind)
  | some field =>
    rw [wrap?_eq_some h hlength]
    refine Encodes.of_eq (hback.bind_some (hfront.bind_some
      ((encodes_header_some h).bind_some (encodes_pure _)))) ?_
    simp [counted]
    omega

/-- The INTEGER of a magnitude. -/
def unsigned? (magnitude : Bytes) : Option Bytes :=
  (unsignedContent? magnitude).bind (wrap? integerTag)

lemma encodes_unsigned (magnitude : Bytes) :
    Encodes (unsigned magnitude) ((unsigned? magnitude).map counted) := by
  unfold unsigned unsigned? unsignedContent?
  cases significant magnitude with
  | nil => exact encodes_fail _
  | cons first rest =>
    by_cases hhigh : 0x80 ≤ first
    · simp only [if_pos hhigh, Option.bind_some]
      exact encodes_parts integerTag (encodes_raw _) (encodes_octet 0x00)
    · simp only [if_neg hhigh, Option.bind_some]
      exact encodes_parts integerTag (encodes_raw _) (encodes_pure 0)

/-! ## Signatures -/

/-- The INTEGER of one half of a signature, which is not zero. -/
def signatureHalf? (half : Bytes) : Option Bytes :=
  if half.all (· == 0) then none else unsigned? half

/-- The SEQUENCE of the two halves of a signature. -/
def signature? (pair : Bytes) : Option Bytes :=
  if pair.isEmpty || pair.length % 2 != 0 then none
  else do
    let s ← signatureHalf? (pair.drop (pair.length / 2))
    let r ← signatureHalf? (pair.take (pair.length / 2))
    wrap? sequenceTag (r ++ s)

/-- The INTEGER of a half is one element, and reads back as the number of the half. -/
lemma integer?_of_signatureHalf? {half bs : Bytes} (h : signatureHalf? half = some bs) :
    ∃ content, wrap? integerTag content = some bs ∧
      integer? bs = some (Bytes.toNat half : Int) := by
  rw [signatureHalf?] at h
  split_ifs at h
  obtain ⟨content, hcontent, hbs⟩ := Option.bind_eq_some_iff.1 h
  refine ⟨content, hbs, ?_⟩
  rw [integer?, unwrap?_of_wrap? hbs]
  exact signed?_of_unsignedContent? hcontent

lemma encodes_signatureHalf (half : Bytes) :
    Encodes (signatureHalf half) ((signatureHalf? half).map counted) := by
  unfold signatureHalf signatureHalf?
  by_cases hzero : half.all (· == 0)
  · rw [if_pos hzero, if_pos hzero]
    exact encodes_fail _
  · rw [if_neg hzero, if_neg hzero]
    exact encodes_unsigned half

lemma encodes_signature (pair : Bytes) :
    Encodes (signature pair) ((signature? pair).map counted) := by
  unfold signature signature?
  by_cases hshape : pair.isEmpty || pair.length % 2 != 0
  · rw [if_pos hshape, if_pos hshape]
    exact encodes_fail _
  rw [if_neg hshape, if_neg hshape]
  have hs := encodes_signatureHalf (pair.drop (pair.length / 2))
  have hr := encodes_signatureHalf (pair.take (pair.length / 2))
  cases hsval : signatureHalf? (pair.drop (pair.length / 2)) with
  | none =>
    rw [hsval] at hs
    exact hs.none_bind
  | some s =>
    cases hrval : signatureHalf? (pair.take (pair.length / 2)) with
    | none =>
      rw [hsval] at hs
      rw [hrval] at hr
      exact hs.bind_none hr.none_bind
    | some r =>
      rw [hsval] at hs
      rw [hrval] at hr
      exact encodes_parts sequenceTag hs hr

end Der

end DeviceIdentity
