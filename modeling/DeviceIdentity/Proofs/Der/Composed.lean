import DeviceIdentity.Der.Write
import DeviceIdentity.Proofs.Action.Reports

/-!
# All writing is putting octets in front

Every step of the DER writer comes down to putting octets in front, looking at what was written, and
failing.  So whatever is true of putting octets in front and carries over from step to step is true
of every step, also of one that fails on its way and leaves a part behind.

* `Tail.Extends` — what writing can do to a buffer.
* `Composed` — the step is put together from putting octets in front.
* `Composed.keeps` — such a step keeps what putting octets in front keeps.
* `Composed.extends_run` — such a step only extends what was written.
* `Composed.quiet` — such a step reports nothing.
* `composed_header`, `composed_tagged`, `composed_unsigned`, `composed_signature` — the steps of the
  writer are put together so.
-/

namespace DeviceIdentity

namespace Tail

/-- What was written before ends what is written now, and the octets in front of it that are still
free are as they were. -/
structure Extends (t u : Tail) : Prop where
  size : u.buffer.length = t.buffer.length
  free : u.free <+: t.free
  written : t.written <:+ u.written

instance : IsPreorder Tail Extends where
  refl _ := ⟨rfl, List.prefix_rfl, List.suffix_rfl⟩
  trans _ _ _ h h' :=
    ⟨h'.size.trans h.size, h'.free.trans h.free, h.written.trans h'.written⟩

lemma extends_of_prepend? {bs : Bytes} {t u : Tail} (h : t.prepend? bs = some u) :
    Extends t u where
  size := length_buffer_prepend? h
  free := by
    obtain ⟨rest, spent, hfree, -, rfl⟩ := prepend?_eq_some_iff.1 h
    exact ⟨spent, hfree.symm⟩
  written := by
    obtain ⟨rest, spent, -, -, rfl⟩ := prepend?_eq_some_iff.1 h
    exact List.suffix_append bs t.written

/-- No octet in front of the new cursor has changed. -/
lemma Extends.take_buffer {t u : Tail} (h : Extends t u) :
    u.buffer.take u.free.length = t.buffer.take u.free.length := by
  obtain ⟨spent, hfree⟩ := h.free
  rw [buffer, buffer, List.take_left, ← hfree, List.append_assoc, List.take_left]

end Tail

namespace Der

variable {α : Type}

/-- The step is put together from steps that put octets in front, or that touch nothing. -/
inductive Composed : {α : Type} → Write α → Prop
  | raw (bs : Bytes) : Composed (raw bs)
  | get : Composed (Action.get : Write Tail)
  | pure {α : Type} (a : α) : Composed (pure a : Write α)
  | fail {α : Type} (e : Failure) : Composed (Action.fail e : Write α)
  | bind {α β : Type} {step : Write α} {next : α → Write β} (first : Composed step)
      (rest : ∀ a, Composed (next a)) : Composed (step >>= next)

/-! ## What every step does -/

lemma keeps_raw (bs : Bytes) : (raw bs).Keeps Tail.Extends := by
  intro t
  cases h : t.prepend? bs with
  | none =>
    simp only [Action.run, raw, h]
    exact refl_of Tail.Extends t
  | some u =>
    simp only [Action.run, raw, h]
    exact Tail.extends_of_prepend? h

lemma quiet_raw (bs : Bytes) (t : Tail) : (raw bs).Quiet t := by
  simp only [Action.Quiet, Action.Reports, Action.run, raw]
  split
  · rfl
  · rfl

namespace Composed

variable {step : Write α}

lemma keeps {R : Tail → Tail → Prop} [IsPreorder Tail R] (hraw : ∀ bs, (Der.raw bs).Keeps R)
    (h : Composed step) : step.Keeps R := by
  induction h with
  | raw bs => exact hraw bs
  | get => exact Action.keeps_get
  | pure a => exact Action.keeps_pure a
  | fail e => exact Action.keeps_fail e
  | bind _ _ hfirst hrest => exact Action.keeps_bind hfirst hrest

/-- Whether it is done or fails, a step only extends what was written. -/
lemma extends_run (h : Composed step) (t : Tail) : t.Extends (step.run t).state :=
  h.keeps keeps_raw t

lemma quiet (h : Composed step) (t : Tail) : step.Quiet t := by
  induction h generalizing t with
  | raw bs => exact quiet_raw bs t
  | get => exact Action.reports_get
  | pure a => exact Action.reports_pure a
  | fail e => exact Action.reports_fail rfl
  | bind _ _ hfirst hrest => exact Action.reports_bind (hfirst t) fun _ => hrest _ _

end Composed

/-! ## The steps of the writer -/

lemma composed_lengthField (n : Nat) : Composed (lengthField n) := by
  unfold lengthField
  split
  · exact .raw _
  · exact .fail _

lemma composed_header (tag : UInt8) (n : Nat) : Composed (header tag n) :=
  (composed_lengthField n).bind fun _ => (Composed.raw _).bind fun _ => .pure _

lemma composed_tagged (tag : UInt8) (content : Bytes) : Composed (tagged tag content) :=
  (Composed.raw _).bind fun _ => (composed_header _ _).bind fun _ => .pure _

lemma composed_closeBitString (n : Nat) : Composed (closeBitString n) :=
  (Composed.raw _).bind fun _ => (composed_header _ _).bind fun _ => .pure _

lemma composed_bitString (bits : Bytes) : Composed (bitString bits) :=
  (Composed.raw _).bind composed_closeBitString

lemma composed_unsigned (magnitude : Bytes) : Composed (unsigned magnitude) := by
  unfold unsigned
  split
  · exact .fail _
  · refine (Composed.raw _).bind fun _ => ?_
    dsimp only
    split_ifs
    · exact (Composed.raw _).bind fun _ => (composed_header _ _).bind fun _ => .pure _
    · exact (Composed.pure _).bind fun _ => (composed_header _ _).bind fun _ => .pure _

lemma composed_signatureHalf (half : Bytes) : Composed (signatureHalf half) := by
  unfold signatureHalf
  split_ifs
  · exact .fail _
  · exact composed_unsigned half

lemma composed_signature (pair : Bytes) : Composed (signature pair) := by
  unfold signature
  split_ifs
  · exact .fail _
  · exact (composed_signatureHalf _).bind fun _ => (composed_signatureHalf _).bind fun _ =>
      (composed_header _ _).bind fun _ => .pure _

end Der

end DeviceIdentity
