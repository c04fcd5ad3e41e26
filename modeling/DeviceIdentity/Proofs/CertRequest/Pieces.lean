import DeviceIdentity.Proofs.CertRequest.Size

/-!
# Every write puts one encoding in front

The steps that a request is written with, from single octets to a subject name, are the pieces of
this module.  A piece of several parts writes them one by one, from the last to the first, and when
it fails on the way the parts that were written stay.  Still no write ever touches what was written
before, or an octet in front of the cursor; and how a write ends is told by its encoding and the
room alone.

* `Piece` — a write with its arguments; `Piece.write` — what it does.
* `Piece.encoding?`, `Piece.contents`, `Piece.size` — its encoding, the lengths of the contents in
  it, and its own length.
* `Piece.Defined` — the arguments can be encoded.
* `Piece.encodes`, `Piece.composed`, `Piece.measures` — what is known of every piece.
* `Tail.afterPieces` — what several writes leave behind.
* **`pieces_put_in_front`** — what a write does, in every state of the buffer.
-/

namespace DeviceIdentity

open Der (Composed Encodes Measures Prepends Write counted elementLength maxContent wrap?)

/-- A write into the buffer, with its arguments. -/
inductive Piece where
  | raw (bs : Bytes)
  | octet (b : UInt8)
  | lengthField (n : Nat)
  | header (tag : UInt8) (n : Nat)
  | sequenceHeader (n : Nat)
  | tagged (tag : UInt8) (content : Bytes)
  | oid (arcs : Bytes)
  | utf8Text (text : String)
  | bitString (bits : Bytes)
  | smallInteger (value : UInt8)
  | unsigned (magnitude : Bytes)
  | signatureHalf (half : Bytes)
  | signature (pair : Bytes)
  | publicKey (key : Bytes)
  | subject (name : SubjectName)

namespace Piece

/-- Writes the piece. -/
def write : Piece → Write Nat
  | raw bs => Der.raw bs
  | octet b => Der.octet b
  | lengthField n => Der.lengthField n
  | header tag n => Der.header tag n
  | sequenceHeader n => Der.sequenceHeader n
  | tagged tag content => Der.tagged tag content
  | oid arcs => Der.oid arcs
  | utf8Text text => Der.utf8Text text
  | bitString bits => Der.bitString bits
  | smallInteger value => Der.smallInteger value
  | unsigned magnitude => Der.unsigned magnitude
  | signatureHalf half => Der.signatureHalf half
  | signature pair => Der.signature pair
  | publicKey key => PublicKeyInfo.write key
  | subject name => name.write

/-- The encoding of the piece, if it has one. -/
def encoding? : Piece → Option Bytes
  | raw bs => some bs
  | octet b => some [b]
  | lengthField n => Der.lengthOctets? n
  | header tag n => (Der.lengthOctets? n).map (tag :: ·)
  | sequenceHeader n => (Der.lengthOctets? n).map (Der.sequenceTag :: ·)
  | tagged tag content => wrap? tag content
  | oid arcs => wrap? Der.oidTag arcs
  | utf8Text text => wrap? Der.utf8StringTag (Bytes.ofText text)
  | bitString bits => wrap? Der.bitStringTag (0x00 :: bits)
  | smallInteger value => Der.unsigned? [value]
  | unsigned magnitude => Der.unsigned? magnitude
  | signatureHalf half => Der.signatureHalf? half
  | signature pair => Der.signature? pair
  | publicKey key => PublicKeyInfo.encode? key
  | subject name => name.encode?

/-- The lengths of the contents that the piece has length fields for. -/
def contents : Piece → List Nat
  | raw _ | octet _ => []
  | lengthField n | header _ n | sequenceHeader n => [n]
  | tagged _ content => [content.length]
  | oid arcs => [arcs.length]
  | utf8Text text => [text.utf8ByteSize]
  | bitString bits => [bits.length + 1]
  | smallInteger value => [Der.integerLength [value]]
  | unsigned magnitude => [Der.integerLength magnitude]
  | signatureHalf half => [Der.integerLength half]
  | signature pair => Der.signatureContents pair
  | publicKey key => PublicKeyInfo.contents key
  | subject name => name.contents

/-- How many octets the piece has. -/
def size : Piece → Nat
  | raw bs => bs.length
  | octet _ => 1
  | lengthField n => Der.fieldLength n
  | header _ n | sequenceHeader n => 1 + Der.fieldLength n
  | tagged _ content => elementLength content.length
  | oid arcs => elementLength arcs.length
  | utf8Text text => elementLength text.utf8ByteSize
  | bitString bits => elementLength (bits.length + 1)
  | smallInteger value => elementLength (Der.integerLength [value])
  | unsigned magnitude => elementLength (Der.integerLength magnitude)
  | signatureHalf half => elementLength (Der.integerLength half)
  | signature pair => Der.signatureSize pair
  | publicKey key => PublicKeyInfo.size key
  | subject name => name.size

/-- A number has a magnitude, and the halves of a signature are equally long and not zero. -/
def Shaped : Piece → Prop
  | unsigned magnitude => magnitude ≠ []
  | signatureHalf half => ∃ b ∈ half, b ≠ 0
  | signature pair => Der.IsPair pair
  | _ => True

/-- The piece has an encoding: it is shaped as it should be, and no content in it is too long. -/
def Defined (p : Piece) : Prop := p.Shaped ∧ ∀ c ∈ p.contents, c ≤ maxContent

/-! ## What is known of every piece -/

lemma encodes (p : Piece) : Encodes p.write (p.encoding?.map counted) := by
  cases p with
  | raw bs => exact Der.encodes_raw bs
  | octet b => exact Der.encodes_octet b
  | lengthField n => exact Der.encodes_lengthField n
  | header tag n =>
    rw [encoding?, Option.map_map]
    exact Der.encodes_header tag n
  | sequenceHeader n =>
    rw [encoding?, Option.map_map]
    exact Der.encodes_header _ n
  | tagged tag content => exact Der.encodes_tagged tag content
  | oid arcs => exact Der.encodes_tagged _ arcs
  | utf8Text text => exact Der.encodes_tagged _ (Bytes.ofText text)
  | bitString bits => exact Der.encodes_bitString bits
  | smallInteger value => exact Der.encodes_unsigned [value]
  | unsigned magnitude => exact Der.encodes_unsigned magnitude
  | signatureHalf half => exact Der.encodes_signatureHalf half
  | signature pair => exact Der.encodes_signature pair
  | publicKey key => exact PublicKeyInfo.encodes_write key
  | subject name => exact name.encodes_write

lemma composed (p : Piece) : Composed p.write := by
  cases p with
  | raw bs => exact .raw bs
  | octet b => exact .raw [b]
  | lengthField n => exact Der.composed_lengthField n
  | header tag n => exact Der.composed_header tag n
  | sequenceHeader n => exact Der.composed_header _ n
  | tagged tag content => exact Der.composed_tagged tag content
  | oid arcs => exact Der.composed_tagged _ arcs
  | utf8Text text => exact Der.composed_tagged _ _
  | bitString bits => exact Der.composed_bitString bits
  | smallInteger value => exact Der.composed_unsigned [value]
  | unsigned magnitude => exact Der.composed_unsigned magnitude
  | signatureHalf half => exact Der.composed_signatureHalf half
  | signature pair => exact Der.composed_signature pair
  | publicKey key => exact PublicKeyInfo.composed_write key
  | subject name => exact name.composed_write

lemma measures {p : Piece} (h : p.Shaped) : Measures p.encoding? p.contents p.size := by
  cases p with
  | raw bs => exact Der.measures_some bs
  | octet b => exact Der.measures_some [b]
  | lengthField n => exact Der.measures_lengthOctets? n
  | header tag n => exact Der.measures_header tag n
  | sequenceHeader n => exact Der.measures_header _ n
  | tagged tag content => exact Der.measures_wrap? tag rfl
  | oid arcs => exact Der.measures_wrap? _ rfl
  | utf8Text text => exact Der.measures_wrap? _ rfl
  | bitString bits => exact Der.measures_wrap? _ rfl
  | smallInteger value => exact Der.measures_unsigned? (List.cons_ne_nil _ _)
  | unsigned magnitude => exact Der.measures_unsigned? h
  | signatureHalf half => exact Der.measures_signatureHalf? h
  | signature pair => exact Der.measures_signature? h
  | publicKey key => exact PublicKeyInfo.measures_encode? key
  | subject name => exact name.measures_encode?

lemma encoding?_of_not_shaped {p : Piece} (h : ¬p.Shaped) : p.encoding? = none := by
  cases p with
  | unsigned magnitude =>
    obtain rfl := not_not.1 h
    exact Der.unsigned?_nil
  | signatureHalf half => exact Der.signatureHalf?_of_zero h
  | signature pair => exact Der.signature?_of_not_isPair h
  | _ => exact absurd trivial h

lemma isSome_encoding?_iff (p : Piece) : p.encoding?.isSome ↔ p.Defined := by
  by_cases h : p.Shaped
  · rw [(measures h).isSome_iff, Defined, and_iff_right h]
  · rw [encoding?_of_not_shaped h]
    exact iff_of_false Bool.false_ne_true fun hdefined => h hdefined.1

end Piece

/-- The state after pieces are written one after the other, whether or not each is done. -/
def Tail.afterPieces (t : Tail) (pieces : List Piece) : Tail :=
  pieces.foldl (fun t p => (p.write.run t).state) t

lemma Tail.extends_afterPieces (t : Tail) (pieces : List Piece) :
    t.Extends (t.afterPieces pieces) := by
  induction pieces generalizing t with
  | nil => exact refl_of Tail.Extends t
  | cons p rest ih => exact trans_of Tail.Extends (p.composed.extends_run t) (ih _)

/-- **A write puts one encoding in front.**  However many pieces are written and whichever of them
fail, the buffer keeps its size, what was written before ends what is written, and no octet in front
of the cursor changes.  A write that returns `n` has put `n` octets in front.  A piece has an
encoding exactly if its arguments can be encoded; then the write puts the encoding in front exactly
if there is room for all of it, and otherwise fails because there is not. -/
theorem pieces_put_in_front :
    (∀ (t : Tail) (pieces : List Piece),
      let u := t.afterPieces pieces
      u.buffer.length = t.buffer.length ∧ t.written <:+ u.written ∧
        u.buffer.take u.free.length = t.buffer.take u.free.length) ∧
    (∀ (p : Piece) (t u : Tail) (n : Nat), p.write.Returns t n u →
      ∃ front : Bytes, front.length = n ∧ u.written = front ++ t.written) ∧
    (∀ p : Piece, p.encoding?.isSome ↔ p.Defined) ∧
    (∀ p : Piece, p.Defined → ∃ encoding, p.encoding? = some encoding ∧
      encoding.length = p.size ∧ Prepends p.write encoding) := by
  refine ⟨fun t pieces => ?_, fun p t u n => p.encodes.written_of_returns,
    Piece.isSome_encoding?_iff, fun p hdefined => ?_⟩
  · have hextends := t.extends_afterPieces pieces
    exact ⟨hextends.size, hextends.written, hextends.take_buffer⟩
  · obtain ⟨encoding, hencoding, hsize⟩ := (Piece.measures hdefined.1).exists_of_le hdefined.2
    exact ⟨encoding, hencoding, hsize, p.encodes.prepends hencoding⟩

/-- A text for whose tag there is no room leaves the rest of its encoding behind, in front of the
octet that was there.  A number of four octets is written into four free octets, and not into
three. -/
theorem pieces_put_in_front_plain :
    let t : Tail := ⟨[1, 2, 3], [0x55]⟩
    t.afterPieces [.utf8Text "ab"] = ⟨[], [0x02, 0x61, 0x62, 0x55]⟩ ∧
      [0x55] <:+ (t.afterPieces [.utf8Text "ab"]).written ∧
      (Piece.unsigned [0x80]).Defined ∧
      (Der.unsigned [0x80]).Returns ⟨[1, 2, 3, 4], [0x55]⟩ 4 ⟨[], [0x02, 0x02, 0x00, 0x80, 0x55]⟩ ∧
      ∃ u, (Der.unsigned [0x80]).Fails t .bufferTooSmall u := by
  intro t
  have hdefined : (Piece.unsigned [0x80]).Defined := ⟨List.cons_ne_nil _ _, by decide⟩
  obtain ⟨encoding, hencoding, -, hprepends⟩ :=
    pieces_put_in_front.2.2.2 (.unsigned [0x80]) hdefined
  obtain rfl : [0x02, 0x02, 0x00, 0x80] = encoding := Option.some.inj hencoding
  refine ⟨rfl, (pieces_put_in_front.1 t [.utf8Text "ab"]).2.1, hdefined, ?_, ?_⟩
  · exact (hprepends ⟨[1, 2, 3, 4], [0x55]⟩).1.2 (by decide)
  · exact (hprepends t).2.2 (by decide)

end DeviceIdentity
