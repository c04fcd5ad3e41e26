import DeviceIdentity.Proofs.Provision.Layout

/-!
# A record in a buffer of any size

A record is copied segment by segment, and the copy ends at the first segment that does not fit.  A
later segment may be shorter than that one, or have no octets at all, and is not copied even so.
The size of a record and the place where the next segment goes are counted separately, so it has to
be shown that a record fits as a whole exactly if each segment fits in its turn.

* `LongestRun` — the leading segments that fit, and no fewer; `LongestRun.unique` — there is only
  one such run.
* `LongestRun.cons`, `LongestRun.stop` — what one segment does to the run.
* `exists_longestRun` — copying segments leaves the longest run of them in the buffer.
* `eq_of_flatten_segments` — the octets of a record tell the record from all others whose
  certificate is as long.
* `HandOver.get_of_le`, `HandOver.get_of_lt` — a record that is stored, in a buffer that is large
  enough for it, and in one that is not.
* **`HandOver.copied_as_far_as_it_fits`** — what becomes of a buffer, whatever its size.
-/

namespace DeviceIdentity

namespace ProvisionRecord

/-! ## The leading segments that fit -/

/-- The leading segments `run` fit into `room` octets, and no longer run of leading segments
does. -/
structure LongestRun (segments : List Bytes) (room : Nat) (run : List Bytes) : Prop where
  leads : run <+: segments
  fits : run.flatten.length ≤ room
  longest : ∀ other, other <+: segments → other.flatten.length ≤ room → other <+: run

namespace LongestRun

variable {segment : Bytes} {segments run other : List Bytes} {room : Nat}

lemma unique (h : LongestRun segments room run) (h' : LongestRun segments room other) :
    run = other :=
  (h'.longest run h.leads h.fits).eq_of_length_le (h.longest other h'.leads h'.fits).length_le

lemma nil (room : Nat) : LongestRun [] room [] where
  leads := List.nil_prefix
  fits := Nat.zero_le room
  longest := fun _ hleads _ => hleads

/-- A segment that fits goes in front of the longest run of the others. -/
lemma cons (hfits : segment.length ≤ room)
    (h : LongestRun segments (room - segment.length) run) :
    LongestRun (segment :: segments) room (segment :: run) where
  leads := List.cons_prefix_cons.2 ⟨rfl, h.leads⟩
  fits := by
    have hrest := h.fits
    simp only [List.flatten_cons, List.length_append]
    omega
  longest := by
    intro other hleads hroom
    cases other with
    | nil => exact List.nil_prefix
    | cons first rest =>
      obtain ⟨rfl, hrest⟩ := List.cons_prefix_cons.1 hleads
      simp only [List.flatten_cons, List.length_append] at hroom
      exact List.cons_prefix_cons.2 ⟨rfl, h.longest rest hrest (by omega)⟩

/-- A segment that does not fit ends the run, whatever comes after it. -/
lemma stop (hfull : room < segment.length) (segments : List Bytes) :
    LongestRun (segment :: segments) room [] where
  leads := List.nil_prefix
  fits := Nat.zero_le room
  longest := by
    intro other hleads hroom
    cases other with
    | nil => exact List.nil_prefix
    | cons first rest =>
      obtain ⟨rfl, -⟩ := List.cons_prefix_cons.1 hleads
      simp only [List.flatten_cons, List.length_append] at hroom
      omega

/-- The run is all of the segments exactly if there is room for all of them. -/
lemma eq_iff (h : LongestRun segments room run) :
    run = segments ↔ segments.flatten.length ≤ room := by
  constructor
  · rintro rfl
    exact h.fits
  · intro hroom
    exact h.leads.eq_of_length_le (h.longest segments List.prefix_rfl hroom).length_le

end LongestRun

/-! ## Copying -/

/-- Copying leaves the longest run of segments that fits in the free octets, and succeeds if that is
all of them. -/
lemma exists_longestRun (segments : List Bytes) (done free : Bytes) :
    ∃ run, LongestRun segments free.length run ∧
      writeSegments done free segments =
        (if run = segments then .ok (done.length + run.flatten.length) else .error .bufferTooSmall,
          done ++ (run.flatten ++ free.drop run.flatten.length)) := by
  induction segments generalizing done free with
  | nil => exact ⟨[], .nil free.length, rfl⟩
  | cons segment rest ih =>
    by_cases hfits : segment.length ≤ free.length
    · obtain ⟨run, hrun, hrest⟩ := ih (done ++ segment) (free.drop segment.length)
      rw [List.length_drop] at hrun
      refine ⟨segment :: run, hrun.cons hfits, ?_⟩
      simp [writeSegments, hfits, hrest, Nat.add_assoc]
    · refine ⟨[], .stop (Nat.lt_of_not_le hfits) rest, ?_⟩
      simp [writeSegments, hfits]

lemma write_of_lt {record : ProvisionRecord} {buffer : Bytes} (h : buffer.length < record.size) :
    ∃ run, LongestRun record.segments buffer.length run ∧
      record.write buffer =
        (.error .bufferTooSmall, run.flatten ++ buffer.drop run.flatten.length) := by
  obtain ⟨run, hrun, hwrite⟩ := exists_longestRun record.segments [] buffer
  have hne : run ≠ record.segments := by
    intro heq
    have hroom := hrun.eq_iff.1 heq
    rw [length_flatten_segments] at hroom
    omega
  rw [if_neg hne] at hwrite
  exact ⟨run, hrun, hwrite⟩

/-! ## Telling records apart -/

lemma ofText_inj {a b : String} : Bytes.ofText a = Bytes.ofText b ↔ a = b := by
  constructor
  · intro h
    have hread := congrArg Bytes.toText? h
    simpa using hread
  · rintro rfl
    rfl

/-- The port is in the last two octets, so that a zero octet in the name does no harm here: the name
is what is left between the certificate and the last three octets. -/
lemma eq_of_flatten_segments {record other : ProvisionRecord}
    (hlength : other.certificate.length = record.certificate.length)
    (h : other.segments.flatten = record.segments.flatten) : other = record := by
  rw [flatten_segments, flatten_segments] at h
  obtain ⟨hcertificate, hrest⟩ := List.append_inj h hlength
  have hlast : (0 :: Bytes.ofNat 2 other.hubPort.toNat).length =
      (0 :: Bytes.ofNat 2 record.hubPort.toNat).length := by simp
  obtain ⟨hname, hport⟩ := List.append_inj' hrest hlast
  have hnumber : other.hubPort.toNat = record.hubPort.toNat := by
    have hread := congrArg Bytes.toNat (List.cons.inj hport).2
    rw [Bytes.toNat_ofNat, Bytes.toNat_ofNat] at hread
    have hother := other.hubPort.toNat_lt
    have hrecord := record.hubPort.toNat_lt
    omega
  cases other
  cases record
  simp_all [ofText_inj, UInt16.toNat_inj]

end ProvisionRecord

namespace HandOver

open ProvisionRecord (LongestRun)

variable {record other : ProvisionRecord} {buffer buffer' : Bytes} {n n' : Nat}

/-! ## The record stored last -/

lemma get_of_le (h : record.size ≤ buffer.length) :
    get (some record) buffer =
      (.ok record.size, record.segments.flatten ++ buffer.drop record.size) :=
  ProvisionRecord.write_of_le h

lemma get_of_lt (h : buffer.length < record.size) :
    ∃ run, LongestRun record.segments buffer.length run ∧
      get (some record) buffer =
        (.error .bufferTooSmall, run.flatten ++ buffer.drop run.flatten.length) :=
  ProvisionRecord.write_of_lt h

lemma get_eq_ok_iff :
    (get (some record) buffer).1 = .ok n ↔ n = record.size ∧ record.size ≤ buffer.length := by
  rcases Nat.lt_or_ge buffer.length record.size with hlt | hle
  · obtain ⟨run, -, hget⟩ := get_of_lt hlt
    simp [hget, Nat.not_le_of_lt hlt]
  · simp [get_of_le hle, hle, eq_comm]

/-- What is copied tells the record from every other one whose certificate is as long. -/
lemma eq_of_get (h : (get (some record) buffer).1 = .ok n)
    (h' : (get (some other) buffer').1 = .ok n')
    (hlength : other.certificate.length = record.certificate.length)
    (hsame : (get (some other) buffer').2.take n' = (get (some record) buffer).2.take n) :
    other = record := by
  obtain ⟨rfl, hle⟩ := get_eq_ok_iff.1 h
  obtain ⟨rfl, hle'⟩ := get_eq_ok_iff.1 h'
  rw [get_of_le hle, get_of_le hle', List.take_left' other.length_flatten_segments,
    List.take_left' record.length_flatten_segments] at hsame
  exact ProvisionRecord.eq_of_flatten_segments hlength hsame

/-! ## The main result -/

/-- **A record is copied as far as it fits.**  Whatever was there before, once a record is stored,
it is copied to the front of a buffer and its size returned exactly if the buffer has at least that
size, and the octets behind it stay.  In a smaller buffer the longest run of whole segments that
fits is left at the front, all other octets stay, and the buffer is reported as too small.  Without
a record, nothing is written.  A buffer of just the size is filled, and what is written tells the
record from every other one whose certificate is as long. -/
theorem copied_as_far_as_it_fits (before : HandOver) (record : ProvisionRecord) (buffer : Bytes) :
    let segments := [record.certificate, Bytes.ofText record.hubName, [0],
      Bytes.ofNat 2 record.hubPort.toNat]
    let got := get ((store record).run before).state buffer
    (∀ n, got.1 = .ok n ↔ n = record.size ∧ record.size ≤ buffer.length) ∧
    (record.size ≤ buffer.length →
      got.2 = segments.flatten ++ buffer.drop record.size ∧
      segments.flatten.length = record.size) ∧
    (buffer.length < record.size →
      got.1 = .error .bufferTooSmall ∧
      ∃ run, LongestRun segments buffer.length run ∧
        got.2 = run.flatten ++ buffer.drop run.flatten.length) ∧
    get none buffer = (.error .notProvisioned, buffer) ∧
    (buffer.length = record.size → got = (.ok record.size, segments.flatten)) ∧
    ∀ other buffer' n n', got.1 = .ok n → (get (some other) buffer').1 = .ok n' →
      other.certificate.length = record.certificate.length →
      (get (some other) buffer').2.take n' = got.2.take n → other = record := by
  intro segments got
  refine ⟨fun n => get_eq_ok_iff, fun hle => ⟨?_, record.length_flatten_segments⟩, fun hlt => ?_,
    rfl, fun heq => ?_, fun other buffer' n n' => eq_of_get⟩
  · exact congrArg Prod.snd (get_of_le hle)
  · obtain ⟨run, hrun, hget⟩ := get_of_lt hlt
    exact ⟨congrArg Prod.fst hget, run, hrun, congrArg Prod.snd hget⟩
  · have hget := get_of_le heq.ge
    rw [List.drop_of_length_le heq.le, List.append_nil] at hget
    exact hget

/-- The record of a hub with a name of one character, in a buffer with an octet to spare, and in one
of four octets, where all but the port fits. -/
theorem copied_as_far_as_it_fits_short_name :
    let record : ProvisionRecord := ⟨[0xAA, 0xBB], "h", 1883⟩
    let written : Bytes := [0xAA, 0xBB, 0x68, 0x00, 0x07, 0x5B, 7]
    record.size ≤ 7 ∧ get (some record) [1, 2, 3, 4, 5, 6, 7] = (.ok 6, written) ∧
      4 < record.size ∧
      get (some record) [1, 2, 3, 4] = (.error .bufferTooSmall, [0xAA, 0xBB, 0x68, 0x00]) ∧
      ∀ other : ProvisionRecord, other.certificate.length = 2 →
        get (some other) [1, 2, 3, 4, 5, 6, 7] = (.ok 6, written) → other = record := by
  intro record written
  obtain ⟨hok, hroom, -, -, -, htell⟩ :=
    copied_as_far_as_it_fits none record [1, 2, 3, 4, 5, 6, 7]
  obtain ⟨-, -, hshort, -⟩ := copied_as_far_as_it_fits none record [1, 2, 3, 4]
  have hsize : record.size ≤ 7 := by decide
  have hlarge : get (some record) [1, 2, 3, 4, 5, 6, 7] = (.ok 6, written) :=
    Prod.ext ((hok 6).2 ⟨by decide, hsize⟩) ((hroom hsize).1.trans (by decide))
  have hlt : 4 < record.size := by decide
  obtain ⟨hfailure, run, hrun, hbuffer⟩ := hshort hlt
  have hthree : LongestRun record.segments 4 [[0xAA, 0xBB], [0x68], [0x00]] :=
    .cons (by decide) (.cons (by decide) (.cons (by decide) (.stop (by decide) [])))
  rw [hrun.unique hthree] at hbuffer
  refine ⟨hsize, hlarge, hlt, Prod.ext hfailure hbuffer, fun other hlength hother => ?_⟩
  have hsame := congrArg Prod.snd (hother.trans hlarge.symm)
  exact htell other _ 6 6 (congrArg Prod.fst hlarge) (congrArg Prod.fst hother) hlength
    (congrArg (List.take 6) hsame)

end HandOver

end DeviceIdentity
