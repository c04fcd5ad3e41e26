import Mathlib.Data.List.Basic
import Mathlib.Tactic.Lemma
import DeviceIdentity.Hash.Sha256

/-!
# Digests that a proof computes

A schedule is an array that grows at its end.  In a proof an array is a list, and its end is far
away, so that most of the work for a digest would be to get there; and a word is computed only where
it is used, so that the digest of a long message would wait for all blocks at once.  Here the newest
word stands in front, and the words that go into a block are computed before the block is.

* `extendFront`, `scheduleFront` — the schedule as a list that grows in front; `schedule_eq` — of a
  block of sixteen words it is the same.
* `force`, `forceWords` — numbers and words that are computed before they are used.
* `length_pad`, `length_of_mem_blocks` — a padded message is cut into blocks of sixteen words.
* **`hash_eq`** — the digest of a message, computed in this way.
-/

namespace DeviceIdentity

namespace Sha256

/-! ## The schedule -/

/-- One more word in front of a schedule. -/
def extendFront (w : List UInt32) : List UInt32 :=
  let x := w.getD 14 0
  let y := w.getD 1 0
  let s0 := rotateRight x 7 ^^^ rotateRight x 18 ^^^ (x >>> 3)
  let s1 := rotateRight y 17 ^^^ rotateRight y 19 ^^^ (y >>> 10)
  (w.getD 15 0 + s0 + w.getD 6 0 + s1) :: w

/-- The schedule of a block. -/
def scheduleFront (block : List UInt32) : List UInt32 :=
  (Nat.repeat extendFront 48 block.reverse).reverse

/-- Counted from the end, the words are those of the reversed list. -/
lemma getD_size_sub (w : Array UInt32) {n : Nat} (hpos : 0 < n) (hn : n ≤ w.size) :
    w.getD (w.size - n) 0 = w.toList.reverse.getD (n - 1) 0 := by
  have hlength : w.toList.length = w.size := Array.length_toList
  rw [Array.getD_eq_getD_getElem?, List.getD_eq_getElem?_getD, List.getElem?_reverse (by omega),
    ← Array.getElem?_toList]
  congr 2
  omega

lemma toList_extend {w : Array UInt32} (h : 16 ≤ w.size) :
    (extend w).toList.reverse = extendFront w.toList.reverse := by
  have hback : ∀ n, 0 < n → n ≤ 16 →
      w.getD (w.size - n) 0 = w.toList.reverse.getD (n - 1) 0 :=
    fun n hpos hn => getD_size_sub w hpos (Nat.le_trans hn h)
  simp only [extend, extendFront, Array.toList_push, List.reverse_append, List.reverse_singleton,
    List.singleton_append]
  rw [hback 16 (by decide) (by decide), hback 15 (by decide) (by decide),
    hback 7 (by decide) (by decide), hback 2 (by decide) (by decide)]

lemma toList_repeat_extend {w : Array UInt32} (h : 16 ≤ w.size) (count : Nat) :
    16 ≤ (Nat.repeat extend count w).size ∧
      (Nat.repeat extend count w).toList.reverse =
        Nat.repeat extendFront count w.toList.reverse := by
  induction count with
  | zero => exact ⟨h, rfl⟩
  | succ count ih =>
    obtain ⟨hsize, hwords⟩ := ih
    refine ⟨?_, ?_⟩
    · rw [Nat.repeat, extend, Array.size_push]
      omega
    · rw [Nat.repeat, Nat.repeat, toList_extend hsize, hwords]

/-- Grown at either end, the schedule of a block is the same. -/
lemma schedule_eq {block : List UInt32} (h : 16 ≤ block.length) :
    schedule block = scheduleFront block := by
  rw [schedule, scheduleFront, ← (toList_repeat_extend (w := block.toArray) h 48).2,
    List.reverse_reverse]

/-! ## Whole blocks -/

/-- A padded message has a whole number of blocks of 64 octets. -/
lemma length_pad (message : Bytes) : (pad message).length % 64 = 0 := by
  simp only [pad, List.length_append, List.length_cons, List.length_replicate, Bytes.length_ofNat]
  omega

lemma length_words (bs : Bytes) : (words bs).length = bs.length / 4 := by
  induction bs using words.induct with
  | case1 w x y z rest ih =>
    rw [words, List.length_cons, ih]
    simp only [List.length_cons]
    omega
  | case2 bs hshort =>
    rw [words.eq_2 bs hshort]
    match bs with
    | [] | [_] | [_, _] | [_, _, _] => simp
    | w :: x :: y :: z :: rest => exact (hshort w x y z rest rfl).elim

/-- Words are cut into whole blocks if their number allows it. -/
lemma length_of_mem_blocks {xs block : List UInt32} (hlength : xs.length % 16 = 0)
    (h : block ∈ rows 16 xs) : block.length = 16 := by
  generalize hwidth : 16 = width at h
  fun_induction rows width xs with
  | case1 => cases h
  | case2 x xs ih =>
    subst hwidth
    rw [List.length_cons] at hlength
    rcases List.mem_cons.1 h with rfl | h
    · rw [List.length_cons, List.length_take]
      omega
    · exact ih (by rw [List.length_drop]; omega) h

/-! ## Computing before use -/

/-- What `use` makes of a number.  Whether it is zero has to be known first, so by then the number
is computed. -/
def force {α : Type} (n : Nat) (use : Nat → α) : α :=
  match n with
  | 0 => use 0
  | m + 1 => use (m + 1)

lemma force_eq {α : Type} (n : Nat) (use : Nat → α) : force n use = use n := by
  cases n <;> rfl

/-- What `use` makes of words, each of which is computed by then. -/
def forceWords {α : Type} : List UInt32 → (List UInt32 → α) → α
  | [], use => use []
  | w :: ws, use => force w.toNat fun n => forceWords ws fun ws => use (UInt32.ofNat n :: ws)

lemma forceWords_eq {α : Type} (ws : List UInt32) (use : List UInt32 → α) :
    forceWords ws use = use ws := by
  induction ws generalizing use with
  | nil => rfl
  | cons w ws ih => rw [forceWords, force_eq, ih, UInt32.ofNat_toNat]

/-- The words of a state. -/
def State.words (s : State) : List UInt32 := [s.a, s.b, s.c, s.d, s.e, s.f, s.g, s.h]

/-- The state of eight words. -/
def State.ofWords : List UInt32 → State
  | [a, b, c, d, e, f, g, h] => ⟨a, b, c, d, e, f, g, h⟩
  | _ => initial

/-! ## Digests -/

/-- The state after a block, from a state and a block that are computed by then. -/
def compressFront (s : State) (block : List UInt32) : State :=
  forceWords s.words fun words =>
    forceWords block fun block =>
      let s := State.ofWords words
      let t := (roundConstants.zip (scheduleFront block)).foldl (fun t (k, w) => round t k w) s
      ⟨s.a + t.a, s.b + t.b, s.c + t.c, s.d + t.d, s.e + t.e, s.f + t.f, s.g + t.g, s.h + t.h⟩

lemma compress_eq (s : State) {block : List UInt32} (h : 16 ≤ block.length) :
    compress s block = compressFront s block := by
  simp only [compress, compressFront, schedule_eq h, forceWords_eq, State.words, State.ofWords]

/-- The digest of a message, block by block. -/
def hashFront (message : Bytes) : Bytes :=
  ((rows 16 (words (pad message))).foldl compressFront initial).octets

/-- **The digest of a message is the one that is computed block by block.** -/
lemma hash_eq (message : Bytes) : hash message = hashFront message := by
  have hwords : (words (pad message)).length % 16 = 0 := by
    have hpad := length_pad message
    rw [length_words]
    omega
  refine congrArg State.octets (List.foldl_ext _ _ _ fun s block hblock => ?_)
  exact compress_eq s (Nat.le_of_eq (length_of_mem_blocks hwords hblock).symm)

end Sha256

end DeviceIdentity
