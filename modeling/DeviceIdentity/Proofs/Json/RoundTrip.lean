import Mathlib.Data.List.Forall2
import Mathlib.Tactic.Lemma
import Mathlib.Tactic.SplitIfs
import DeviceIdentity.Json.Reader
import DeviceIdentity.Proofs.Json.Number

/-!
# What is written in JSON reads back

A text is read in two passes, into tokens and from tokens into a value, and so is what is proved of
it.  Tokens are said to be spelled by a text when scanning the text gives these tokens in front of
all that may follow; then spellings can be put one after the other.  Only what ends in a number is
particular about what follows, and in a value that is a mark.

* `readString?_escape` — a string reads back from its escaped characters.
* `Spells` — a text spells tokens; `Spells.append` — one text after another;
  `spells_intercalate` — texts with commas between them.
* `Json.IsWritable` — all numbers of a value have a spelling; `tokens` — what a value is read from.
* `spells_print` — the text of a value spells its tokens; `readValue?_tokens` — and these are read
  as the value.
* **`parse?_print`** — a value reads back; `parse?_object_text` — so does an object of one text.
-/

namespace DeviceIdentity

namespace JsonToken

open Json (escape quote)

/-! ## Strings -/

/-- A control character reads back from the number of its code unit. -/
lemma codeUnit?_control : ∀ n < 32,
    codeUnit? '0' '0' (Hex.digit (n / 16)) (Hex.digit (n % 16)) = some n := by
  decide

lemma readString?_unescape {shown c : Char} (hshown : shown ≠ 'u') (h : unescape? shown = some c)
    (rest : List Char) :
    readString? ('\\' :: shown :: rest) =
      (readString? rest).map fun (cs, tail) => (c :: cs, tail) := by
  rw [readString?.eq_4 shown rest fun _ _ _ _ _ hu _ => hshown hu, h]

lemma readString?_control {c : Char} (h : c.toNat < 32) (rest : List Char) :
    readString? ('\\' :: 'u' :: '0' :: '0' :: Hex.digit (c.toNat / 16) ::
        Hex.digit (c.toNat % 16) :: rest) =
      (readString? rest).map fun (cs, tail) => (c :: cs, tail) := by
  have hhigh : isHighHalf c.toNat = false := by
    rw [isHighHalf, Bool.and_eq_false_iff]
    exact .inl (decide_eq_false (by omega))
  have hlow : isLowHalf c.toNat = false := by
    rw [isLowHalf, Bool.and_eq_false_iff]
    exact .inl (decide_eq_false (by omega))
  rw [readString?.eq_3, codeUnit?_control c.toNat h]
  simp only [hhigh, hlow, Bool.false_eq_true, if_false, Char.ofNat_toNat]

lemma readString?_plain {c : Char} (hquote : c ≠ '"') (hbackslash : c ≠ '\\')
    (hcontrol : ¬c.toNat < 32) (rest : List Char) :
    readString? (c :: rest) = (readString? rest).map fun (cs, tail) => (c :: cs, tail) := by
  rw [readString?.eq_5 c rest hquote (fun _ _ _ _ _ h _ => hbackslash h)
    (fun _ _ h _ => hbackslash h), if_neg (not_or.2 ⟨hcontrol, hbackslash⟩)]

/-- A character reads back as it is written in a string. -/
lemma readString?_escape_append (c : Char) (rest : List Char) :
    readString? (escape c ++ rest) =
      (readString? rest).map fun (cs, tail) => (c :: cs, tail) := by
  unfold escape
  split_ifs with hquote hbackslash hbackspace hfeed hline hreturn htab hcontrol
  · exact readString?_unescape (by decide) (by rw [hquote]; rfl) rest
  · exact readString?_unescape (by decide) (by rw [hbackslash]; rfl) rest
  · exact readString?_unescape (by decide) (by rw [hbackspace]; rfl) rest
  · exact readString?_unescape (by decide) (by rw [hfeed]; rfl) rest
  · exact readString?_unescape (by decide) (by rw [hline]; rfl) rest
  · exact readString?_unescape (by decide) (by rw [hreturn]; rfl) rest
  · exact readString?_unescape (by decide) (by rw [htab]; rfl) rest
  · exact readString?_control hcontrol rest
  · exact readString?_plain hquote hbackslash hcontrol rest

/-- **A string reads back from its escaped characters.** -/
lemma readString?_escape (cs rest : List Char) :
    readString? (cs.flatMap escape ++ '"' :: rest) = some (cs, rest) := by
  induction cs with
  | nil => rw [List.flatMap_nil, List.nil_append, readString?.eq_2]
  | cons c cs ih =>
    rw [List.flatMap_cons, List.append_assoc, readString?_escape_append, ih, Option.map_some]

/-! ## Tokens -/

/-- Scanning the characters gives the tokens in front of what may follow, and no token takes no
character. -/
structure Spells (follows : List Char → Prop) (cs : List Char) (tokens : List JsonToken) :
    Prop where
  length_le : tokens.length ≤ cs.length
  scanned : ∀ rest fuel, follows rest →
    scanWithin? (tokens.length + fuel) (cs ++ rest) = (scanWithin? fuel rest).map (tokens ++ ·)

/-- Whatever follows. -/
def Anything (_ : List Char) : Prop := True

variable {follows follows' : List Char → Prop} {cs cs' : List Char}
  {tokens tokens' : List JsonToken}

lemma Spells.mono (h : Spells Anything cs tokens) : Spells follows cs tokens :=
  ⟨h.length_le, fun rest fuel _ => h.scanned rest fuel trivial⟩

lemma Spells.append (h : Spells follows cs tokens) (h' : Spells follows' cs' tokens')
    (hfollows : ∀ rest, follows' rest → follows (cs' ++ rest)) :
    Spells follows' (cs ++ cs') (tokens ++ tokens') where
  length_le := by
    rw [List.length_append, List.length_append]
    exact Nat.add_le_add h.length_le h'.length_le
  scanned rest fuel hrest := by
    rw [List.length_append, Nat.add_assoc, List.append_assoc, h.scanned _ _ (hfollows rest hrest),
      h'.scanned _ _ hrest, Option.map_map]
    congr 1
    funext later
    exact (List.append_assoc ..).symm

/-- Characters that are read as one token spell this token. -/
lemma spells_one {first : Char} {token : JsonToken} (hspace : isSpace first = false)
    (h : ∀ rest, follows rest → read? (first :: (cs ++ rest)) = some (token, rest)) :
    Spells follows (first :: cs) [token] where
  length_le := by simp
  scanned rest fuel hrest := by
    have hkept : (first :: (cs ++ rest)).dropWhile isSpace = first :: (cs ++ rest) :=
      List.dropWhile_cons_of_neg (by simp [hspace])
    rw [List.length_singleton, Nat.add_comm, List.cons_append, scanWithin?, hkept]
    simp only [Option.bind_eq_bind, h rest hrest, Option.bind_some]
    cases scanWithin? fuel rest <;> rfl

lemma spells_openBrace : Spells Anything ['\x7b'] [.openBrace] :=
  spells_one (by decide) fun _ _ => by rw [read?]; rfl

lemma spells_closeBrace : Spells Anything ['\x7d'] [.closeBrace] :=
  spells_one (by decide) fun _ _ => by rw [read?]; rfl

lemma spells_openBracket : Spells Anything ['['] [.openBracket] :=
  spells_one (by decide) fun _ _ => by rw [read?]; rfl

lemma spells_closeBracket : Spells Anything [']'] [.closeBracket] :=
  spells_one (by decide) fun _ _ => by rw [read?]; rfl

lemma spells_colon : Spells Anything [':'] [.colon] :=
  spells_one (by decide) fun _ _ => by rw [read?]; rfl

lemma spells_comma : Spells Anything [','] [.comma] :=
  spells_one (by decide) fun _ _ => by rw [read?]; rfl

lemma spells_null : Spells Anything "null".toList [.null] := by
  have hchars : "null".toList = ['n', 'u', 'l', 'l'] := by decide
  rw [hchars]
  exact spells_one (by decide) fun rest _ => read?.eq_7 rest

lemma spells_bool (value : Bool) :
    Spells Anything (if value then "true" else "false").toList [.bool value] := by
  have htrue : "true".toList = ['t', 'r', 'u', 'e'] := by decide
  have hfalse : "false".toList = ['f', 'a', 'l', 's', 'e'] := by decide
  cases value with
  | true =>
    rw [if_pos rfl, htrue]
    exact spells_one (by decide) fun rest _ => read?.eq_8 rest
  | false =>
    rw [if_neg Bool.false_ne_true, hfalse]
    exact spells_one (by decide) fun rest _ => read?.eq_9 rest

lemma spells_quote (value : String) : Spells Anything (quote value).toList [text value] := by
  rw [quote, String.toList_ofList]
  refine spells_one (by decide) fun rest _ => ?_
  rw [List.append_assoc, List.singleton_append, read?, readString?_escape, Option.map_some]
  simp only [String.ofList_toList]

lemma spells_number {value : JsonNumber} (h : value.IsWritable) :
    Spells EndsNumber value.print.toList [number value] := by
  obtain ⟨first, cs, hcs, hspace⟩ := isSpace_head_number value
  rw [hcs]
  refine spells_one hspace fun rest hrest => ?_
  have hread := read?_number h hrest
  rwa [hcs] at hread

/-- No mark is part of a number. -/
lemma endsNumber_mark {mark : Char} (h : mark ∈ [',', ']', '\x7d']) (rest : List Char) :
    EndsNumber (mark :: rest) := by
  rintro _ ⟨⟩
  simp only [List.mem_cons, List.not_mem_nil, or_false] at h
  rcases h with rfl | rfl | rfl
  · decide
  · decide
  · decide

/-- Texts with commas between them spell what each of them spells, with commas between. -/
lemma spells_intercalate {texts : List (List Char)} {spelled : List (List JsonToken)}
    (h : List.Forall₂ (Spells EndsNumber) texts spelled) :
    Spells EndsNumber ([','].intercalate texts) ([.comma].intercalate spelled) := by
  induction h with
  | nil => exact ⟨Nat.le_refl 0, fun rest fuel _ => by simp⟩
  | cons hfirst hrest ih =>
    cases hrest with
    | nil => simpa using hfirst
    | cons hnext hmore =>
      rw [List.intercalate_cons_cons, List.intercalate_cons_cons]
      exact (hfirst.append spells_comma fun rest _ => endsNumber_mark (by decide) rest).append ih
        fun _ _ => trivial

/-- A text that is spelled to its end is scanned. -/
lemma scan?_of_spells {value : String} (h : Spells EndsNumber value.toList tokens) :
    scan? value = some tokens := by
  obtain ⟨spare, hspare⟩ := Nat.exists_eq_add_of_le h.length_le
  have hscan := h.scanned [] (spare + 1) nofun
  rw [List.append_nil, ← Nat.add_assoc, ← hspare] at hscan
  rw [scan?, hscan, scanWithin?]
  simp

end JsonToken

/-! ## Values -/

namespace Json

open JsonToken (Spells Anything EndsNumber endsNumber_mark)

/-- All numbers of the value have a spelling. -/
inductive IsWritable : Json → Prop
  | null : IsWritable null
  | bool (value : Bool) : IsWritable (bool value)
  | number {value : JsonNumber} (h : value.IsWritable) : IsWritable (number value)
  | text (value : String) : IsWritable (text value)
  | array {items : List Json} (h : ∀ item ∈ items, IsWritable item) : IsWritable (array items)
  | object {members : List (String × Json)} (h : ∀ m ∈ members, IsWritable m.2) :
      IsWritable (object members)

mutual

/-- The tokens of a value. -/
def tokens : Json → List JsonToken
  | null => [.null]
  | bool value => [.bool value]
  | number value => [.number value]
  | text value => [.text value]
  | array items => .openBracket :: ([.comma].intercalate (tokensAll items) ++ [.closeBracket])
  | object members =>
    .openBrace :: ([.comma].intercalate (tokensMembers members) ++ [.closeBrace])

/-- The tokens of values. -/
def tokensAll : List Json → List (List JsonToken)
  | [] => []
  | item :: rest => tokens item :: tokensAll rest

/-- The tokens of members. -/
def tokensMembers : List (String × Json) → List (List JsonToken)
  | [] => []
  | (name, value) :: rest => (.text name :: .colon :: tokens value) :: tokensMembers rest

end

/-! ### From a value to its tokens -/

lemma spells_printAll {items : List Json}
    (h : ∀ item ∈ items, Spells EndsNumber item.print.toList item.tokens) :
    List.Forall₂ (Spells EndsNumber) ((printAll items).map String.toList) (tokensAll items) := by
  induction items with
  | nil => exact .nil
  | cons item items ih =>
    rw [printAll, tokensAll]
    exact .cons (h item (.head _)) (ih fun other hmem => h other (.tail _ hmem))

lemma spells_printMembers {members : List (String × Json)}
    (h : ∀ m ∈ members, Spells EndsNumber m.2.print.toList m.2.tokens) :
    List.Forall₂ (Spells EndsNumber) ((printMembers members).map String.toList)
      (tokensMembers members) := by
  induction members with
  | nil => exact .nil
  | cons member members ih =>
    obtain ⟨name, value⟩ := member
    rw [printMembers, tokensMembers]
    refine .cons ?_ (ih fun other hmem => h other (.tail _ hmem))
    rw [String.toList_append, String.toList_append]
    exact ((JsonToken.spells_quote name).append JsonToken.spells_colon fun _ _ => trivial).append
      (h _ (.head _)) fun _ _ => trivial

/-- **The text of a value spells its tokens.** -/
lemma spells_print {value : Json} (h : value.IsWritable) :
    Spells EndsNumber value.print.toList value.tokens := by
  induction h with
  | null => exact JsonToken.spells_null.mono
  | bool value => exact (JsonToken.spells_bool value).mono
  | number h => exact JsonToken.spells_number h
  | text value => exact (JsonToken.spells_quote value).mono
  | array _ ih =>
    rw [print, tokens, String.toList_append, String.toList_append, String.toList_intercalate]
    have hitems := JsonToken.spells_intercalate (spells_printAll ih)
    exact (JsonToken.spells_openBracket.append hitems fun _ _ => trivial).append
      JsonToken.spells_closeBracket.mono fun rest _ => endsNumber_mark (by decide) rest
  | object _ ih =>
    rw [print, tokens, String.toList_append, String.toList_append, String.toList_intercalate]
    have hmembers := JsonToken.spells_intercalate (spells_printMembers ih)
    exact (JsonToken.spells_openBrace.append hmembers fun _ _ => trivial).append
      JsonToken.spells_closeBrace.mono fun rest _ => endsNumber_mark (by decide) rest

/-! ### From the tokens to the value -/

/-- With enough fuel the tokens are read as the value, whatever follows. -/
def ReadsBack (value : Json) : Prop :=
  ∀ fuel rest, 2 * value.tokens.length ≤ fuel →
    readValue? fuel (value.tokens ++ rest) = some (value, rest)

/-- What is between commas starts with its first part. -/
lemma exists_intercalate_cons (first : List JsonToken) (others : List (List JsonToken)) :
    ∃ later, [.comma].intercalate (first :: others) = first ++ later := by
  cases others with
  | nil => exact ⟨[], by simp⟩
  | cons next more => exact ⟨_, by rw [List.intercalate_cons_cons, List.append_assoc]⟩

/-- No value starts with the end of an array. -/
lemma tokens_append_ne (value : Json) (rest more : List JsonToken) :
    value.tokens ++ rest ≠ .closeBracket :: more := by
  cases value <;> simp [tokens]

lemma readItems?_tokens {items : List Json} (hne : items ≠ [])
    (h : ∀ item ∈ items, ReadsBack item) (fuel : Nat) (rest : List JsonToken)
    (hfuel : 2 * ([.comma].intercalate (tokensAll items)).length + 2 ≤ fuel) :
    readItems? fuel ([.comma].intercalate (tokensAll items) ++ .closeBracket :: rest) =
      some (items, rest) := by
  induction items generalizing fuel with
  | nil => exact (hne rfl).elim
  | cons item items ih =>
    obtain ⟨fuel, rfl⟩ : ∃ n, fuel = n + 1 := ⟨fuel - 1, by omega⟩
    have hitem := h item (.head _)
    cases items with
    | nil =>
      rw [tokensAll, tokensAll, List.intercalate_singleton] at hfuel ⊢
      rw [readItems?, hitem _ _ (by omega)]
      rfl
    | cons next more =>
      have hmore := ih (List.cons_ne_nil _ _) (fun other hmem => h other (.tail _ hmem)) fuel
      rw [tokensAll] at hmore
      rw [tokensAll, tokensAll, List.intercalate_cons_cons] at hfuel ⊢
      simp only [List.length_append, List.length_singleton] at hfuel
      rw [List.append_assoc, List.append_assoc, readItems?, hitem _ _ (by omega)]
      simp only [Option.bind_eq_bind, Option.bind_some, List.singleton_append]
      rw [hmore (by omega)]
      rfl

lemma readMembers?_tokens {members : List (String × Json)} (hne : members ≠ [])
    (h : ∀ m ∈ members, ReadsBack m.2) (fuel : Nat) (rest : List JsonToken)
    (hfuel : 2 * ([.comma].intercalate (tokensMembers members)).length + 2 ≤ fuel) :
    readMembers? fuel ([.comma].intercalate (tokensMembers members) ++ .closeBrace :: rest) =
      some (members, rest) := by
  induction members generalizing fuel with
  | nil => exact (hne rfl).elim
  | cons member members ih =>
    obtain ⟨name, value⟩ := member
    obtain ⟨fuel, rfl⟩ : ∃ n, fuel = n + 1 := ⟨fuel - 1, by omega⟩
    have hvalue : ReadsBack value := h (name, value) (.head _)
    cases members with
    | nil =>
      rw [tokensMembers, tokensMembers, List.intercalate_singleton] at hfuel ⊢
      simp only [List.length_cons] at hfuel
      rw [List.cons_append, List.cons_append, readMembers?, hvalue _ _ (by omega)]
      rfl
    | cons next more =>
      obtain ⟨nextName, nextValue⟩ := next
      have hmore := ih (List.cons_ne_nil _ _) (fun other hmem => h other (.tail _ hmem)) fuel
      rw [tokensMembers] at hmore
      rw [tokensMembers, tokensMembers, List.intercalate_cons_cons] at hfuel ⊢
      simp only [List.length_append, List.length_cons, List.length_nil] at hfuel
      rw [List.append_assoc, List.append_assoc, List.cons_append, List.cons_append, readMembers?,
        hvalue _ _ (by omega)]
      simp only [Option.bind_eq_bind, Option.bind_some, List.singleton_append]
      rw [hmore (by omega)]
      rfl

/-- **The tokens of a value are read as the value.** -/
lemma readValue?_tokens {value : Json} (h : value.IsWritable) : ReadsBack value := by
  induction h with
  | null | bool | number | text =>
    intro fuel rest hfuel
    obtain ⟨fuel, rfl⟩ : ∃ n, fuel = n + 1 := ⟨fuel - 1, by simp [tokens] at hfuel; omega⟩
    rw [tokens]
    rfl
  | @array items _ ih =>
    intro fuel rest hfuel
    rw [tokens] at hfuel ⊢
    simp only [List.length_cons, List.length_append, List.length_nil] at hfuel
    obtain ⟨fuel, rfl⟩ : ∃ n, fuel = n + 1 := ⟨fuel - 1, by omega⟩
    cases items with
    | nil => rfl
    | cons item items =>
      have hitems := readItems?_tokens (List.cons_ne_nil item items) ih fuel rest (by omega)
      obtain ⟨later, hlater⟩ := exists_intercalate_cons item.tokens (tokensAll items)
      rw [List.cons_append, List.append_assoc, List.singleton_append, readValue?.eq_7, hitems]
      · rfl
      · intro more heq
        rw [tokensAll, hlater, List.append_assoc] at heq
        exact tokens_append_ne item _ more heq
  | @object members _ ih =>
    intro fuel rest hfuel
    rw [tokens] at hfuel ⊢
    simp only [List.length_cons, List.length_append, List.length_nil] at hfuel
    obtain ⟨fuel, rfl⟩ : ∃ n, fuel = n + 1 := ⟨fuel - 1, by omega⟩
    cases members with
    | nil => rfl
    | cons member members =>
      have hmembers := readMembers?_tokens (List.cons_ne_nil member members) ih fuel rest (by omega)
      obtain ⟨name, value⟩ := member
      obtain ⟨later, hlater⟩ := exists_intercalate_cons (.text name :: .colon :: value.tokens)
        (tokensMembers members)
      rw [List.cons_append, List.append_assoc, List.singleton_append, readValue?.eq_9, hmembers]
      · rfl
      · intro more heq
        rw [tokensMembers, hlater] at heq
        cases heq

/-- **A value reads back.** -/
theorem parse?_print {value : Json} (h : value.IsWritable) : parse? value.print = some value := by
  have hread := readValue?_tokens h (2 * value.tokens.length + 1) [] (by omega)
  rw [List.append_nil] at hread
  rw [parse?, JsonToken.scan?_of_spells (spells_print h)]
  simp only [Option.bind_eq_bind, Option.bind_some, hread]

/-- An object with one member that is a text reads back. -/
theorem parse?_object_text (name value : String) :
    parse? (object [(name, text value)]).print = some (object [(name, text value)]) := by
  refine parse?_print (.object fun m hm => ?_)
  obtain rfl := List.mem_singleton.1 hm
  exact .text value

end Json

end DeviceIdentity
