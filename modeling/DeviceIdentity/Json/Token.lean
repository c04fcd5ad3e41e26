import DeviceIdentity.Json.Value
import DeviceIdentity.Text.Numeral

/-!
# JSON tokens

`JsonToken.scan?` splits a text into the marks, words, numbers and strings that JSON is made of.
White space is space, tab, line feed and carriage return, and separates tokens only.

In a string no control character below U+0020 may stand for itself, and an escape for one half of a
surrogate pair wants the other half after it.
-/

namespace DeviceIdentity

/-- A token of JSON. -/
inductive JsonToken where
  /-- The mark that opens an object. -/
  | openBrace
  /-- The mark that closes an object. -/
  | closeBrace
  /-- The mark that opens an array. -/
  | openBracket
  /-- The mark that closes an array. -/
  | closeBracket
  /-- The mark between a name and its value. -/
  | colon
  /-- The mark between values. -/
  | comma
  /-- The word for the null value. -/
  | null
  /-- The word for a truth value. -/
  | bool (value : Bool)
  /-- A number. -/
  | number (value : JsonNumber)
  /-- A string. -/
  | text (value : String)
  deriving DecidableEq, Repr

namespace JsonToken

/-- Whether `c` is white space between tokens. -/
def isSpace (c : Char) : Bool :=
  c == ' ' || c == '\t' || c == '\n' || c == '\r'

/-! ## Strings -/

/-- The character that a backslash and `c` stand for. -/
def unescape? (c : Char) : Option Char :=
  match c with
  | '"' => some '"'
  | '\\' => some '\\'
  | '/' => some '/'
  | 'b' => some '\x08'
  | 'f' => some '\x0c'
  | 'n' => some '\n'
  | 'r' => some '\r'
  | 't' => some '\t'
  | _ => none

/-- The number of four hexadecimal digits. -/
def codeUnit? (a b c d : Char) : Option Nat :=
  Numeral.read? 16 [a, b, c, d]

/-- Whether `n` is the first half of a surrogate pair. -/
def isHighHalf (n : Nat) : Bool := 0xD800 ≤ n && n < 0xDC00

/-- Whether `n` is the second half of a surrogate pair. -/
def isLowHalf (n : Nat) : Bool := 0xDC00 ≤ n && n < 0xE000

/-- The character of a surrogate pair. -/
def ofHalves (high low : Nat) : Char :=
  Char.ofNat (0x10000 + 0x400 * (high - 0xD800) + (low - 0xDC00))

/-- Reads the content of a string after its opening quote; also returns what follows its closing
quote. -/
def readString? : List Char → Option (List Char × List Char)
  | [] => none
  | '"' :: rest => some ([], rest)
  | '\\' :: 'u' :: a :: b :: c :: d :: rest =>
    match codeUnit? a b c d with
    | none => none
    | some unit =>
      if isHighHalf unit then
        match rest with
        | '\\' :: 'u' :: e :: f :: g :: h :: after =>
          match codeUnit? e f g h with
          | none => none
          | some low =>
            if isLowHalf low then
              (readString? after).map fun (cs, tail) => (ofHalves unit low :: cs, tail)
            else none
        | _ => none
      else if isLowHalf unit then none
      else (readString? rest).map fun (cs, tail) => (Char.ofNat unit :: cs, tail)
  | '\\' :: c :: rest =>
    match unescape? c with
    | none => none
    | some c => (readString? rest).map fun (cs, tail) => (c :: cs, tail)
  | c :: rest =>
    if c.toNat < 0x20 ∨ c = '\\' then none
    else (readString? rest).map fun (cs, tail) => (c :: cs, tail)
termination_by cs => cs.length
decreasing_by all_goals (simp only [List.length_cons]; omega)

/-! ## Numbers -/

/-- Reads the digits before the point: a zero alone, or digits that start with no zero. -/
def readWhole? (cs : List Char) : Option (Nat × List Char) :=
  match cs with
  | '0' :: rest => some (0, rest)
  | _ =>
    (Numeral.read? 10 (cs.takeWhile Char.isDigit)).map (·, cs.dropWhile Char.isDigit)

/-- Reads the point and the digits after it, if there is a point. -/
def readFraction? (cs : List Char) : Option (Option (List Char) × List Char) :=
  match cs with
  | '.' :: rest =>
    let digits := rest.takeWhile Char.isDigit
    if digits.isEmpty then none else some (some digits, rest.dropWhile Char.isDigit)
  | _ => some (none, cs)

/-- Reads the exponent, if there is one. -/
def readExponent? (cs : List Char) : Option (Option Int × List Char) :=
  match cs with
  | [] => some (none, [])
  | c :: rest =>
    if c = 'e' ∨ c = 'E' then
      let (sign, rest) := match rest with
        | '-' :: rest => ((-1 : Int), rest)
        | '+' :: rest => (1, rest)
        | rest => (1, rest)
      (Numeral.read? 10 (rest.takeWhile Char.isDigit)).map fun n =>
        (some (sign * n), rest.dropWhile Char.isDigit)
    else some (none, cs)

/-- Reads a number after its sign. -/
def readNumber? (negative : Bool) (cs : List Char) : Option (JsonNumber × List Char) := do
  let (whole, cs) ← readWhole? cs
  let (fraction, cs) ← readFraction? cs
  let (exponent, cs) ← readExponent? cs
  some (⟨negative, whole, fraction, exponent⟩, cs)

/-! ## Tokens -/

/-- Reads the token at the front. -/
def read? : List Char → Option (JsonToken × List Char)
  | '\x7b' :: rest => some (openBrace, rest)
  | '\x7d' :: rest => some (closeBrace, rest)
  | '[' :: rest => some (openBracket, rest)
  | ']' :: rest => some (closeBracket, rest)
  | ':' :: rest => some (colon, rest)
  | ',' :: rest => some (comma, rest)
  | 'n' :: 'u' :: 'l' :: 'l' :: rest => some (null, rest)
  | 't' :: 'r' :: 'u' :: 'e' :: rest => some (bool true, rest)
  | 'f' :: 'a' :: 'l' :: 's' :: 'e' :: rest => some (bool false, rest)
  | '"' :: rest => (readString? rest).map fun (cs, tail) => (text (String.ofList cs), tail)
  | '-' :: rest => (readNumber? true rest).map fun (value, tail) => (number value, tail)
  | rest => (readNumber? false rest).map fun (value, tail) => (number value, tail)

/-- The tokens of a text, within `fuel` tokens. -/
def scanWithin? : (fuel : Nat) → List Char → Option (List JsonToken)
  | 0, _ => none
  | fuel + 1, cs =>
    match cs.dropWhile isSpace with
    | [] => some []
    | cs => do
      let (token, rest) ← read? cs
      let tokens ← scanWithin? fuel rest
      some (token :: tokens)

/-- The tokens of a text.  Every token takes a character at least, so its length bounds their
number. -/
def scan? (text : String) : Option (List JsonToken) :=
  let cs := text.toList
  scanWithin? (cs.length + 1) cs

end JsonToken

end DeviceIdentity
