import DeviceIdentity.Bytes.Hex

/-!
# JSON values and their text

A `Json` value keeps numbers as they are spelled and the members of an object in order, repeated
names included.

`Json.print` writes a value without any white space.  In a string a quote, a backslash and the
control characters below U+0020 are escaped, and all else stands for itself.
-/

namespace DeviceIdentity

/-- A JSON number as it is spelled. -/
structure JsonNumber where
  /-- Whether a minus sign stands in front. -/
  negative : Bool
  /-- The digits before the point. -/
  whole : Nat
  /-- The digits after the point, if there is one. -/
  fraction : Option (List Char)
  /-- The exponent, if there is one. -/
  exponent : Option Int
  deriving DecidableEq, Repr

namespace JsonNumber

/-- The number spelled by the digits of `n` alone. -/
def ofNat (n : Nat) : JsonNumber := ⟨false, n, none, none⟩

/-- The natural number that is spelled by digits alone: without a sign, a point or an exponent. -/
def natural? (number : JsonNumber) : Option Nat :=
  match number with
  | ⟨false, whole, none, none⟩ => some whole
  | _ => none

@[simp] theorem natural?_ofNat (n : Nat) : (ofNat n).natural? = some n := rfl

/-- The spelling of a number. -/
def print (number : JsonNumber) : String :=
  let sign := if number.negative then "-" else ""
  let fraction := match number.fraction with
    | some digits => "." ++ String.ofList digits
    | none => ""
  let exponent := match number.exponent with
    | some e => "e" ++ toString e
    | none => ""
  sign ++ toString number.whole ++ fraction ++ exponent

end JsonNumber

/-- A JSON value. -/
inductive Json where
  /-- The null value. -/
  | null
  /-- A truth value. -/
  | bool (value : Bool)
  /-- A number. -/
  | number (value : JsonNumber)
  /-- A string. -/
  | text (value : String)
  /-- An array. -/
  | array (items : List Json)
  /-- An object: names with their values, in order. -/
  | object (members : List (String × Json))

namespace Json

/-- How a character is written in a string. -/
def escape (c : Char) : List Char :=
  if c = '"' then ['\\', '"']
  else if c = '\\' then ['\\', '\\']
  else if c = '\x08' then ['\\', 'b']
  else if c = '\x0c' then ['\\', 'f']
  else if c = '\n' then ['\\', 'n']
  else if c = '\r' then ['\\', 'r']
  else if c = '\t' then ['\\', 't']
  else if c.toNat < 0x20 then
    ['\\', 'u', '0', '0', Hex.digit (c.toNat / 16), Hex.digit (c.toNat % 16)]
  else [c]

/-- A text as a JSON string. -/
def quote (text : String) : String :=
  String.ofList ('"' :: (text.toList.flatMap escape ++ ['"']))

mutual

/-- The text of a value, without white space. -/
def print : Json → String
  | null => "null"
  | bool value => if value then "true" else "false"
  | number value => value.print
  | text value => quote value
  | array items => "[" ++ ",".intercalate (printAll items) ++ "]"
  | object members => "\x7b" ++ ",".intercalate (printMembers members) ++ "\x7d"

/-- The texts of values. -/
def printAll : List Json → List String
  | [] => []
  | item :: rest => print item :: printAll rest

/-- The texts of members, each a name, a colon and a value. -/
def printMembers : List (String × Json) → List String
  | [] => []
  | (name, value) :: rest => (quote name ++ ":" ++ print value) :: printMembers rest

end

end Json

end DeviceIdentity
