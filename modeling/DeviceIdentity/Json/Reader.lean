import DeviceIdentity.Json.Token

/-!
# Reading JSON

`Json.parse?` reads the one value that a text holds, white space around it aside.  Nothing beyond
the standard is let through: no trailing comma, no comment, no second value.
-/

namespace DeviceIdentity

namespace Json

mutual

/-- Reads the value at the front. -/
def readValue? : (fuel : Nat) → List JsonToken → Option (Json × List JsonToken)
  | 0, _ => none
  | _ + 1, .null :: rest => some (null, rest)
  | _ + 1, .bool value :: rest => some (bool value, rest)
  | _ + 1, .number value :: rest => some (number value, rest)
  | _ + 1, .text value :: rest => some (text value, rest)
  | _ + 1, .openBracket :: .closeBracket :: rest => some (array [], rest)
  | fuel + 1, .openBracket :: rest => do
    let (items, rest) ← readItems? fuel rest
    some (array items, rest)
  | _ + 1, .openBrace :: .closeBrace :: rest => some (object [], rest)
  | fuel + 1, .openBrace :: rest => do
    let (members, rest) ← readMembers? fuel rest
    some (object members, rest)
  | _ + 1, _ => none

/-- Reads one or more values up to the end of their array. -/
def readItems? : (fuel : Nat) → List JsonToken → Option (List Json × List JsonToken)
  | 0, _ => none
  | fuel + 1, tokens => do
    let (item, rest) ← readValue? fuel tokens
    match rest with
    | .comma :: rest => do
      let (items, rest) ← readItems? fuel rest
      some (item :: items, rest)
    | .closeBracket :: rest => some ([item], rest)
    | _ => none

/-- Reads one or more members up to the end of their object. -/
def readMembers? : (fuel : Nat) → List JsonToken → Option (List (String × Json) × List JsonToken)
  | 0, _ => none
  | fuel + 1, .text name :: .colon :: tokens => do
    let (value, rest) ← readValue? fuel tokens
    match rest with
    | .comma :: rest => do
      let (members, rest) ← readMembers? fuel rest
      some ((name, value) :: members, rest)
    | .closeBrace :: rest => some ([(name, value)], rest)
    | _ => none
  | _ + 1, _ => none

end

/-- Reads a text that holds one value.  Of the calls at most two are made for each token. -/
def parse? (text : String) : Option Json := do
  let tokens ← JsonToken.scan? text
  match readValue? (2 * tokens.length + 1) tokens with
  | some (value, []) => some value
  | _ => none

end Json

end DeviceIdentity
