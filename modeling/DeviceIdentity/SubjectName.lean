import DeviceIdentity.Der.Write
import DeviceIdentity.Text.Blank

/-!
# Subject names

The subject of a certificate request is a list of attributes, each an organization, a common name
or an organizational unit.  It is written as text in the form `O=Acme,CN=name,OU=unit`, and in DER
as a sequence of sets of one attribute each.
-/

namespace DeviceIdentity

/-- What an attribute of a subject name states. -/
inductive NameAttribute where
  /-- The organization, `O`. -/
  | organization
  /-- The common name, `CN`. -/
  | commonName
  /-- The organizational unit, `OU`. -/
  | organizationalUnit
  deriving DecidableEq, Repr

namespace NameAttribute

/-- All attributes. -/
def all : List NameAttribute := [organization, commonName, organizationalUnit]

/-- The encoded arcs of the attribute's object identifier. -/
def oid : NameAttribute → Bytes
  | organization => [0x55, 0x04, 0x0A]
  | commonName => [0x55, 0x04, 0x03]
  | organizationalUnit => [0x55, 0x04, 0x0B]

/-- The name of the attribute in text. -/
def shortName : NameAttribute → String
  | organization => "O"
  | commonName => "CN"
  | organizationalUnit => "OU"

/-- The attribute of a given name. -/
def ofShortName? (name : String) : Option NameAttribute :=
  all.find? (·.shortName = name)

@[simp] theorem ofShortName?_shortName (a : NameAttribute) :
    ofShortName? a.shortName = some a := by
  cases a <;> decide

end NameAttribute

/-- A subject name: its attributes in the order they are encoded. -/
structure SubjectName where
  /-- The attributes with their values. -/
  attributes : List (NameAttribute × String)
  deriving DecidableEq, Repr

namespace SubjectName

/-- The greatest length of a value in octets. -/
def maxValueLength : Nat := 64

/-- Whether `value` may be the value of an attribute. -/
def isValue (value : List Char) : Bool :=
  !value.isEmpty && (String.ofList value).utf8ByteSize ≤ maxValueLength && !value.contains '='

/-- Reads one `name=value`; blank characters may surround the name. -/
def parseComponent? (component : List Char) : Option (NameAttribute × String) :=
  match component.dropWhile (· != '=') with
  | [] => none
  | _ :: value =>
    let name := Blank.trim (component.takeWhile (· != '='))
    match NameAttribute.ofShortName? (String.ofList name) with
    | some kind => if isValue value then some (kind, String.ofList value) else none
    | none => none

/-- Reads components separated by commas. -/
def parse (text : String) : Except Failure SubjectName :=
  match (text.toList.splitOn ',').mapM parseComponent? with
  | some attributes => .ok ⟨attributes⟩
  | none => .error .subjectNameInvalid

/-- The text of one attribute. -/
def component : NameAttribute × String → String
  | (kind, value) => kind.shortName ++ "=" ++ value

/-- The attributes as text, separated by commas. -/
def text (subject : SubjectName) : String :=
  ",".intercalate (subject.attributes.map component)

/-- The subject of a device: its organization, its UUID as common name, and the label of the key as
organizational unit.  The three texts are joined and read back, which cuts them at their own commas
as well; a text without commas is refused if it is empty, too long, or has an equals sign. -/
def forDevice (organization uuid label : String) : Except Failure SubjectName :=
  parse ("O=" ++ organization ++ ",CN=" ++ uuid ++ ",OU=" ++ label)

/-- Writes one attribute as a set of one sequence of object identifier and value. -/
def writeAttribute : NameAttribute × String → Der.Write Nat
  | (kind, value) => do
    let valueLength ← Der.utf8Text value
    let oidLength ← Der.oid kind.oid
    let pair := valueLength + oidLength
    let pairHead ← Der.sequenceHeader pair
    let setHead ← Der.header Der.setTag (pair + pairHead)
    return pair + pairHead + setHead

/-- Writes attributes given from the last to the first, after `n` octets already written. -/
def writeAttributes : (n : Nat) → List (NameAttribute × String) → Der.Write Nat
  | n, [] => pure n
  | n, a :: rest => do
    let added ← writeAttribute a
    writeAttributes (n + added) rest

/-- Writes the name as a sequence of single-valued sets. -/
def write (subject : SubjectName) : Der.Write Nat := do
  let body ← writeAttributes 0 subject.attributes.reverse
  let head ← Der.sequenceHeader body
  return body + head

end SubjectName

end DeviceIdentity
