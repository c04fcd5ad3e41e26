import DeviceIdentity.Failure

/-!
# Command-line arguments

Arguments are read level by level: the options of the program, the name of a command, its options,
and so on down a tree of commands.

* An option is `--name value` or `--name=value`, a flag `--name` or its letter after one dash.
* An option is given once at most on each level, and an option of the program may be given on any
  level; the deepest one counts.  An option that is not given may take its value from the
  environment, and is checked there too, on each level where it is missing.
* A value of its own may not start with a dash, except the dash itself and, where the option allows
  it, a negative number.
* After `--` nothing is an option, and no command takes anything else.

`CommandLine.read` gives the commands named and the values of the options, or what ended the
reading.
-/

namespace DeviceIdentity

/-- An option of a command. -/
structure OptionRule where
  /-- The name, without dashes. -/
  name : String
  /-- Whether the option takes a value; else it is a flag. -/
  takesValue : Bool := true
  /-- The letter of a flag. -/
  letter : Option Char := none
  /-- Whether a negative number may follow as the value. -/
  negativeNumbers : Bool := false
  /-- The variable of the environment that gives a value. -/
  environment : Option String := none
  /-- Whether a value has to be given. -/
  required : Bool := false
  /-- An option that may not be given beside this one. -/
  excludes : Option String := none
  /-- Whether a text is a value of the option. -/
  accepts : String → Bool := fun _ => true

/-- A tree of commands. -/
inductive CommandTree where
  /-- A command that is run. -/
  | leaf (options : List OptionRule)
  /-- A command that wants one of several commands after it. -/
  | group (commands : List (String × CommandTree))

/-- Why reading ended without a command to run. -/
inductive ReadingEnd where
  /-- The version was asked for. -/
  | version
  /-- Help was asked for. -/
  | help
  /-- The arguments are wrong. -/
  | wrong
  deriving DecidableEq, Repr

/-- What was read: the commands named, and on each level the options given there. -/
structure CommandLine where
  /-- The commands named, from the program down. -/
  commands : List String
  /-- The values given on each level, the deepest level first. -/
  levels : List (List (String × String))
  deriving DecidableEq, Repr

namespace CommandLine

/-- Whether `digits` are digits, with one point after a digit, and an exponent of digits. -/
def isNumber (digits : List Char) : Bool :=
  let mantissa := digits.takeWhile fun c => c ≠ 'e' && c ≠ 'E'
  let exponent := digits.dropWhile fun c => c ≠ 'e' && c ≠ 'E'
  let whole := mantissa.takeWhile (· ≠ '.')
  let fraction := mantissa.dropWhile (· ≠ '.')
  let mantissaOk := whole.all Char.isDigit &&
    (fraction.isEmpty || (!whole.isEmpty && (fraction.drop 1).all Char.isDigit))
  let exponentOk := exponent.isEmpty ||
    (!mantissa.isEmpty && exponent.length ≠ 1 && (exponent.drop 1).all Char.isDigit)
  mantissaOk && exponentOk

/-- Whether an argument can be the value of an option before it. -/
def isValue (rule : OptionRule) (argument : List Char) : Bool :=
  match argument with
  | ['-'] => true
  | '-' :: '-' :: _ => false
  | '-' :: rest => rule.negativeNumbers && isNumber rest
  | _ => true

/-- Adds a value of an option on a level, which has none yet. -/
def give (rule : OptionRule) (value : String) (given : List (String × String)) :
    Except ReadingEnd (List (String × String)) :=
  if (given.map Prod.fst).contains rule.name || !rule.accepts value then .error .wrong
  else .ok ((rule.name, value) :: given)

/-- Reads letters after one dash. -/
def readLetters (root : Bool) (rules : List OptionRule) :
    List Char → List (String × String) → Except ReadingEnd (List (String × String))
  | [], given => .ok given
  | c :: rest, given =>
    if c = 'h' then .error .help
    else if root && c = 'V' then .error .version
    else match rules.find? fun rule => rule.letter = some c with
      | some rule => do
        let given ← give rule "" given
        readLetters root rules rest given
      | none => .error .wrong

/-- What an argument is on a level. -/
inductive Reading where
  /-- An option that is complete; reading goes on after the arguments it took. -/
  | option (given : List (String × String)) (rest : List String)
  /-- The name of a command. -/
  | command (name : String) (rest : List String)
  /-- The end of the level. -/
  | finished

/-- Reads an option by its name, with the value attached to it, if any. -/
def readNamed (root : Bool) (rules : List OptionRule) (name : String) (attached : Option String)
    (rest : List String) (given : List (String × String)) : Except ReadingEnd Reading :=
  match rules.find? fun rule => rule.name = name with
  | none =>
    if attached.isSome then .error .wrong
    else if name = "help" then .error .help
    else if root && name = "version" then .error .version
    else .error .wrong
  | some rule =>
    if rule.takesValue then
      match attached, rest with
      | some value, _ => (give rule value given).map fun given => .option given rest
      | none, value :: rest =>
        if isValue rule value.toList then
          (give rule value given).map fun given => .option given rest
        else .error .wrong
      | none, [] => .error .wrong
    else if attached.isSome then .error .wrong
    else (give rule "" given).map fun given => .option given rest

/-- Reads the arguments at the front of a level. -/
def readNext (root : Bool) (rules : List OptionRule) (given : List (String × String)) :
    List String → Except ReadingEnd Reading
  | [] => .ok .finished
  | argument :: rest =>
    match argument.toList with
    | ['-', '-'] => if rest.isEmpty then .ok .finished else .error .wrong
    | '-' :: '-' :: body =>
      let name := String.ofList (body.takeWhile (· ≠ '='))
      let attached := match body.dropWhile (· ≠ '=') with
        | [] => none
        | _ :: value => some (String.ofList value)
      readNamed root rules name attached rest given
    | '-' :: c :: letters =>
      (readLetters root rules (c :: letters) given).map fun given => .option given rest
    | _ => .ok (.command argument rest)

/-- The value of an option on a level: given there, or by the environment. -/
def valueOn (environment : String → Option String) (rule : OptionRule)
    (given : List (String × String)) : Option String :=
  match given.lookup rule.name with
  | some value => some value
  | none => rule.environment.bind environment

/-- Whether a level is complete and without contradiction. -/
def isComplete (environment : String → Option String) (rules : List OptionRule)
    (given : List (String × String)) : Bool :=
  rules.all fun rule =>
    let value := valueOn environment rule given
    (!rule.required || value.isSome) && value.all rule.accepts &&
      !((given.lookup rule.name).isSome &&
        rule.excludes.any fun other => (given.lookup other).isSome)

/-- Reads the levels of a tree, within `fuel` arguments.  `shared` are the options that every level
has. -/
def readTree (environment : String → Option String) (shared : List OptionRule) :
    (fuel : Nat) → (root : Bool) → CommandTree → (given : List (String × String)) →
      List String → Except ReadingEnd CommandLine
  | 0, _, _, _, _ => .error .wrong
  | fuel + 1, root, tree, given, arguments => do
    let rules := match tree with
      | .leaf options => shared ++ options
      | .group _ => shared
    match ← readNext root rules given arguments with
    | .option given rest => readTree environment shared fuel root tree given rest
    | .command name rest =>
      match tree with
      | .leaf _ => throw .wrong
      | .group commands =>
        match commands.lookup name with
        | some command => do
          let below ← readTree environment shared fuel false command [] rest
          if isComplete environment rules given then
            return ⟨name :: below.commands, below.levels ++ [given]⟩
          else throw .wrong
        | none => throw (if name = "help" then .help else .wrong)
    | .finished =>
      match tree with
      | .leaf _ => if isComplete environment rules given then return ⟨[], [given]⟩ else throw .wrong
      | .group _ => throw .wrong

/-- Reads the arguments of a program.  Each step takes an argument or ends, so their number bounds
the steps. -/
def read (environment : String → Option String) (shared : List OptionRule) (tree : CommandTree)
    (arguments : List String) : Except ReadingEnd CommandLine :=
  readTree environment shared (arguments.length + 1) true tree [] arguments

/-- The value of an option: from the deepest level that has one, else from the environment. -/
def value? (environment : String → Option String) (rule : OptionRule) (line : CommandLine) :
    Option String :=
  match line.levels.findSome? fun given => given.lookup rule.name with
  | some value => some value
  | none => rule.environment.bind environment

end CommandLine

end DeviceIdentity
