import DeviceIdentity.Log
import DeviceIdentity.Text.Pad

/-!
# A console for log records

A process has at most one log backend.  `LogSystem.install` puts a console behind a router in place,
and the router passes a record on when it is severe enough: at least as severe as the minimum, and,
below `info`, from a target of this system.  Before that, the process drops records that are too
talkative for it (`LogVerbosity`), which saves it the router.

A console writes each record that it is given as `<level> <target>: <message>` and a line feed.
-/

namespace DeviceIdentity

namespace LogRecord

/-- How a console writes a record; the level takes at least five characters. -/
def line (record : LogRecord) : String :=
  Pad.left 5 record.level.name ++ " " ++ record.target ++ ": " ++ record.message ++ "\n"

end LogRecord

/-- How much a process lets through to its log, the least first. -/
inductive LogVerbosity where
  /-- Nothing. -/
  | off
  /-- Failed operations. -/
  | error
  /-- Recoverable problems as well. -/
  | warn
  /-- Progress as well. -/
  | info
  /-- Diagnostics as well. -/
  | debug
  /-- Everything. -/
  | trace
  deriving DecidableEq, Repr

namespace LogVerbosity

/-- The place of a verbosity in the order. -/
def rank : LogVerbosity → Nat
  | off => 0
  | error => 1
  | warn => 2
  | info => 3
  | debug => 4
  | trace => 5

instance : LE LogVerbosity := ⟨fun a b => a.rank ≤ b.rank⟩

instance (a b : LogVerbosity) : Decidable (a ≤ b) :=
  inferInstanceAs (Decidable (a.rank ≤ b.rank))

/-- The least severity that is let through. -/
def threshold? : LogVerbosity → Option LogLevel
  | off => none
  | error => some .error
  | warn => some .warn
  | info => some .info
  | debug => some .debug
  | trace => some .trace

end LogVerbosity

/-- The verbosity that lets a severity through and none below it. -/
def LogLevel.verbosity : LogLevel → LogVerbosity
  | .error => .error
  | .warn => .warn
  | .info => .info
  | .debug => .debug
  | .trace => .trace

/-- What decides which records pass. -/
structure LogRouter where
  /-- The least severity that passes. -/
  minimum : LogLevel
  deriving DecidableEq, Repr

namespace LogRouter

/-- How the targets of this system start. -/
def ownTargets : String := "huk_identity"

/-- Whether a target belongs to this system. -/
def isOwn (target : String) : Bool :=
  ownTargets.toList.isPrefixOf target.toList

/-- Whether a record of a level and a target passes. -/
def accepts (router : LogRouter) (level : LogLevel) (target : String) : Bool :=
  router.minimum ≤ level && (LogLevel.info ≤ level || isOwn target)

end LogRouter

/-- The log backend of a process, and what its console has written. -/
structure LogSystem where
  /-- The router, once a backend is installed. -/
  router : Option LogRouter := none
  /-- How much is let through to the router. -/
  verbosity : LogVerbosity := .off
  /-- What the console has written. -/
  written : String := ""
  deriving DecidableEq, Repr

namespace LogSystem

/-- Installs a console behind a router, unless there is a backend already. -/
def install (minimum : LogLevel) (system : LogSystem) : Except Failure LogSystem :=
  match system.router with
  | none => .ok { system with router := some ⟨minimum⟩, verbosity := minimum.verbosity }
  | some _ => .error (.invalidInput "a log backend is already installed")

/-- The least severity of the records that are handed to the backend at all. -/
def threshold (system : LogSystem) : Option LogLevel :=
  system.verbosity.threshold?

/-- Hands a record to the router. -/
def deliver (record : LogRecord) (system : LogSystem) : LogSystem :=
  match system.router with
  | none => system
  | some router =>
    if router.accepts record.level record.target then
      { system with written := system.written ++ record.line }
    else system

/-- Emits a record: one that is too talkative is dropped before it reaches the router. -/
def emit (record : LogRecord) (system : LogSystem) : LogSystem :=
  if record.level.verbosity ≤ system.verbosity then system.deliver record else system

/-- Emits records in order. -/
def emitAll (records : List LogRecord) (system : LogSystem) : LogSystem :=
  records.foldl (fun system record => system.emit record) system

/-- What a console writes of records when everything of this system passes. -/
def transcript (records : List LogRecord) : String :=
  (emitAll records { router := some ⟨.trace⟩, verbosity := .trace }).written

end LogSystem

end DeviceIdentity
