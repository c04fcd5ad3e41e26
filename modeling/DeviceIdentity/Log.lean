import DeviceIdentity.Failure

/-!
# Log records

An operation reports what it does as `LogRecord`s: a severity, a target (the part of the system
that speaks) and a message.  Records are values: an operation returns them with its result, and a
sink decides what becomes of them (see `DeviceIdentity.Log.Console`).

Severities are ordered, `trace` being the least severe.
-/

namespace DeviceIdentity

/-- The severity of a record. -/
inductive LogLevel where
  /-- Step-by-step detail. -/
  | trace
  /-- Diagnostics. -/
  | debug
  /-- Progress of provisioning and key generation. -/
  | info
  /-- Recoverable problems. -/
  | warn
  /-- Failed operations. -/
  | error
  deriving DecidableEq, Repr

namespace LogLevel

/-- All severities, the least severe first. -/
def all : List LogLevel := [trace, debug, info, warn, error]

/-- The place of a severity in the order. -/
def rank : LogLevel → Nat
  | trace => 0
  | debug => 1
  | info => 2
  | warn => 3
  | error => 4

/-- The name of a severity. -/
def name : LogLevel → String
  | trace => "trace"
  | debug => "debug"
  | info => "info"
  | warn => "warn"
  | error => "error"

/-- The severity of a given name. -/
def ofName? (name : String) : Option LogLevel :=
  all.find? (·.name = name)

instance : LE LogLevel := ⟨fun a b => a.rank ≤ b.rank⟩

instance (a b : LogLevel) : Decidable (a ≤ b) :=
  inferInstanceAs (Decidable (a.rank ≤ b.rank))

/-- Severities with the same rank are the same. -/
theorem rank_inj {a b : LogLevel} : a.rank = b.rank ↔ a = b := by
  cases a <;> cases b <;> decide

end LogLevel

/-- One log record. -/
structure LogRecord where
  /-- How severe the reported event is. -/
  level : LogLevel
  /-- Which part of the system speaks. -/
  target : String
  /-- What it says. -/
  message : String
  deriving DecidableEq, Repr

end DeviceIdentity
