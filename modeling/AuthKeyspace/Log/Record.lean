import AuthKeyspace.Text.Integer

/-!
# Log records

What the library has to tell is part of what it returns: an operation that logs gives a list of
records beside its outcome, and the records made before a failure stay. `Logged` carries the two and
runs operations one after the other.

A message is put together only when its record is written, so a record with a number that is too
long ends nothing. It is made all the same, and is not written.

Main statement: `Logged.bind_records_of_error`, a failure keeps the records and ends the run.
-/

namespace AuthKeyspace.Log

/-- How much a record matters. -/
inductive Severity
  | debug | info | warning | error | critical
deriving DecidableEq, Repr

namespace Severity

/-- The number of a severity, higher for more important ones. -/
def level : Severity → Nat
  | .debug => 10 | .info => 20 | .warning => 30 | .error => 40 | .critical => 50

/-- The name of a severity. -/
def name : Severity → String
  | .debug => "DEBUG" | .info => "INFO" | .warning => "WARNING" | .error => "ERROR"
  | .critical => "CRITICAL"

end Severity

/-- One message and its severity, and whether the message can be written. -/
structure Record where
  severity : Severity
  message : String
  isWritable : Bool := true
deriving DecidableEq, Repr

/-- The record of a message that can be written. -/
def Severity.record (severity : Severity) (message : String) : Record := { severity, message }

/-- The record of a message that shows numbers. -/
def Severity.recordOf (severity : Severity) (message : Except Text.NumberTooLong String) : Record :=
  { severity, message := Text.said message, isWritable := message.isOk }

/-- The outcome of an operation and the records it made. -/
structure Logged (ε α : Type) where
  records : List Record
  outcome : Except ε α

namespace Logged

variable {ε ε' α β : Type}

/-- An outcome without records. -/
def ofExcept (outcome : Except ε α) : Logged ε α := ⟨[], outcome⟩

/-- Make one record. -/
def tell (r : Record) : Logged ε Unit := ⟨[r], .ok ()⟩

/-- Run `x`, and `f` on what it gives unless it fails. -/
protected def bind (x : Logged ε α) (f : α → Logged ε β) : Logged ε β :=
  match x.outcome with
  | .error e => ⟨x.records, .error e⟩
  | .ok a => ⟨x.records ++ (f a).records, (f a).outcome⟩

instance : Monad (Logged ε) where
  pure a := ⟨[], .ok a⟩
  bind := Logged.bind

/-- Speak of failures in other terms. -/
def mapError (f : ε → ε') (x : Logged ε α) : Logged ε' α := ⟨x.records, x.outcome.mapError f⟩

theorem bind_records_of_error {x : Logged ε α} {e : ε} (h : x.outcome = .error e)
    (f : α → Logged ε β) : (x >>= f).records = x.records ∧ (x >>= f).outcome = .error e := by
  simp [bind, Logged.bind, h]

theorem bind_of_ok {x : Logged ε α} {a : α} (h : x.outcome = .ok a) (f : α → Logged ε β) :
    (x >>= f).records = x.records ++ (f a).records ∧ (x >>= f).outcome = (f a).outcome := by
  simp [bind, Logged.bind, h]

end Logged

end AuthKeyspace.Log
