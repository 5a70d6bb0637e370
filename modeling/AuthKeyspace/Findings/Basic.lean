import AuthKeyspace.Log.Record
import AuthKeyspace.Text.Quoted

/-!
# Findings

What checks have to say about a keyspace is a list of findings. Each is about a table or, with an
empty key, about the keyspace as a whole, and each has a level; only errors stand in the way of
starting.

Main statement: `Report.isOk_iff`, a report is fine when none of its findings is an error.
-/

namespace AuthKeyspace.Findings

open AuthKeyspace.Log

/-- How bad a finding is. -/
inductive Level
  | error | warning | info
deriving DecidableEq, Repr

namespace Level

/-- The word for a level. -/
def word : Level → String
  | .error => "error" | .warning => "warning" | .info => "info"

/-- The level that a word names. -/
def ofWord? : String → Option Level
  | "error" => some .error
  | "warning" => some .warning
  | "info" => some .info
  | _ => none

/-- What is said of a word that names no level. -/
def unknownMessage (word : String) : String :=
  Text.quoted word ++ " is not a valid DiagnosticLevel"

/-- The severity a finding is logged with. -/
def severity : Level → Severity
  | .error => .error | .warning => .warning | .info => .info

end Level

/-- One thing that a rule has found. -/
structure Finding where
  tableKey : String
  level : Level
  code : String
  message : String
  hint : String := ""
deriving DecidableEq, Repr

/-- A finding as it is logged: the code, the table if it is about one, and the message. -/
def Finding.text (f : Finding) : String :=
  "[" ++ f.code ++ "] " ++ (if f.tableKey = "" then "" else f.tableKey ++ ": ") ++ f.message

/-- A finding as a log record. -/
def Finding.record (f : Finding) : Record := f.level.severity.record f.text

/-- Everything that the rules have found, in order. -/
structure Report where
  findings : List Finding
deriving DecidableEq, Repr

namespace Report

/-- The findings of a level. -/
def atLevel (r : Report) (level : Level) : List Finding := r.findings.filter (·.level == level)

/-- The findings that stand in the way of starting. -/
def errors (r : Report) : List Finding := r.atLevel .error

/-- The findings that deserve attention. -/
def warnings (r : Report) : List Finding := r.atLevel .warning

/-- Does nothing stand in the way of starting? -/
def isOk (r : Report) : Bool := r.errors.isEmpty

theorem isOk_iff {r : Report} : r.isOk = true ↔ ∀ f ∈ r.findings, f.level ≠ .error := by
  simp [isOk, errors, atLevel]

end Report

end AuthKeyspace.Findings
