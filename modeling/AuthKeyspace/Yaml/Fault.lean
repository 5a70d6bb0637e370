import AuthKeyspace.Decimal.Reading
import AuthKeyspace.Text.Integer
import AuthKeyspace.Text.Utf8
import AuthKeyspace.Time.Timestamp

/-!
# Why a document has no value

Most documents that have no value are malformed, and nothing more is said about them. The bytes of a
document can be no characters, and a well formed document can have a part that is no value of the
kind it claims to be: such a fault is told.
-/

namespace AuthKeyspace.Yaml

/-- Why a document has no value. -/
inductive Fault
  | malformed
  | undecodable (error : Text.Utf8.DecodeError)
  | codePoint (number : Nat)
  | integer (fault : Text.IntegerFault)
  | decimal (error : Decimal.NotADecimal)
  | truth (text : List Text.Point)
  | emptyNumber
  | scaleTooLarge
  | clock (fault : Time.ClockFault)
  | notATime
  | timeOfMapping
  | tooDeep
deriving DecidableEq, Repr

/-- The largest number that a machine word holds. -/
def maxWord : Nat := 2147483647

namespace Fault

/-- What is said of a document without a value. -/
def message : Fault → String
  | .malformed => "malformed document"
  | .undecodable error => error.message
  | .codePoint n =>
    if n ≤ maxWord then "chr() arg not in range(0x110000)"
    else "Python int too large to convert to C int"
  | .integer fault => fault.message
  | .decimal error => error.message
  | .truth text => Text.quotedPoints text
  | .emptyNumber => "string index out of range"
  | .scaleTooLarge => "int too large to convert to float"
  | .clock fault => fault.message
  | .notATime => "'NoneType' object has no attribute 'groupdict'"
  | .timeOfMapping => "expected string or bytes-like object, got 'list'"
  | .tooDeep => "maximum recursion depth exceeded"

/-- Is the fault that bytes are no characters, or that a text shows a value that its kind does not
have? -/
def isOfValue : Fault → Bool
  | .codePoint n => n ≤ maxWord
  | .undecodable _ | .integer _ | .decimal _ | .clock _ => true
  | _ => false

end Fault

/-- What could not be read is malformed. -/
def orMalformed {α : Type} : Option α → Except Fault α
  | some a => .ok a
  | none => .error .malformed

end AuthKeyspace.Yaml
