import AuthKeyspace.Text.Base64
import AuthKeyspace.Yaml.Number
import AuthKeyspace.Yaml.Value

/-!
# The scalar that a text shows

A text of a kind shows a scalar of that kind, or it is a fault. Numbers that are none are told apart
by the place they come from, except that the word for it is one place everywhere.
-/

namespace AuthKeyspace.Yaml

/-- A number as a scalar; `origin` tells where it comes from. -/
def Scalar.ofDouble (origin : Nat) : Decimal.Double → Scalar
  | .notANumber => .notANumber origin
  | x => .float x

/-- The place that all words for what is no number count as. -/
def wordOrigin : Nat := 0

/-- The day or the moment that a text shows. -/
def timeOf (text : List Text.Point) : Except Fault Scalar :=
  match (Text.chars? text).bind fun cs => TimeForm.ofChars? (Tag.dropLineEnd cs) with
  | none => .error .notATime
  | some form =>
    match form.clock? with
    | none =>
      ((Time.Date.ofNumbers form.year form.month form.day).map .date).mapError
        fun e => .clock (.date e)
    | some c =>
      ((Time.Timestamp.ofNumbers form.year form.month form.day c.hour c.minute c.second c.micros
        c.offset?).map .timestamp).mapError .clock

/-- The bytes that the letters of a text stand for. -/
def bytesOf (text : List Text.Point) : Except Fault Scalar :=
  match Text.chars? text with
  | some cs =>
    if cs.all (·.toNat < 0x80) then .bytes <$> orMalformed (Text.Base64.decode? cs)
    else .error .malformed
  | none => .error .malformed

/-- The scalar of a kind that a text shows, for a text that is node number `id` of its document. -/
def scalarOf (id : Nat) (tag : Tag) (text : List Text.Point) : Except Fault Scalar :=
  match tag with
  | .null => .ok .null
  | .truth => .truth <$> truthOf text
  | .integer => .integer <$> integerOf text
  | .float => do
    match ← floatOf text with
    | .number x => return .ofDouble (id + 1) x
    | .nanWord => return .notANumber wordOrigin
  | .timestamp => timeOf text
  | .text => .ok (.text text)
  | .binary => bytesOf text
  | _ => .error .malformed

end AuthKeyspace.Yaml
