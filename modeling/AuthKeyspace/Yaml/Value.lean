import AuthKeyspace.Decimal.Shortest
import AuthKeyspace.Text.Integer
import AuthKeyspace.Time.Timestamp

/-!
# Values

A value is a scalar, or is made up of values: a sequence, a sequence of pairs, a mapping from
scalars to values or a set of scalars, which keep the order of what is in them. A value that is part
of itself stands there only as what encloses it.

Numbers are equal when they are the same number, whether they have a point or not, and the truth
values count as one and zero; as keys, equal numbers are one key. What is no number equals only what
comes from the same place.

Main statements: `Scalar.same_text_iff` (a text is a key of its own) and `Entries.lookup_insert`
(what is put in is found again).
-/

namespace AuthKeyspace.Yaml

/-- A value without parts. -/
inductive Scalar
  | null
  | truth (truth : Bool)
  | integer (integer : Int)
  | float (float : Decimal.Double)
  | notANumber (origin : Nat)
  | text (text : List Text.Point)
  | bytes (bytes : List UInt8)
  | date (date : Time.Date)
  | timestamp (moment : Time.Timestamp)
deriving DecidableEq, Repr

namespace Scalar

/-- The whole number that a scalar is, if it is one by its form. -/
def whole? : Scalar → Option Int
  | .truth b => some (if b then 1 else 0)
  | .integer n => some n
  | _ => none

/-- Are two scalars one key? -/
def same (a b : Scalar) : Bool :=
  match a, b with
  | .float x, .float y => x.same y
  | .float x, b => (b.whole?.map x.equalsInt).getD false
  | a, .float y => (a.whole?.map y.equalsInt).getD false
  | .timestamp t, .timestamp u => t.same u
  | a, b =>
    match a.whole?, b.whole? with
    | some m, some n => m == n
    | _, _ => a == b

/-- The name of the kind of a scalar. -/
def kind : Scalar → String
  | .null => "NoneType"
  | .truth _ => "bool"
  | .integer _ => "int"
  | .float _ | .notANumber _ => "float"
  | .text _ => "str"
  | .bytes _ => "bytes"
  | .date _ => "date"
  | .timestamp _ => "datetime"

theorem same_text_iff {k : Scalar} {text : List Text.Point} :
    k.same (.text text) = true ↔ k = .text text := by
  cases k <;> simp [same, whole?]

end Scalar

/-! ## Scalars in messages -/

/-- One byte between quotes of the kind `quote`. -/
def shownByte (quote : Char) (b : UInt8) : List Char :=
  let c := Char.ofNat b.toNat
  if 0x7f ≤ b.toNat then '\\' :: 'x' :: Text.hexDigits 2 b.toNat else Text.shown quote c

/-- Bytes in quotes. -/
def quotedBytes (bytes : List UInt8) : String :=
  let quote := Text.quoteFor (bytes.map fun b => .char (Char.ofNat b.toNat))
  "b" ++ String.ofList (quote :: bytes.flatMap (shownByte quote) ++ [quote])

/-- The name of what keeps time, with its numbers. -/
def timeText (name : String) (parts : List String) : String :=
  "datetime." ++ name ++ "(" ++ ", ".intercalate parts ++ ")"

/-- How far a clock is from universal time. -/
def zoneText (offset : Int) : String :=
  if offset = 0 then "datetime.timezone.utc" else timeText "timezone" [Time.spanText offset]

/-- The numbers of a moment; seconds and what is smaller are left out where they are zero. -/
def momentParts (t : Time.Timestamp) : List String :=
  let always := [t.date.year, t.date.month, t.date.day, t.hour, t.minute]
  let small :=
    if t.micros = 0 then (if t.second = 0 then [] else [t.second]) else [t.second, t.micros]
  let zone? := t.offset?.map fun offset => "tzinfo=" ++ zoneText offset
  (always ++ small).map toString ++ zone?.toList

/-- A scalar as messages show it. -/
def Scalar.shown : Scalar → Except Text.NumberTooLong String
  | .null => .ok "None"
  | .truth b => .ok (if b then "True" else "False")
  | .integer n => Text.writeInteger n
  | .float x => .ok x.text
  | .notANumber _ => .ok "nan"
  | .text s => .ok (Text.quotedPoints s)
  | .bytes bs => .ok (quotedBytes bs)
  | .date d => .ok (timeText "date" ([d.year, d.month, d.day].map toString))
  | .timestamp t => .ok (timeText "datetime" (momentParts t))

/-! ## Values -/

/-- A value; a sequence or a mapping that is part of itself is not unfolded again. -/
inductive Value
  | scalar (scalar : Scalar)
  | sequence (items : List Value)
  | pairs (pairs : List (Value × Value))
  | mapping (entries : List (Scalar × Value))
  | set (members : List Scalar)
  | enclosingSequence
  | enclosingMapping

instance : Inhabited Value := ⟨.scalar .null⟩

namespace Value

/-- The name of the kind of a value. -/
def kind : Value → String
  | .scalar s => s.kind
  | .sequence _ | .pairs _ | .enclosingSequence => "list"
  | .mapping _ | .enclosingMapping => "dict"
  | .set _ => "set"

/-- Braces around a list of items. -/
def braced (items : List String) : String := "\x7b" ++ ", ".intercalate items ++ "\x7d"

mutual
/-- A value as messages show it. -/
def shown : Value → Except Text.NumberTooLong String
  | .scalar s => s.shown
  | .sequence items => Text.bracketed <$> shownItems items
  | .pairs ps => Text.bracketed <$> shownPairs ps
  | .mapping entries => braced <$> shownEntries entries
  | .set [] => .ok "set()"
  | .set members => braced <$> members.mapM Scalar.shown
  | .enclosingSequence => .ok "[...]"
  | .enclosingMapping => .ok (braced ["..."])
/-- Each item of a sequence as messages show it. -/
def shownItems : List Value → Except Text.NumberTooLong (List String)
  | [] => .ok []
  | v :: vs => do return (← v.shown) :: (← shownItems vs)
/-- Each pair as messages show it. -/
def shownPairs : List (Value × Value) → Except Text.NumberTooLong (List String)
  | [] => .ok []
  | (a, b) :: ps => do
    return ("(" ++ (← a.shown) ++ ", " ++ (← b.shown) ++ ")") :: (← shownPairs ps)
/-- Each entry of a mapping as messages show it. -/
def shownEntries : List (Scalar × Value) → Except Text.NumberTooLong (List String)
  | [] => .ok []
  | (k, v) :: entries => do
    return ((← k.shown) ++ ": " ++ (← v.shown)) :: (← shownEntries entries)
end

end Value

/-! ## Entries of a mapping -/

/-- What a mapping from scalars has under its keys, in the order of the keys. -/
abbrev Keyed (α : Type) := List (Scalar × α)

namespace Keyed

variable {α : Type}

/-- Put something under a key. A key that is there already keeps its place and its form. -/
def insert (key : Scalar) (value : α) : Keyed α → Keyed α
  | [] => [(key, value)]
  | (k, v) :: rest => if k.same key then (k, value) :: rest else (k, v) :: insert key value rest

/-- What is under a text as key. -/
def lookup (name : String) (entries : Keyed α) : Option α :=
  (entries.find? fun e => e.1 == .text (Text.points name)).map (·.2)

theorem lookup_insert (name : String) (value : α) (entries : Keyed α) :
    lookup name (insert (.text (Text.points name)) value entries) = some value := by
  induction entries with
  | nil => simp [insert, lookup]
  | cons e rest ih =>
    obtain ⟨k, v⟩ := e
    unfold insert
    by_cases h : k = .text (Text.points name)
    · have hs : k.same (.text (Text.points name)) = true := Scalar.same_text_iff.2 h
      have hb : (k == Scalar.text (Text.points name)) = true := by simpa using h
      simp only [hs, if_true, lookup, List.find?_cons, hb, Option.map_some]
    · have hs : ¬ k.same (.text (Text.points name)) = true :=
        fun hk => h (Scalar.same_text_iff.1 hk)
      have hb : (k == Scalar.text (Text.points name)) = false := by simpa using h
      simp only [hs, Bool.false_eq_true, if_false, lookup, List.find?_cons, hb]
      exact ih

end Keyed

/-- The entries of a mapping in their order. A value is unfolded only when it is asked for, since it
can be far larger than the document. -/
abbrev Entries := Keyed (Thunk Value)

/-- What a document is. -/
inductive Document
  | nothing
  | mapping (entries : Entries)
  | other (kind : String)

end AuthKeyspace.Yaml
