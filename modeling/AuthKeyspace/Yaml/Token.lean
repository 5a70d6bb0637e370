import AuthKeyspace.Text.Point

/-!
# Tokens of a document

Brackets, dashes and colons mark the collections of a document; where only the indentation marks
them, tokens say that a collection begins or ends. What is left are texts, and the anchors, aliases
and tags that belong to them.
-/

namespace AuthKeyspace.Yaml

/-- A line before a document that says how to read it. -/
inductive Directive
  | version (major minor : Nat)
  | tagHandle (handle expansion : String)
  | unknown (name : String)
deriving DecidableEq, Repr

/-- The smallest parts of a document. -/
inductive Token
  | directive (directive : Directive)
  | documentStart
  | documentEnd
  | blockSequence
  | blockMapping
  | blockEnd
  | bracketOpen
  | bracketClose
  | braceOpen
  | braceClose
  | dash
  | comma
  | keyMark
  | valueMark
  | reference (name : String)
  | anchor (name : String)
  | tag (handle? : Option String) (suffix : String)
  | text (text : List Text.Point) (plain : Bool)
deriving DecidableEq, Repr

end AuthKeyspace.Yaml
