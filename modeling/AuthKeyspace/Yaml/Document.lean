import AuthKeyspace.Text.Portions
import AuthKeyspace.Yaml.Composition
import AuthKeyspace.Yaml.Content

/-!
# Documents

A file is read as one document. Its characters are split into tokens, the tokens make a graph, and
the content of the graph is the document. All is read as far as it is needed: a part of a file in
which a character is not allowed, or whose bytes are no characters, is a fault only once it is
reached, except that the first two portions are read at once.

Main statement: `Document.feed_of_whole`, a file without faults does not break off.
-/

namespace AuthKeyspace.Yaml

/-- The characters of a document, and the fault, if any, with which they break off. -/
structure Feed where
  chars : List Char
  cut? : Option Fault
deriving DecidableEq, Repr

namespace Document

/-- The characters of portions up to one with a character that is not allowed, where `stop?` is the
fault behind the portions. -/
def feed (stop? : Option Fault) : List (List Char) → Feed
  | [] => ⟨[], stop?⟩
  | portion :: rest =>
    if portion.all isAllowed then
      let more := feed stop? rest
      { more with chars := portion ++ more.chars }
    else ⟨[], some .malformed⟩

theorem feed_of_whole {portions : List (List Char)} (h : portions.flatten.all isAllowed = true) :
    feed none portions = ⟨portions.flatten, none⟩ := by
  induction portions with
  | nil => rfl
  | cons portion rest ih =>
    simp only [List.flatten_cons, List.all_append, Bool.and_eq_true] at h
    simp [feed, h.1, ih h.2]

/-- How many portions are read at once. -/
def portionsAtOnce : Nat := 2

/-- The characters of a file. -/
def feedOf (p : Text.Portions) : Except Fault Feed :=
  let stop? := p.stop?.map Fault.undecodable
  match stop?, decide (p.portions.length < portionsAtOnce) with
  | some fault, true => .error fault
  | _, _ =>
    if (p.portions.take portionsAtOnce).all (·.all isAllowed) then .ok (feed stop? p.portions)
    else .error .malformed

/-- What the root of a graph is, its content being known. -/
def ofContent (known : Content.Known) : Document :=
  match Content.knownAt known 0 with
  | none | some (.scalar .null) => .nothing
  | some (.scalar s) => .other s.kind
  | some (.mapping entries) =>
    .mapping (entries.map fun (k, id) => (k, Thunk.mk fun _ => Content.valueAt known id))
  | some (.sequence _) | some (.pairs _) => .other (Value.kind (.sequence []))
  | some (.set _) => .other (Value.kind (.set []))

/-- What is known of the document of a file, the nodes of an empty one being none. -/
def contentOf (p : Text.Portions) : Except Fault Content.Known := do
  let f ← feedOf p
  let g ← Composition.graphOf f.chars f.cut?
  if g.size = 0 then return #[] else Content.ofGraph g

/-- Read the document of a file. -/
def ofPortions (p : Text.Portions) : Except Fault Document := (contentOf p).map ofContent

end Document

end AuthKeyspace.Yaml
