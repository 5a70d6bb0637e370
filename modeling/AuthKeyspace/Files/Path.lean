import AuthKeyspace.Text.Split

/-!
# Paths

A path is a root and the names behind it. Empty names and single dots say nothing and are left out,
so the same place is written in one way more often; two dots stay, since what they mean depends on
the files. One leading slash is a root, and so are exactly two, which some systems keep apart; more
are one.

Main statement: `slash_not_mem_names_ofText`, no name of a path holds a slash.
-/

namespace AuthKeyspace.Files

/-- Where a path begins. -/
inductive Root
  | relative
  | single
  | double
deriving DecidableEq, Repr

/-- The slashes of a root. -/
def Root.text : Root → String
  | .relative => ""
  | .single => "/"
  | .double => "//"

/-- A path. -/
structure Path where
  root : Root
  names : List String
deriving DecidableEq, Repr

/-- Does a name say anything? -/
def isStep (name : String) : Bool := name != "" && name != "."

namespace Path

/-- The root of a text. -/
def rootOf : List Char → Root
  | '/' :: '/' :: '/' :: _ => .single
  | '/' :: '/' :: _ => .double
  | '/' :: _ => .single
  | _ => .relative

/-- The path that a text writes. -/
def ofText (text : String) : Path where
  root := rootOf text.toList
  names := ((Text.splitOn '/' text.toList).map String.ofList).filter isStep

/-- The text of a path; the path that says nothing is a dot. -/
def text (p : Path) : String :=
  if p.root = .relative ∧ p.names = [] then "." else p.root.text ++ "/".intercalate p.names

theorem slash_not_mem_names_ofText {text name : String} (h : name ∈ (ofText text).names) :
    '/' ∉ name.toList := by
  simp only [ofText, List.mem_filter, List.mem_map] at h
  obtain ⟨⟨part, hpart, rfl⟩, -⟩ := h
  rw [String.toList_ofList]
  exact Text.not_mem_of_mem_splitOn hpart

end Path

end AuthKeyspace.Files
