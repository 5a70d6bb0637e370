import AuthKeyspace.Text.Quoted

/-!
# Literals and maps

A text inside a statement stands between single quotes, each quote in it written twice. A map is a
list of such texts in pairs between braces; to be the same for every order in which the entries
come, it is written with `class` first and the other keys in the order of their code points.

Main statements: `mapOrder_total` and `mapOrder_trans`, so that sorting fixes the order.
-/

namespace AuthKeyspace.Cql

/-- The inside of a literal: every single quote written twice. -/
def literalBody (text : String) : String := String.ofList (Text.double '\'' text.toList)

/-- A text as a literal. -/
def literal (text : String) : String := "'" ++ literalBody text ++ "'"

/-- Does the key `a` come before the key `b`, or is it the same? -/
def mapOrder (a b : String) : Bool :=
  a == "class" || (b != "class" && decide (a ≤ b))

/-- One entry of a map. -/
def mapEntry (entry : String × String) : String := literal entry.1 ++ ": " ++ literal entry.2

/-- A map with the given entries. -/
def mapLiteral (entries : List (String × String)) : String :=
  let ordered := entries.mergeSort fun a b => mapOrder a.1 b.1
  "\x7b" ++ ", ".intercalate (ordered.map mapEntry) ++ "\x7d"

theorem mapOrder_total (a b : String) : (mapOrder a b || mapOrder b a) = true := by
  simp only [mapOrder, Bool.or_eq_true, Bool.and_eq_true, beq_iff_eq, bne_iff_ne, decide_eq_true_eq]
  by_cases ha : a = "class"
  · exact .inl (.inl ha)
  · by_cases hb : b = "class"
    · exact .inr (.inl hb)
    · rcases String.le_total a b with h | h
      · exact .inl (.inr ⟨hb, h⟩)
      · exact .inr (.inr ⟨ha, h⟩)

theorem mapOrder_trans (a b c : String) (hab : mapOrder a b = true) (hbc : mapOrder b c = true) :
    mapOrder a c = true := by
  simp only [mapOrder, Bool.or_eq_true, Bool.and_eq_true, beq_iff_eq, bne_iff_ne,
    decide_eq_true_eq] at *
  rcases hab with h | ⟨hb, h⟩
  · exact .inl h
  · rcases hbc with h' | ⟨hc, h'⟩
    · exact absurd h' hb
    · exact .inr ⟨hc, String.le_trans h h'⟩

end AuthKeyspace.Cql
