import AuthKeyspace.Proofs.Cql.Printing
import AuthKeyspace.Proofs.Cql.Reading

/-!
# Names are read back

Whatever a name is, writing it and reading what was written gives the name
again (`quoteName_exact`). What is written is one lexeme, a bare word or a
quoted name, and it is the first lexeme of any text that begins with it, as
long as nothing behind it goes on with it. No word is folded, since a word that
has capitals is written in quotes; no quote of a name ends it, since inside of
quotes it is doubled.

So two names are never written the same, and neither are two pairs of names
with a dot between them: a dot in a name stands inside of quotes.
-/

namespace AuthKeyspace.Cql

open AuthKeyspace.Text

/-- The first lexeme of the text `cs` is `l`, which begins at once, and `rest` is
what is left of the text behind it. -/
structure FirstLexeme (cs : List Char) (l : Lexeme) (rest : List Char) : Prop where
  split : cs = l.text ++ rest
  read : ∃ c more, l.text = c :: more ∧ isBlank c = false ∧
    lexemeAt? c (more ++ rest) = some (l, more.length)
  scan : ∀ position, scan position 0 cs =
    (scan (position + l.text.length) 0 rest).map (⟨l, position⟩ :: ·)

theorem firstLexeme_of_whole {l : Lexeme} {rest : List Char} (h : Whole l rest) :
    FirstLexeme (l.text ++ rest) l rest :=
  ⟨rfl, lexemeAt?_of_whole h, scan_lexeme h⟩

theorem firstLexeme_quoteName (name : String) {rest : List Char} (hrest : Stops rest) :
    FirstLexeme ((quoteName name).toList ++ rest) (nameLexeme name.toList) rest := by
  rw [← text_nameLexeme_quoteName]
  exact firstLexeme_of_whole (whole_nameLexeme name.toList hrest)

theorem quoteName_injective : Function.Injective quoteName := by
  intro m n h
  exact delimited_quoteName.injective apart_nil (congrArg String.toList h)

theorem qualifiedName_cql_injective : Function.Injective QualifiedName.cql := by
  intro m n h
  exact delimited_qualifiedName.injective apart_nil (congrArg String.toList h)

/-- The first lexeme of a text that begins with a written name is what was
written, and is read as that name. No two names are written the same, and no two
pairs of a keyspace and a table. -/
theorem quoteName_exact :
    (∀ name rest, Stops rest → ∃ l, l.text = (quoteName name).toList ∧
      FirstLexeme ((quoteName name).toList ++ rest) l rest ∧
      ∀ what position tokens, Reader.name what (⟨l, position⟩ :: tokens) = .ok (name, tokens)) ∧
      Function.Injective quoteName ∧ Function.Injective QualifiedName.cql := by
  refine ⟨?_, quoteName_injective, qualifiedName_cql_injective⟩
  intro name rest hrest
  refine ⟨nameLexeme name.toList, text_nameLexeme_quoteName name,
    firstLexeme_quoteName name hrest, ?_⟩
  intro what position tokens
  exact name_cons (nameForm_nameLexeme name) tokens

/-- Of the name `a"b` in parentheses all six characters are read, and it is had
back; the dot of a name is not the dot between two. -/
theorem quoteName_exact_quote :
    Stops [')'] ∧
      (∃ l, l.text = ['"', 'a', '"', '"', 'b', '"'] ∧
        FirstLexeme ['"', 'a', '"', '"', 'b', '"', ')'] l [')'] ∧
        Reader.name .columnName [⟨l, 1⟩] = .ok (String.ofList ['a', '"', 'b'], [])) ∧
      QualifiedName.cql ⟨"a.b", "c"⟩ ≠ QualifiedName.cql ⟨"a", "b.c"⟩ := by
  have hstops : Stops [')'] := apart_cons _
  have hwritten : (quoteName (String.ofList ['a', '"', 'b'])).toList =
      ['"', 'a', '"', '"', 'b', '"'] := by
    rw [quoteName, String.toList_ofList, String.toList_ofList]
    decide
  obtain ⟨hread, -, hpairs⟩ := quoteName_exact
  obtain ⟨l, htext, hfirst, hname⟩ := hread (String.ofList ['a', '"', 'b']) [')'] hstops
  rw [hwritten] at htext hfirst
  refine ⟨hstops, ⟨l, htext, hfirst, hname _ _ _⟩, fun h => ?_⟩
  have hsame := congrArg QualifiedName.table (hpairs h)
  revert hsame
  decide

end AuthKeyspace.Cql
