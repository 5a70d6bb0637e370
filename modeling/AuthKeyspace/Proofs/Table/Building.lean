import AuthKeyspace.Table.Descriptor
import AuthKeyspace.Proofs.Cql.Declared

/-!
# When a table is built

A table is built from a declaration exactly if the name is a name, the text is
not blank, and the text with the name in its place is read as a table of that
name. Everything the table then carries is made from the declaration and the
keyspace (`Descriptor.build_eq_ok_iff`).

For a fixed name and template that is a computation on their characters
(`exists_build_of_declaresItself`).
-/

namespace AuthKeyspace

open AuthKeyspace.Cql

/-- A table that was read from a text belongs to the keyspace it was read
for. -/
theorem Cql.keyspace_of_ofText {keyspace text : String} {s : Structure}
    (h : Structure.ofText keyspace text = .ok s) : s.keyspace = keyspace := by
  obtain ⟨-, tokens, statement, key, -, -, -, rfl⟩ := ofText_eq_ok_iff.1 h
  rfl

namespace Table

/-- The table that a declaration makes of the structure its text is read as. -/
def Declaration.descriptor (d : Declaration) (keyspace : String) (s : Structure) : Descriptor where
  name := d.name
  description := d.description
  layout := s
  id := .ofName keyspace d.name
  options := { comment := d.description }
  schemaText := fill d.schemaText d.name

namespace Descriptor

theorem build_eq_ok_iff {keyspace : String} {d : Declaration} {t : Descriptor} :
    build keyspace d = .ok t ↔
      tableNameFault? d.name = none ∧ Text.allBlank d.schemaText.toList = false ∧
        ∃ s, Structure.ofText keyspace (fill d.schemaText d.name) = .ok s ∧ s.name = d.name ∧
          t = d.descriptor keyspace s := by
  constructor
  · intro h
    unfold build at h
    dsimp only at h
    split at h
    · cases h
    · next hname =>
      split at h
      · cases h
      · next hblank =>
        split at h
        · cases h
        · next s hs =>
          split at h
          · next hsame =>
            cases h
            exact ⟨hname, Bool.eq_false_iff.2 hblank, s, hs, hsame, rfl⟩
          · cases h
  · intro h
    obtain ⟨hname, hblank, s, hs, hsame, rfl⟩ := h
    simp only [build, hname, hblank, hs, hsame, if_true]
    rfl

/-- A built table belongs to the keyspace it was built for. -/
theorem keyspace_of_build {keyspace : String} {d : Declaration} {t : Descriptor}
    (h : build keyspace d = .ok t) : t.keyspace = keyspace := by
  obtain ⟨-, -, s, hs, -, rfl⟩ := build_eq_ok_iff.1 h
  exact keyspace_of_ofText hs

theorem fullName_of_build {keyspace : String} {d : Declaration} {t : Descriptor}
    (h : build keyspace d = .ok t) : t.fullName = keyspace ++ "." ++ d.name := by
  have hkeyspace : t.layout.keyspace = keyspace := keyspace_of_build h
  show t.layout.keyspace ++ "." ++ t.layout.name = _
  rw [hkeyspace, (build_name h).2]

/-- A built table remembers deleted data for the whole grace period. -/
theorem retention_of_build {keyspace : String} {d : Declaration} {t : Descriptor}
    (h : build keyspace d = .ok t) : t.retention = .ok gracePeriod := by
  obtain ⟨-, -, s, -, -, rfl⟩ := build_eq_ok_iff.1 h
  exact Options.retention_declared

end Descriptor

/-! ## Templates that are fixed -/

/-- The name of the table that characters declare. -/
def declaredName? (keyspace : String) (cs : List Char) : Option String :=
  (tokenize cs).toOption.bind fun tokens =>
    (Statement.ofTokens tokens).toOption.bind fun s =>
      (Structure.ofStatement keyspace s).toOption.map (·.name)

theorem ofText_of_declaredName? {keyspace text name : String}
    (hblank : Text.allBlank text.toList = false)
    (h : declaredName? keyspace text.toList = some name) :
    ∃ s, Structure.ofText keyspace text = .ok s ∧ s.name = name := by
  unfold declaredName? at h
  cases htokens : tokenize text.toList with
  | error e => simp [htokens, Except.toOption] at h
  | ok tokens =>
    cases hs : Statement.ofTokens tokens with
    | error e => simp [htokens, hs, Except.toOption] at h
    | ok s =>
      cases ht : Structure.ofStatement keyspace s with
      | error e => simp [htokens, hs, ht, Except.toOption] at h
      | ok t =>
        refine ⟨t, ?_, by simpa [htokens, hs, ht, Except.toOption] using h⟩
        simp only [Structure.ofText, hblank, htokens, hs]
        exact ht

/-- Does a template with a name in its place declare a table of that name? -/
def declaresItself (keyspace name : String) (nameChars template : List Char) : Bool :=
  let filled := fillChars nameChars template
  isBare nameChars && decide (nameChars.length ≤ maxTableName) && !Text.allBlank template &&
    !Text.allBlank filled && declaredName? keyspace filled == some name

theorem exists_build_of_declaresItself {keyspace : String} {d : Declaration}
    {nameChars template : List Char} (hname : d.name.toList = nameChars)
    (htext : d.schemaText.toList = template)
    (h : declaresItself keyspace d.name nameChars template = true) :
    ∃ t, Descriptor.build keyspace d = .ok t := by
  subst hname htext
  simp only [declaresItself, Bool.and_eq_true, decide_eq_true_eq, Bool.not_eq_true',
    beq_iff_eq] at h
  obtain ⟨⟨⟨⟨hbare, hlength⟩, htemplate⟩, hfilled⟩, hdeclared⟩ := h
  have hchars : (fill d.schemaText d.name).toList = fillChars d.name.toList d.schemaText.toList :=
    String.toList_ofList
  rw [← hchars] at hfilled hdeclared
  obtain ⟨s, hs, hsame⟩ := ofText_of_declaredName? hfilled hdeclared
  exact ⟨_, Descriptor.build_eq_ok_iff.2
    ⟨tableNameFault?_eq_none_iff.2 ⟨hbare, hlength⟩, htemplate, s, hs, hsame, rfl⟩⟩

theorem toList_append_eq {a b : String} {as bs : List Char} (ha : a.toList = as)
    (hb : b.toList = bs) : (a ++ b).toList = as ++ bs := by
  rw [String.toList_append, ha, hb]

end Table

end AuthKeyspace
