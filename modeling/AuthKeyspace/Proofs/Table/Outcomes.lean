import AuthKeyspace.Proofs.Cql.Places
import AuthKeyspace.Proofs.Cql.Unexpected
import AuthKeyspace.Proofs.Keyspace.Assembly
import AuthKeyspace.Proofs.Table.Building

/-!
# How the building of a table ends

Four things are looked at in turn: the name, whether there is any text, what the
text says once the name is in its place, and whether that is a table of the
name. So there are four ways to fail (`Ends`), and a table is built if none of
them is met (`build_exact`).

Only the third is an error of reading. It is the one that reading the text
itself gives, of the same kind and at the same place of the text with the name
in it; but it is said to be about the table that was to be built, even if the
reader named another. The other failures have no place. A failure makes no
record.

The place for the name is said without the function that fills it
(`Substituted`).
-/

namespace AuthKeyspace

open AuthKeyspace.Cql

/-! ## Places are in the text -/

/-- The place of an error is in the text or right behind it. -/
theorem Cql.position_le_of_ofText {keyspace text : String} {e : ParseError}
    (h : Structure.ofText keyspace text = .error e) :
    ∀ p ∈ e.position?, p ≤ text.toList.length := by
  intro p hp
  by_cases hblank : Text.allBlank text.toList = true
  · rw [Structure.ofText, if_pos hblank] at h
    cases h
    obtain rfl := Option.some.inj hp
    exact Nat.zero_le _
  · rw [Bool.not_eq_true] at hblank
    cases htokens : tokenize text.toList with
    | error u =>
      have hread := ofText_of_tokenize_eq_error htokens keyspace
      rw [String.ofList_toList, h] at hread
      cases hread
      obtain rfl := Option.some.inj hp
      obtain ⟨tokens, hstuck⟩ := tokenize_eq_error_iff.1 htokens
      obtain ⟨hlt, -⟩ := List.getElem?_eq_some_iff.1 hstuck.at_char
      exact Nat.le_of_lt hlt
    | ok tokens => exact (pointsAt_of_ofText hblank htokens h p hp).le_length htokens

namespace Table

/-! ## The text with the name in its place -/

/-- The text is the template with the name for its first `%s`, if it has one. -/
inductive Substituted (name : List Char) : List Char → List Char → Prop
  | unchanged {template : List Char} (h : ¬ ['%', 's'] <:+: template) :
      Substituted name template template
  | first {before after : List Char} (h : ¬ ['%', 's'] <:+: before) :
      Substituted name (before ++ '%' :: 's' :: after) (before ++ (name ++ after))

theorem not_infix_cons {c : Char} {cs : List Char} (hc : ∀ rest, c :: cs ≠ '%' :: 's' :: rest)
    (h : ¬ ['%', 's'] <:+: cs) : ¬ ['%', 's'] <:+: c :: cs := by
  intro hinfix
  rcases List.infix_cons_iff.1 hinfix with hprefix | hinfix
  · obtain ⟨rest, hrest⟩ := hprefix
    exact hc rest hrest.symm
  · exact h hinfix

theorem substituted_fillChars (name template : List Char) :
    Substituted name template (fillChars name template) := by
  fun_induction fillChars name template with
  | case1 => exact .unchanged (by decide)
  | case2 rest => exact .first (by decide : ¬ ['%', 's'] <:+: [])
  | case3 c rest hne ih =>
    have hc : ∀ more, c :: rest ≠ '%' :: 's' :: more := by
      rintro more heq
      obtain ⟨rfl, hrest⟩ := List.cons.inj heq
      exact hne more rfl hrest
    generalize fillChars name rest = filled at ih ⊢
    cases ih with
    | unchanged h => exact .unchanged (not_infix_cons hc h)
    | @first before after h =>
      -- the place is further on, and what is before it begins as the whole does
      have hc' : ∀ more, c :: before ≠ '%' :: 's' :: more := by
        intro more heq
        exact hc (more ++ '%' :: 's' :: after) (congrArg (· ++ '%' :: 's' :: after) heq)
      exact Substituted.first (not_infix_cons hc' h)

/-- The text that is read: that of the declaration with the name in its place. -/
def Declaration.text (d : Declaration) : String := fill d.schemaText d.name

theorem Declaration.substituted_text (d : Declaration) :
    Substituted d.name.toList d.schemaText.toList d.text.toList := by
  have hchars : d.text.toList = fillChars d.name.toList d.schemaText.toList :=
    String.toList_ofList
  rw [hchars]
  exact substituted_fillChars _ _

/-! ## The ways to end -/

/-- How the building of a table ends. -/
inductive Ends (keyspace : String) (d : Declaration) : Except BuildError Descriptor → Prop
  | illegalName {fault : TableNameFault} (hname : tableNameFault? d.name = some fault) :
      Ends keyspace d (.error (.illegalName d.name fault))
  | blankText (hname : tableNameFault? d.name = none)
      (hblank : Text.allBlank d.schemaText.toList = true) :
      Ends keyspace d (.error (.blankText d.name))
  | unreadable {e : ParseError} (hname : tableNameFault? d.name = none)
      (hblank : Text.allBlank d.schemaText.toList = false)
      (hread : Structure.ofText keyspace d.text = .error e) :
      Ends keyspace d (.error (.unreadable d.name e))
  | otherTable {s : Structure} (hname : tableNameFault? d.name = none)
      (hblank : Text.allBlank d.schemaText.toList = false)
      (hread : Structure.ofText keyspace d.text = .ok s) (hother : s.name ≠ d.name) :
      Ends keyspace d (.error (.otherTable d.name s.name))
  | built {s : Structure} (hname : tableNameFault? d.name = none)
      (hblank : Text.allBlank d.schemaText.toList = false)
      (hread : Structure.ofText keyspace d.text = .ok s) (hsame : s.name = d.name) :
      Ends keyspace d (.ok (d.descriptor keyspace s))

theorem ends_build (keyspace : String) (d : Declaration) :
    Ends keyspace d (Descriptor.build keyspace d) := by
  unfold Descriptor.build
  dsimp only
  split
  · next fault hname => exact .illegalName hname
  · next hname =>
    split
    · next hblank => exact .blankText hname hblank
    · next hblank =>
      rw [Bool.not_eq_true] at hblank
      split
      · next e hread => exact .unreadable hname hblank hread
      · next s hread =>
        split
        · next hsame => exact .built hname hblank hread hsame
        · next hother => exact .otherTable hname hblank hread hother

/-- What a declaration is to be built as. -/
structure IsTableOf (keyspace : String) (d : Declaration) (t : Descriptor) : Prop where
  name_eq : t.name = d.name
  keyspace_eq : t.keyspace = keyspace
  fullName_eq : t.fullName = keyspace ++ "." ++ d.name
  id_eq : t.id = .ofName keyspace d.name
  comment_eq : t.options.comment = d.description
  retention_eq : ∃ r, t.retention = .ok r ∧ r.days = 90 ∧ r.seconds = 0 ∧ r.microseconds = 0
  schemaText_eq : t.schemaText = d.text
  layout_read : Structure.ofText keyspace d.text = .ok t.layout

theorem isTableOf_of_build {keyspace : String} {d : Declaration} {t : Descriptor}
    (h : Descriptor.build keyspace d = .ok t) : IsTableOf keyspace d t := by
  have hretention : ∃ r, t.retention = .ok r ∧ r.days = 90 ∧ r.seconds = 0 ∧ r.microseconds = 0 :=
    ⟨gracePeriod, Descriptor.retention_of_build h, by decide, by decide, by decide⟩
  have hkeyspace := Descriptor.keyspace_of_build h
  have hfullName := Descriptor.fullName_of_build h
  obtain ⟨-, -, s, hs, -, rfl⟩ := Descriptor.build_eq_ok_iff.1 h
  exact ⟨rfl, hkeyspace, hfullName, rfl, rfl, hretention, rfl, hs⟩

namespace BuildError

/-- The error as one of reading a text, if it is one. It is about the table that
was to be built. -/
def parseError? : BuildError → Option ParseError
  | .unreadable name e => some { e with table? := some name }
  | .illegalName _ _ | .blankText _ | .otherTable _ _ => none

/-- It says what the error of reading says. -/
theorem message_of_parseError? {f : BuildError} {e : ParseError} (h : f.parseError? = some e) :
    f.message = e.message := by
  cases f with
  | unreadable => cases h; rfl
  | illegalName | blankText | otherTable => cases h

end BuildError

theorem name_ne_empty {name : String} (h : tableNameFault? name = none) : name ≠ "" := by
  rintro rfl
  cases h

/-- An error is about the table that was to be built, unless its name is empty. -/
theorem Ends.table?_eq {keyspace : String} {d : Declaration} {f : BuildError}
    (h : Ends keyspace d (.error f)) :
    f.table? = if d.name = "" then none else some d.name := by
  cases h with
  | @illegalName fault =>
    by_cases hempty : d.name = ""
    · rw [if_pos hempty, hempty]
      rfl
    · rw [if_neg hempty, BuildError.table?.eq_2 _ _ hempty]
  | blankText hname | unreadable hname | otherTable hname =>
    rw [if_neg (name_ne_empty hname)]
    rfl

namespace Descriptor

/-- An error of reading the text is what stops the building, if nothing did
before. -/
theorem build_of_unreadable {keyspace : String} {d : Declaration} {e : ParseError}
    (hname : tableNameFault? d.name = none) (hblank : Text.allBlank d.schemaText.toList = false)
    (hread : Structure.ofText keyspace d.text = .error e) :
    build keyspace d = .error (.unreadable d.name e) := by
  have hfill : Structure.ofText keyspace (fill d.schemaText d.name) = .error e := hread
  simp only [build, hname, hblank, hfill]
  rfl

/-- How the building of a table ends. There is one if the name is a name, there is
a text, and the text with the name in its place is read as a table of the name;
then everything that the table carries is fixed. An error of reading comes through
with its fault and its place in that text, and is about the table of the name.
Every other failure is no such error. No failure makes a record. -/
theorem build_exact (keyspace : String) (d : Declaration) :
    (Substituted d.name.toList d.schemaText.toList d.text.toList ∧
        (buildLogged keyspace d).outcome = build keyspace d) ∧
      ((∃ t, build keyspace d = .ok t) ↔
        tableNameFault? d.name = none ∧ Text.allBlank d.schemaText.toList = false ∧
          ∃ s, Structure.ofText keyspace d.text = .ok s ∧ s.name = d.name) ∧
        (∀ t, build keyspace d = .ok t → IsTableOf keyspace d t) ∧
          (∀ e, tableNameFault? d.name = none → Text.allBlank d.schemaText.toList = false →
            Structure.ofText keyspace d.text = .error e →
              ∃ f, build keyspace d = .error f ∧ f.table? = some d.name ∧
                f.parseError? = some ⟨e.fault, e.position?, some d.name⟩ ∧
                  f.message = ParseError.message ⟨e.fault, e.position?, some d.name⟩ ∧
                    ∀ p ∈ e.position?, p ≤ d.text.toList.length) ∧
            ∀ f, build keyspace d = .error f →
              (¬ (tableNameFault? d.name = none ∧ Text.allBlank d.schemaText.toList = false ∧
                  ∃ e, Structure.ofText keyspace d.text = .error e) →
                f.parseError? = none ∧ f.table? = if d.name = "" then none else some d.name) ∧
              buildLogged keyspace d = ⟨[], .error f⟩ := by
  refine ⟨⟨d.substituted_text, outcome_buildLogged keyspace d⟩, ⟨?_, ?_⟩,
    fun t => isTableOf_of_build, ?_, ?_⟩
  · rintro ⟨t, h⟩
    obtain ⟨hname, hblank, s, hs, hsame, -⟩ := build_eq_ok_iff.1 h
    exact ⟨hname, hblank, s, hs, hsame⟩
  · rintro ⟨hname, hblank, s, hs, hsame⟩
    exact ⟨_, build_eq_ok_iff.2 ⟨hname, hblank, s, hs, hsame, rfl⟩⟩
  · intro e hname hblank hread
    exact ⟨_, build_of_unreadable hname hblank hread, rfl, rfl,
      BuildError.message_of_parseError? rfl, position_le_of_ofText hread⟩
  · intro f h
    have hends := ends_build keyspace d
    rw [h] at hends
    constructor
    · intro hnot
      refine ⟨?_, hends.table?_eq⟩
      cases hends with
      | unreadable hname hblank hread => exact absurd ⟨hname, hblank, _, hread⟩ hnot
      | illegalName | blankText | otherTable => rfl
    · rw [buildLogged, h]

/-- A text of another keyspace is refused as such, but for the table of the name
and not for the one that the text is of. -/
theorem build_exact_mislabelled :
    (∃ f, build "auth" ⟨"roles", "", "CREATE TABLE other.%s_old (a int PRIMARY KEY)"⟩ = .error f ∧
        f.table? = some "roles" ∧ f.parseError? = some
          ⟨.content (.foreignKeyspace "other" "auth"), none, some "roles"⟩ ∧
        buildLogged "auth" ⟨"roles", "", "CREATE TABLE other.%s_old (a int PRIMARY KEY)"⟩ =
          ⟨[], .error f⟩) ∧
      (∃ f, build "auth" ⟨"", "", "CREATE TABLE roles (a int PRIMARY KEY)"⟩ = .error f ∧
        f.parseError? = none ∧ f.table? = none) ∧
        ∃ t, build "auth" ⟨"roles", "who may", "CREATE TABLE %s (a int PRIMARY KEY)"⟩ = .ok t ∧
          t.fullName = "auth.roles" := by
  have hforeign : Structure.ofText "auth"
      (Declaration.text ⟨"roles", "", "CREATE TABLE other.%s_old (a int PRIMARY KEY)"⟩) =
        .error ⟨.content (.foreignKeyspace "other" "auth"), none, some "roles_old"⟩ := rfl
  have hnone : build "auth" ⟨"", "", "CREATE TABLE roles (a int PRIMARY KEY)"⟩ =
      .error (.illegalName "" .empty) := rfl
  have hread : Structure.ofText "auth"
      (Declaration.text ⟨"roles", "who may", "CREATE TABLE %s (a int PRIMARY KEY)"⟩) =
        .ok ⟨"auth", "roles", [⟨"a", .scalar .int⟩], .single "a", false⟩ := rfl
  obtain ⟨-, -, -, hparse, hfail⟩ :=
    build_exact "auth" ⟨"roles", "", "CREATE TABLE other.%s_old (a int PRIMARY KEY)"⟩
  obtain ⟨f, hf, htable, herror, -⟩ := hparse _ rfl (by decide) hforeign
  obtain ⟨-, -, -, -, hfail'⟩ :=
    build_exact "auth" ⟨"", "", "CREATE TABLE roles (a int PRIMARY KEY)"⟩
  obtain ⟨hother, -⟩ := hfail' _ hnone
  obtain ⟨hclass, htable'⟩ := hother fun h => by cases h.1
  obtain ⟨-, hiff, htableOf, -⟩ :=
    build_exact "auth" ⟨"roles", "who may", "CREATE TABLE %s (a int PRIMARY KEY)"⟩
  obtain ⟨t, ht⟩ := hiff.2 ⟨rfl, by decide, _, hread, rfl⟩
  exact ⟨⟨f, hf, htable, herror, (hfail f hf).2⟩, ⟨_, hnone, hclass, htable'⟩, t, ht,
    (htableOf t ht).fullName_eq⟩

end Descriptor

end Table

end AuthKeyspace
