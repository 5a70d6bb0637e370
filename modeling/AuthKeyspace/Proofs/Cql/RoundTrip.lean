import AuthKeyspace.Proofs.Cql.Declared

/-!
# What is written is read back

A table that was read from a text and is written as a statement is read as the
same table again (`ofText_cql`). The lexemes of the written statement derive it
in the grammar, piece by piece: a type because its parts were formed when it
was first read, a name because its quotes and its case say what it stands for,
a key and a column because the words around them are the grammar's own.

There is one exception. The word `if` is a keyspace like any other and needs no
quotes, but behind CREATE TABLE it commits the statement to a guard. So without
a guard the statement of a table of that keyspace is never read.
-/

namespace AuthKeyspace.Cql

/-! ## Types -/

theorem constructorForm_word (c : TypeConstructor) : ConstructorForm (.word c.word.toList) c :=
  .word (by cases c <;> rfl)

/-- A constructor and its arguments are written as the grammar has them. -/
theorem typeForm_of_formed {c : TypeConstructor} {t ty : DataType} {ts : List DataType}
    (ht : TypeForm t.lexemes t) (hts : FurtherTypesForm (furtherLexemes ts) ts)
    (hty : Formed c (t :: ts) ty) : TypeForm ty.lexemes ty := by
  have hform := TypeForm.formed (constructorForm_word c) ht hts hty
  cases hty with
  | set | list | map | tuple | frozen =>
    simpa [DataType.lexemes, formedLexemes, furtherLexemes] using hform

mutual
/-- A type that the grammar has is written as a phrase of the grammar. -/
theorem typeForm_lexemes {ls : List Lexeme} {ty : DataType} :
    TypeForm ls ty → TypeForm ty.lexemes ty
  | .scalar (s := s) _ => .scalar (.word (by cases s <;> rfl))
  | .formed _ ht hts hty =>
    typeForm_of_formed (typeForm_lexemes ht) (furtherTypesForm_lexemes hts) hty
theorem furtherTypesForm_lexemes {ls : List Lexeme} {ts : List DataType} :
    FurtherTypesForm ls ts → FurtherTypesForm (furtherLexemes ts) ts
  | .nil => .nil
  | .cons ht hts => .cons (typeForm_lexemes ht) (furtherTypesForm_lexemes hts)
end

/-! ## Keys -/

theorem listLexemes_cons (piece : List Lexeme) (pieces : List (List Lexeme)) :
    listLexemes (piece :: pieces) = piece ++ pieces.flatMap (.symbol .comma :: ·) :=
  Text.intercalate_cons_eq_flatMap _ piece pieces

theorem listLexemes_cons_of_ne_nil (piece : List Lexeme) {pieces : List (List Lexeme)}
    (hne : pieces ≠ []) :
    listLexemes (piece :: pieces) = piece ++ .symbol .comma :: listLexemes pieces := by
  rw [listLexemes, List.intercalate_cons_of_ne_nil hne, List.append_assoc]
  rfl

theorem furtherNamesForm_lexemes (names : List String) :
    FurtherNamesForm
      ((names.map fun n => [nameLexeme n.toList]).flatMap (.symbol .comma :: ·)) names := by
  induction names with
  | nil => exact .nil
  | cons n names ih => exact .cons (nameForm_nameLexeme n) ih

theorem keyForm_lexemes (k : PrimaryKey) :
    KeyForm (.symbol .openParen :: (listLexemes (partitionLexemes k.partition ::
      k.clustering.map fun n => [nameLexeme n.toList]) ++ [.symbol .closeParen])) k := by
  obtain ⟨partition, clustering, hne⟩ := k
  have hclustering := furtherNamesForm_lexemes clustering
  rw [listLexemes_cons]
  match partition, hne with
  | [n], _ =>
    exact .simple (nameForm_nameLexeme n) hclustering
  | n :: m :: names, _ =>
    have hpartition := furtherNamesForm_lexemes (m :: names)
    have hform := KeyForm.composite (nameForm_nameLexeme n) hpartition hclustering
    simpa [partitionLexemes, namesLexemes, listLexemes_cons, PrimaryKey.ofFirst] using hform

/-! ## Definitions -/

theorem keywordForm_of_eq {k : String} {l : Lexeme} (hl : l = .word k.toList)
    (hk : k.toList.map Char.toUpper = k.toList := by decide) : KeywordForm k l := by
  rw [hl]
  exact .word hk

theorem definitionForm_column {c : Column} (hc : TypeForm c.type.lexemes c.type) {ts : List Token}
    (hts : lexemes ts = c.lexemes) : ∃ position, DefinitionForm ts (.column c position false) := by
  obtain ⟨t, us, rfl, ht, hus⟩ := lexemes_eq_cons_iff.1 hts
  refine ⟨t.position, .column ?_ ?_⟩
  · rw [ht]
    exact nameForm_nameLexeme c.name
  · rw [hus]
    exact hc

theorem definitionForm_key {k : PrimaryKey} {ts : List Token} (hts : lexemes ts = k.lexemes) :
    DefinitionForm ts (.key k) := by
  obtain ⟨p, us, rfl, hp, hus⟩ := lexemes_eq_cons_iff.1 hts
  obtain ⟨q, vs, rfl, hq, hvs⟩ := lexemes_eq_cons_iff.1 hus
  refine .key (keywordForm_of_eq hp) (keywordForm_of_eq hq) ?_
  rw [hvs]
  exact keyForm_lexemes k

/-- Columns and a key behind them are written as definitions of these columns
and this key. -/
theorem definitionsForm_lexemes {columns : List Column} (k : PrimaryKey)
    (hcolumns : ∀ c ∈ columns, TypeForm c.type.lexemes c.type) {ts : List Token}
    (hts : lexemes ts = listLexemes (columns.map Column.lexemes ++ [k.lexemes])) :
    ∃ ds, DefinitionsForm ts ds ∧ ds.filterMap Definition.column? = columns ∧
      ds.filterMap Definition.key? = [k] := by
  induction columns generalizing ts with
  | nil =>
    have hkey : lexemes ts = k.lexemes := by simpa [listLexemes] using hts
    exact ⟨[.key k], .one (definitionForm_key hkey), rfl, rfl⟩
  | cons c columns ih =>
    rw [List.map_cons, List.cons_append, listLexemes_cons_of_ne_nil _ (by simp)] at hts
    obtain ⟨us, vs, rfl, hus, hvs⟩ := lexemes_eq_append_iff.1 hts
    obtain ⟨comma, ws, rfl, hcomma, hws⟩ := lexemes_eq_cons_iff.1 hvs
    obtain ⟨hc, hmore⟩ := List.forall_mem_cons.1 hcolumns
    obtain ⟨position, hfirst⟩ := definitionForm_column hc hus
    obtain ⟨ds, hds, hcolumnsOf, hkeysOf⟩ := ih hmore hws
    refine ⟨.column c position false :: ds, .cons hfirst hcomma hds, ?_, ?_⟩
    · show c :: ds.filterMap Definition.column? = c :: columns
      rw [hcolumnsOf]
    · exact hkeysOf

/-! ## Statements -/

/-- The statement that a table is written as, `ds` being its definitions. -/
def Structure.statement (s : Structure) (guarded : Bool) (ds : List Definition) : Statement :=
  { keyspace? := some s.keyspace, table := s.name, guarded, definitions := ds }

/-- What a table is written as derives its statement, unless it would be taken
for a guard. -/
theorem statementForm_lexemes {s : Structure} {guarded : Bool}
    (hcolumns : ∀ c ∈ s.columns, TypeForm c.type.lexemes c.type)
    (hif : guarded = false → s.keyspace ≠ "if") {ts : List Token}
    (hts : lexemes ts = s.lexemes guarded) :
    ∃ ds, StatementForm ts (s.statement guarded ds) ∧ ds.filterMap Definition.column? = s.columns ∧
      ds.filterMap Definition.key? = [s.primaryKey] := by
  obtain ⟨create, us, rfl, hcreate, hus⟩ := lexemes_eq_cons_iff.1 hts
  obtain ⟨table, vs, rfl, htable, hvs⟩ := lexemes_eq_cons_iff.1 hus
  obtain ⟨gs, ws, rfl, hgs, hws⟩ := lexemes_eq_append_iff.1 hvs
  obtain ⟨keyspace, xs, rfl, hkeyspace, hxs⟩ := lexemes_eq_cons_iff.1 hws
  obtain ⟨dot, xs', rfl, hdot, hxs'⟩ := lexemes_eq_cons_iff.1 hxs
  obtain ⟨name, ys, rfl, hname, hys⟩ := lexemes_eq_cons_iff.1 hxs'
  obtain ⟨o, zs, rfl, ho, hzs⟩ := lexemes_eq_cons_iff.1 hys
  obtain ⟨items, cs, rfl, hitems, hcs⟩ := lexemes_eq_append_iff.1 hzs
  obtain ⟨c, after, rfl, hc, hafter⟩ := lexemes_eq_cons_iff.1 hcs
  obtain rfl := lexemes_eq_nil_iff.1 hafter
  obtain ⟨ds, hds, hcolumnsOf, hkeysOf⟩ := definitionsForm_lexemes s.primaryKey hcolumns hitems
  have hguard : GuardForm gs guarded := by
    cases guarded with
    | false =>
      obtain rfl := lexemes_eq_nil_iff.1 hgs
      exact .absent
    | true =>
      obtain ⟨i, gs₁, rfl, hi, hgs₁⟩ := lexemes_eq_cons_iff.1 hgs
      obtain ⟨n, gs₂, rfl, hn, hgs₂⟩ := lexemes_eq_cons_iff.1 hgs₁
      obtain ⟨e, gs₃, rfl, he, hgs₃⟩ := lexemes_eq_cons_iff.1 hgs₂
      obtain rfl := lexemes_eq_nil_iff.1 hgs₃
      exact .present (keywordForm_of_eq hi) (keywordForm_of_eq hn) (keywordForm_of_eq he)
  have hqualified : QualifiedForm [keyspace, dot, name] (some s.keyspace) s.name := by
    refine .qualified ?_ hdot ?_
    · rw [hkeyspace]; exact nameForm_nameLexeme s.keyspace
    · rw [hname]; exact nameForm_nameLexeme s.name
  have hcommitted : guarded = false →
      ∀ q ∈ [keyspace, dot, name].head?, ¬ KeywordForm "IF" q.lexeme := by
    intro hunguarded q hq hkeyword
    -- the first name is that of the keyspace
    obtain rfl := Option.some.inj hq
    rw [hkeyspace] at hkeyword
    exact hif hunguarded (eq_if_of_keywordForm hkeyword)
  exact ⟨ds, .mk (keywordForm_of_eq hcreate) (keywordForm_of_eq htable) hguard hqualified hcommitted
    ho hds hc .none, hcolumnsOf, hkeysOf⟩

/-- Each definition stands somewhere among the tokens. -/
theorem definitionForm_of_mem {ts : List Token} {ds : List Definition} (h : DefinitionsForm ts ds) :
    ∀ d ∈ ds, ∃ us, us <:+: ts ∧ DefinitionForm us d := by
  induction h with
  | one hd =>
    intro d hmem
    obtain rfl := List.mem_singleton.1 hmem
    exact ⟨_, List.infix_rfl, hd⟩
  | cons hd hcomma hds ih =>
    intro d hmem
    rcases List.mem_cons.1 hmem with rfl | hmem
    · exact ⟨_, (List.prefix_append _ _).isInfix, hd⟩
    · obtain ⟨us, hus, hform⟩ := ih d hmem
      exact ⟨us, hus.trans ((List.suffix_cons _ _).trans (List.suffix_append _ _)).isInfix, hform⟩

/-- The types of a statement are written as phrases of the grammar, since they
were read as such. -/
theorem typeForm_of_statementForm {ts : List Token} {s : Statement} (h : StatementForm ts s) :
    ∀ c ∈ s.columns, TypeForm c.type.lexemes c.type := by
  obtain ⟨-, -, -, -, -, -, hds, -, -⟩ := h
  intro c hc
  obtain ⟨d, hd, hcolumn⟩ := List.mem_filterMap.1 hc
  obtain ⟨us, -, hform⟩ := definitionForm_of_mem hds d hd
  cases hform with
  | key => cases hcolumn
  | column _ hty | keyColumn _ hty =>
    cases hcolumn
    exact typeForm_lexemes hty

theorem QualifiedForm.exists_cons {ts : List Token} {keyspace? : Option String} {n : String}
    (h : QualifiedForm ts keyspace? n) : ∃ t us, ts = t :: us := by
  cases h with
  | plain | qualified => exact ⟨_, _, rfl⟩

/-- Without a guard, the word IF behind CREATE TABLE makes a text no
statement. -/
theorem not_statementForm_of_if {s : Structure} (hif : s.keyspace = "if") {ts : List Token}
    (hts : lexemes ts = s.lexemes false) (statement : Statement) :
    ¬ StatementForm ts statement := by
  intro h
  have hname : nameLexeme s.keyspace.toList = .word "if".toList := by
    rw [hif]
    decide
  cases h with
  | mk hcreate htable hguard hqualified hcommitted =>
    have hafter := (List.cons.inj (List.cons.inj hts).2).2
    cases hguard with
    | absent =>
      -- then the word is the first name, which the grammar does not have
      obtain ⟨t, us, rfl⟩ := hqualified.exists_cons
      have ht : t.lexeme = .word "if".toList := (List.cons.inj hafter).1.trans hname
      refine hcommitted rfl t rfl ?_
      rw [ht]
      exact .word (by decide)
    | @present i n e hi hn he =>
      -- the dot behind the keyspace stands where the guard has its second word
      have hdot : n.lexeme = .symbol .dot := (List.cons.inj (List.cons.inj hafter).2).1
      rw [hdot] at hn
      cases hn

/-- The checks that a statement passed are passed again by the one that is
written. -/
theorem Admissible.again {keyspace : String} {statement : Statement} {s : Structure}
    {guarded : Bool} {ds : List Definition} (h : Admissible keyspace statement s.primaryKey)
    (hs : s = statement.structure keyspace s.primaryKey)
    (hcolumns : ds.filterMap Definition.column? = s.columns)
    (hkeys : ds.filterMap Definition.key? = [s.primaryKey]) :
    Admissible keyspace (s.statement guarded ds) s.primaryKey := by
  have hkeyspace : s.keyspace = keyspace := by rw [hs]; rfl
  have hread : s.columns = statement.columns := by rw [hs]; rfl
  refine h.congr ?_ (hcolumns.trans hread) (hkeys.trans h.keys_eq.symm)
  intro declared hdeclared
  rw [← Option.some.inj hdeclared, hkeyspace]

theorem allBlank_structure (s : Structure) (guarded : Bool) :
    Text.allBlank (s.cql guarded).toList = false := by
  have hword : Text.allBlank "CREATE TABLE ".toList = false := by decide
  rw [Structure.toList_cql, Text.allBlank, List.all_append, ← Text.allBlank, hword]
  rfl

/-- A table that was read is read again from the statement it is written as.
Only without a guard, and in the keyspace `if`, that statement is refused. -/
theorem ofText_cql {keyspace text : String} {s : Structure}
    (h : Structure.ofText keyspace text = .ok s) (guarded : Bool) :
    (¬ (guarded = false ∧ keyspace = "if") →
        ∃ t, Structure.ofText keyspace (s.cql guarded) = .ok t ∧ t.keyspace = s.keyspace ∧
          t.name = s.name ∧ t.columns = s.columns ∧ t.primaryKey = s.primaryKey ∧
            t.guarded = guarded ∧ s.sameShape t = true ∧ t.sameShape s = true) ∧
      (guarded = false ∧ keyspace = "if" →
        ∃ e, Structure.ofText keyspace (s.cql guarded) = .error e) := by
  obtain ⟨-, tokens, statement, key, -, hread, hadmissible, hs⟩ := ofText_eq_ok_iff.1 h
  obtain rfl : s.primaryKey = key := by rw [hs]; rfl
  have hkeyspace : s.keyspace = keyspace := by
    rw [hs]
    rfl
  have hcolumns : ∀ c ∈ s.columns, TypeForm c.type.lexemes c.type := by
    rw [hs]
    exact typeForm_of_statementForm (ofTokens_eq_ok_iff.1 hread)
  -- the tokens of the written statement, which are the same in both cases
  obtain ⟨written, htokens, hlexemes⟩ := tokenize_structure s guarded
  constructor
  · intro hnot
    have hif : guarded = false → s.keyspace ≠ "if" := by
      intro hunguarded hname
      exact hnot ⟨hunguarded, hkeyspace.symm.trans hname⟩
    obtain ⟨ds, hform, hcolumnsOf, hkeysOf⟩ := statementForm_lexemes hcolumns hif hlexemes
    have hcs : (s.statement guarded ds).columns = s.columns := hcolumnsOf
    have hdeclares : Declares keyspace (s.cql guarded)
        ((s.statement guarded ds).structure keyspace s.primaryKey) :=
      ⟨allBlank_structure s guarded, written, _, _, htokens, ofTokens_eq_ok_iff.2 hform,
        hadmissible.again hs hcolumnsOf hkeysOf, rfl⟩
    have hshape :
        s.sameShape ((s.statement guarded ds).structure keyspace s.primaryKey) = true := by
      simp [Structure.sameShape, Statement.structure, hcs]
    refine ⟨_, ofText_eq_ok_iff.2 hdeclares, hkeyspace.symm, rfl, hcs, rfl, rfl, hshape, ?_⟩
    rw [Structure.sameShape_comm]
    exact hshape
  · intro h
    obtain ⟨rfl, hif⟩ := h
    cases hagain : Structure.ofText keyspace (s.cql false) with
    | error e => exact ⟨e, rfl⟩
    | ok t =>
      obtain ⟨-, again, statement', -, htokens', hread', -, -⟩ := ofText_eq_ok_iff.1 hagain
      obtain rfl : written = again := Except.ok.inj (htokens.symm.trans htokens')
      exact absurd (ofTokens_eq_ok_iff.1 hread')
        (not_statementForm_of_if (hkeyspace.trans hif) hlexemes statement')

theorem ofText_cql_keyspaceIf :
    (∃ t, Structure.ofText "if"
      (Structure.cql ⟨"if", "T", [⟨"a", .scalar .int⟩], .single "a", false⟩ true) = .ok t ∧
        t.name = "T") ∧
      ∃ e, Structure.ofText "if"
        (Structure.cql ⟨"if", "T", [⟨"a", .scalar .int⟩], .single "a", false⟩ false) =
          .error e := by
  have h : Structure.ofText "if" "create table \"T\"(A int primary key)" =
      .ok ⟨"if", "T", [⟨"a", .scalar .int⟩], .single "a", false⟩ := rfl
  obtain ⟨t, ht, -, hname, -⟩ := (ofText_cql h true).1 (by decide)
  exact ⟨⟨t, ht, hname⟩, (ofText_cql h false).2 ⟨rfl, rfl⟩⟩

end AuthKeyspace.Cql
