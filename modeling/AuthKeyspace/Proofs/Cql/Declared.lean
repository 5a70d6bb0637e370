import AuthKeyspace.Proofs.Cql.Lexing
import AuthKeyspace.Proofs.Cql.Reading
import Mathlib.Data.List.Nodup

/-!
# What texts declare a table

A text declares a table if it is not blank, is cut into tokens, derives a
statement, and that statement is `Admissible`: it belongs to the keyspace, its
columns have distinct names, and its one key is made of distinct columns that
are declared and not kept in several cells. Nothing else is asked and nothing
of it is left out (`ofStatement_eq_ok_iff`), so a table that was read has these
properties for good: a look-up finds the one column of a name, and finds every
key column.

Main statements: `grammar_exact` for the tokens of a text and `ofText_exact`
for the text itself.
-/

namespace AuthKeyspace.Cql

/-! ## The checks of a statement -/

/-- The conditions under which a statement declares a table of `keyspace` with
the key `key`. -/
structure Admissible (keyspace : String) (s : Statement) (key : PrimaryKey) : Prop where
  keyspace_eq : ∀ declared ∈ s.keyspace?, declared = keyspace
  columns_ne_nil : s.columns ≠ []
  names_nodup : (s.columns.map (·.name)).Nodup
  keys_eq : s.keys = [key]
  keyColumns_nodup : key.columns.Nodup
  keyColumns_declared :
    ∀ n ∈ key.columns, ∃ c ∈ s.columns, c.name = n ∧ c.type.isMultiCell = false

/-- The conditions ask a statement for its keyspace, its columns and its keys. -/
theorem Admissible.congr {keyspace keyspace' : String} {s s' : Statement} {key : PrimaryKey}
    (h : Admissible keyspace s key) (hkeyspace : ∀ declared ∈ s'.keyspace?, declared = keyspace')
    (hcolumns : s'.columns = s.columns) (hkeys : s'.keys = s.keys) :
    Admissible keyspace' s' key := by
  refine ⟨hkeyspace, ?_, ?_, hkeys.trans h.keys_eq, h.keyColumns_nodup, ?_⟩
  · rw [hcolumns]
    exact h.columns_ne_nil
  · rw [hcolumns]
    exact h.names_nodup
  · rw [hcolumns]
    exact h.keyColumns_declared

/-- The table that a statement declares once its key is known. -/
def Statement.structure (s : Statement) (keyspace : String) (key : PrimaryKey) : Structure :=
  { keyspace, name := s.table, columns := s.columns, primaryKey := key, guarded := s.guarded }

/-- Among columns of distinct names a look-up finds the one of that name. -/
theorem find?_name_eq_some_iff {columns : List Column} (nodup : (columns.map (·.name)).Nodup)
    {n : String} {c : Column} :
    columns.find? (·.name == n) = some c ↔ c ∈ columns ∧ c.name = n := by
  constructor
  · intro h
    exact ⟨List.mem_of_find?_eq_some h, by simpa using List.find?_some h⟩
  · intro h
    obtain ⟨hmem, rfl⟩ := h
    obtain ⟨d, hd⟩ : ∃ d, columns.find? (·.name == c.name) = some d :=
      Option.isSome_iff_exists.1 (List.find?_isSome.2 ⟨c, hmem, by simp⟩)
    have hdmem : d ∈ columns := List.mem_of_find?_eq_some hd
    have hname : d.name = c.name := by simpa using List.find?_some hd
    rw [hd, List.inj_on_of_nodup_map nodup hdmem hmem hname]

theorem checkKeyColumn_eq_ok_iff {columns : List Column} (nodup : (columns.map (·.name)).Nodup)
    {n : String} :
    checkKeyColumn columns n = .ok () ↔ ∃ c ∈ columns, c.name = n ∧ c.type.isMultiCell = false := by
  unfold checkKeyColumn
  cases hfind : columns.find? (·.name == n) with
  | none =>
    have habsent : ∀ c ∈ columns, c.name ≠ n := by simpa using hfind
    constructor
    · intro h
      cases h
    · intro h
      obtain ⟨c, hmem, hname, -⟩ := h
      exact absurd hname (habsent c hmem)
  | some c =>
    obtain ⟨hmem, hname⟩ := (find?_name_eq_some_iff nodup).1 hfind
    by_cases hmulti : c.type.isMultiCell = true
    · -- any declared column of that name is the one that was found
      simp only [hmulti, if_true, reduceCtorEq, false_iff]
      intro h
      obtain ⟨d, hdmem, hdname, hd⟩ := h
      have hdc : d = c := List.inj_on_of_nodup_map nodup hdmem hmem (hdname.trans hname.symm)
      rw [hdc, hmulti] at hd
      cases hd
    · simp only [hmulti]
      exact ⟨fun _ => ⟨c, hmem, hname, by simpa using hmulti⟩, fun _ => rfl⟩

theorem checkKeyColumns_eq_ok_iff {columns : List Column} (nodup : (columns.map (·.name)).Nodup)
    {names : List String} :
    checkKeyColumns columns names = .ok () ↔
      ∀ n ∈ names, ∃ c ∈ columns, c.name = n ∧ c.type.isMultiCell = false := by
  induction names with
  | nil => simp [checkKeyColumns]
  | cons n names ih =>
    rw [checkKeyColumns, bind_eq_ok_iff, List.forall_mem_cons, ← checkKeyColumn_eq_ok_iff nodup,
      ← ih]
    constructor
    · intro h
      obtain ⟨⟨⟩, hfirst, hmore⟩ := h
      exact ⟨hfirst, hmore⟩
    · intro h
      obtain ⟨hfirst, hmore⟩ := h
      exact ⟨(), hfirst, hmore⟩

/-- Names are found to occur once exactly if they do. -/
theorem firstRepeated?_isSome_eq_false_iff {names : List String} :
    (firstRepeated? [] (names.map fun n => (n, ()))).isSome = false ↔ names.Nodup := by
  rw [Option.isSome_eq_false_iff, Option.isNone_iff_eq_none, firstRepeated?_eq_none_iff]
  simp [Function.comp_def]

theorem checkKey_eq_ok_iff {columns : List Column} (nodup : (columns.map (·.name)).Nodup)
    {keys : List PrimaryKey} {key : PrimaryKey} :
    checkKey columns keys = .ok key ↔ keys = [key] ∧ key.columns.Nodup ∧
      ∀ n ∈ key.columns, ∃ c ∈ columns, c.name = n ∧ c.type.isMultiCell = false := by
  constructor
  · intro h
    unfold checkKey at h
    split at h
    · cases h
    · next only =>
      split at h
      · cases h
      · next hnodup =>
        obtain ⟨_, hcolumns, hret⟩ := bind_eq_ok_iff.1 h
        cases hret
        rw [Bool.not_eq_true, firstRepeated?_isSome_eq_false_iff] at hnodup
        exact ⟨rfl, hnodup, (checkKeyColumns_eq_ok_iff nodup).1 hcolumns⟩
    · cases h
  · intro h
    obtain ⟨rfl, hnodup, hdeclared⟩ := h
    have honce := firstRepeated?_isSome_eq_false_iff.2 hnodup
    have hcolumns := (checkKeyColumns_eq_ok_iff nodup).2 hdeclared
    simp only [checkKey, honce, hcolumns]
    rfl

/-- The entries that are tested for a name that occurs twice are the declared
columns. -/
theorem map_fst_namePosition? (ds : List Definition) :
    (ds.filterMap Definition.namePosition?).map (·.1) =
      (ds.filterMap Definition.column?).map (·.name) := by
  rw [List.map_filterMap, List.map_filterMap]
  congr 1
  funext d
  cases d <;> rfl

/-- A statement may name the keyspace it is read for, which changes nothing. -/
theorem ofStatement_own (keyspace table : String) (guarded : Bool)
    (definitions : List Definition) :
    Structure.ofStatement keyspace ⟨some keyspace, table, guarded, definitions⟩ =
      Structure.ofStatement keyspace ⟨none, table, guarded, definitions⟩ := by
  simp only [Structure.ofStatement, if_neg (not_not_intro (Eq.refl keyspace))]
  rfl

/-- It may name no other keyspace. -/
theorem ofStatement_foreign {keyspace declared : String} (h : declared ≠ keyspace)
    (table : String) (guarded : Bool) (definitions : List Definition) :
    Structure.ofStatement keyspace ⟨some declared, table, guarded, definitions⟩ =
      .error ⟨.content (.foreignKeyspace declared keyspace), none, some table⟩ := by
  simp only [Structure.ofStatement, if_pos h]
  rfl

theorem ofStatement_keyspace {keyspace : String} {s : Statement} {t : Structure} :
    Structure.ofStatement keyspace s = .ok t ↔
      (∀ declared ∈ s.keyspace?, declared = keyspace) ∧
        Structure.ofStatement keyspace { s with keyspace? := none } = .ok t := by
  obtain ⟨keyspace?, table, guarded, definitions⟩ := s
  cases keyspace? with
  | none => simp
  | some declared =>
    by_cases hsame : declared = keyspace
    · rw [hsame, ofStatement_own]
      simp
    · rw [ofStatement_foreign hsame]
      constructor
      · intro h
        cases h
      · intro h
        obtain ⟨hdeclared, -⟩ := h
        exact absurd (hdeclared declared rfl) hsame

/-- No name is found to occur twice exactly if the columns have distinct names. -/
theorem firstRepeated?_namePosition?_eq_none_iff {s : Statement} :
    firstRepeated? [] (s.definitions.filterMap Definition.namePosition?) = none ↔
      (s.columns.map (·.name)).Nodup := by
  rw [firstRepeated?_eq_none_iff, map_fst_namePosition?, Statement.columns]
  simp

/-- A statement declares a table if and only if it is admissible. -/
theorem ofStatement_eq_ok_iff {keyspace : String} {s : Statement} {t : Structure} :
    Structure.ofStatement keyspace s = .ok t ↔
      ∃ key, Admissible keyspace s key ∧ t = s.structure keyspace key := by
  -- with the keyspace out of the way, the checks come one after the other
  rw [ofStatement_keyspace]
  constructor
  · intro h
    obtain ⟨hkeyspace, h⟩ := h
    unfold Structure.ofStatement at h
    dsimp only at h
    split at h
    · cases h
    · next hfresh =>
      have hnodup : (s.columns.map (·.name)).Nodup := by
        refine firstRepeated?_namePosition?_eq_none_iff.1 ?_
        exact Option.eq_none_iff_forall_ne_some.2 fun e he => hfresh e.1 e.2 he
      split at h
      · cases h
      · next hempty =>
        split at h
        · cases h
        · next key hkey =>
          cases h
          obtain ⟨hkeys, hdistinct, hdeclared⟩ := (checkKey_eq_ok_iff hnodup).1 hkey
          have hcolumns : s.columns ≠ [] := fun hnil => hempty (List.isEmpty_iff.2 hnil)
          exact ⟨key, ⟨hkeyspace, hcolumns, hnodup, hkeys, hdistinct, hdeclared⟩, rfl⟩
  · intro h
    obtain ⟨key, ⟨hkeyspace, hcolumns, hnodup, hkeys, hdistinct, hdeclared⟩, rfl⟩ := h
    have hkey := (checkKey_eq_ok_iff hnodup).2 ⟨hkeys, hdistinct, hdeclared⟩
    have hnonempty : s.columns.isEmpty = false := by simpa using hcolumns
    refine ⟨hkeyspace, ?_⟩
    have hcolumns' : (⟨none, s.table, s.guarded, s.definitions⟩ : Statement).columns = s.columns :=
      rfl
    have hkeys' : (⟨none, s.table, s.guarded, s.definitions⟩ : Statement).keys = s.keys := rfl
    have hfresh := firstRepeated?_namePosition?_eq_none_iff.2 hnodup
    simp only [Structure.ofStatement, hfresh, hcolumns', hkeys', hnonempty, hkey]
    rfl

/-! ## Texts -/

/-- A fault is seen at its token, or at the end of the text. -/
theorem ofText_of_tokenize {keyspace text : String} {tokens : List Token}
    (hblank : Text.allBlank text.toList = false) (h : tokenize text.toList = .ok tokens) :
    Structure.ofText keyspace text =
      match Statement.ofTokens tokens with
      | .error e =>
        .error ⟨.grammar e, some ((e.token?.map (·.position)).getD text.toList.length), none⟩
      | .ok s => Structure.ofStatement keyspace s := by
  simp only [Structure.ofText, hblank, h]
  cases Statement.ofTokens tokens with
  | ok s => rfl
  | error e =>
    obtain ⟨fault, token?⟩ := e
    cases token? <;> rfl

/-- The text declares the table `t` in `keyspace`: its tokens make a statement
that is admissible. -/
def Declares (keyspace text : String) (t : Structure) : Prop :=
  Text.allBlank text.toList = false ∧ ∃ tokens s key, tokenize text.toList = .ok tokens ∧
    Statement.ofTokens tokens = .ok s ∧ Admissible keyspace s key ∧ t = s.structure keyspace key

theorem ofText_eq_ok_iff {keyspace text : String} {t : Structure} :
    Structure.ofText keyspace text = .ok t ↔ Declares keyspace text t := by
  unfold Structure.ofText
  dsimp only
  by_cases hblank : Text.allBlank text.toList = true
  · rw [if_pos hblank]
    constructor
    · intro h
      cases h
    · intro h
      obtain ⟨hnot, -⟩ := h
      rw [hblank] at hnot
      cases hnot
  · rw [if_neg hblank]
    constructor
    · intro h
      split at h
      · cases h
      · next tokens htokens =>
        split at h
        · cases h
        · next s hs =>
          obtain ⟨key, hadmissible, ht⟩ := ofStatement_eq_ok_iff.1 h
          exact ⟨Bool.eq_false_iff.2 hblank, tokens, s, key, htokens, hs, hadmissible, ht⟩
    · intro h
      obtain ⟨-, tokens, s, key, htokens, hs, hadmissible, ht⟩ := h
      simp only [htokens, hs]
      exact ofStatement_eq_ok_iff.2 ⟨key, hadmissible, ht⟩

/-- The tokens of a text are a statement exactly if they derive it, and each
stands in the text as it is written. Tokens that derive nothing are reported as
such. -/
theorem grammar_exact (text : String) {tokens : List Token}
    (h : tokenize text.toList = .ok tokens) :
    (∀ t ∈ tokens, t.StandsIn 0 text.toList) ∧
      (∀ s, Statement.ofTokens tokens = .ok s ↔ StatementForm tokens s) ∧
        ((¬ ∃ s, StatementForm tokens s) → ∃ e, Statement.ofTokens tokens = .error e ∧
          ∀ keyspace, Text.allBlank text.toList = false → ∃ position,
            Structure.ofText keyspace text = .error ⟨.grammar e, some position, none⟩) := by
  refine ⟨standsIn_of_scan h, fun s => ofTokens_eq_ok_iff, ?_⟩
  intro hnone
  cases hread : Statement.ofTokens tokens with
  | ok s => exact absurd ⟨s, ofTokens_eq_ok_iff.1 hread⟩ hnone
  | error e =>
    refine ⟨e, rfl, ?_⟩
    intro keyspace hblank
    simp only [Structure.ofText, hblank, h, hread]
    exact ⟨_, rfl⟩

theorem grammar_exact_column :
    StatementForm [⟨.word "create".toList, 0⟩, ⟨.word "table".toList, 7⟩, ⟨.quoted "T".toList, 13⟩,
        ⟨.symbol .openParen, 16⟩, ⟨.word "A".toList, 17⟩, ⟨.word "varchar".toList, 19⟩,
        ⟨.symbol .closeParen, 26⟩]
      ⟨none, "T", false, [.column ⟨"a", .scalar .text⟩ 17 false]⟩ :=
  ((grammar_exact "create table \"T\"(A varchar)" rfl).2.1 _).1 rfl

/-- A text is read as a table exactly if it declares it, and is refused
otherwise. A table that was read belongs to the keyspace, has a partition, and
a look-up finds the one column of a declared name, such as those of the key,
and nothing for another name. -/
theorem ofText_exact (keyspace text : String) :
    (∀ t, Structure.ofText keyspace text = .ok t ↔ Declares keyspace text t) ∧
      ((¬ ∃ t, Declares keyspace text t) → ∃ e, Structure.ofText keyspace text = .error e) ∧
        ∀ t, Structure.ofText keyspace text = .ok t →
          t.keyspace = keyspace ∧ t.primaryKey.partition ≠ [] ∧
            (∀ n ∈ t.primaryKey.columns, n ∈ t.columnNames) ∧
              (∀ n ∈ t.columnNames, ∃ c, t.column? n = some c ∧ c ∈ t.columns ∧ c.name = n ∧
                ∀ d ∈ t.columns, d.name = n → d = c) ∧
                  ∀ n ∉ t.columnNames, t.column? n = none := by
  refine ⟨fun t => ofText_eq_ok_iff, ?_, ?_⟩
  · intro hnone
    cases hread : Structure.ofText keyspace text with
    | ok t => exact absurd ⟨t, ofText_eq_ok_iff.1 hread⟩ hnone
    | error e => exact ⟨e, rfl⟩
  · intro t h
    obtain ⟨-, tokens, s, key, -, -, hadmissible, rfl⟩ := ofText_eq_ok_iff.1 h
    refine ⟨rfl, key.partition_ne_nil, ?_, ?_, ?_⟩
    · intro n hn
      obtain ⟨c, hmem, hname, -⟩ := hadmissible.keyColumns_declared n hn
      exact List.mem_map.2 ⟨c, hmem, hname⟩
    · intro n hn
      obtain ⟨c, hmem, hname⟩ := List.mem_map.1 hn
      refine ⟨c, (find?_name_eq_some_iff hadmissible.names_nodup).2 ⟨hmem, hname⟩, hmem, hname, ?_⟩
      intro d hd hdname
      exact List.inj_on_of_nodup_map hadmissible.names_nodup hd hmem (hdname.trans hname.symm)
    · intro n hn
      refine List.find?_eq_none.2 ?_
      intro c hc hname
      exact hn (List.mem_map.2 ⟨c, hc, by simpa using hname⟩)

end AuthKeyspace.Cql
