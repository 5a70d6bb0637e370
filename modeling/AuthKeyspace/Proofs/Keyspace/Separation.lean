import AuthKeyspace.Proofs.Cql.Legality
import AuthKeyspace.Proofs.Keyspace.Printing
import AuthKeyspace.Proofs.Text.Pairs

/-!
# Blank lines stand between statements and nowhere else

The statements of a keyspace that can be written are joined by two line ends. Cut
at those, the text falls into its statements again, exactly if no name and no
comment has two line ends in a row (`Keyspace.splitOnPair_cql_iff`). Names and
comments may begin or end with a line end, and have semicolons.

What is written is put together from texts that are fixed, names and comments in
quotes, types and numbers. `BrokenOnlyBy` says of such a piece when it has two
line ends in a row, and that it does not end in a line end. The second is what
makes pieces fit together (`BrokenOnlyBy.append`): some fixed texts begin with a
line end, so a piece before them must not end in one.
-/

namespace AuthKeyspace

open AuthKeyspace.Cql AuthKeyspace.Table AuthKeyspace.Text

/-- The text has no two line ends in a row. -/
def Unbroken (cs : List Char) : Prop := ¬ ['\n', '\n'] <:+: cs

instance (cs : List Char) : Decidable (Unbroken cs) :=
  inferInstanceAs (Decidable (¬ ['\n', '\n'] <:+: cs))

/-! ## Pieces -/

/-- The text does not end in a line end, and has no two in a row exactly if
`free` holds. -/
structure BrokenOnlyBy (cs : List Char) (free : Prop) : Prop where
  getLast?_ne : cs.getLast? ≠ some '\n'
  unbroken_iff : Unbroken cs ↔ free

namespace BrokenOnlyBy

variable {xs ys cs : List Char} {p q : Prop}

theorem of_iff (h : BrokenOnlyBy cs p) (hpq : p ↔ q) : BrokenOnlyBy cs q :=
  ⟨h.getLast?_ne, h.unbroken_iff.trans hpq⟩

theorem append (hx : BrokenOnlyBy xs p) (hy : BrokenOnlyBy ys q) :
    BrokenOnlyBy (xs ++ ys) (p ∧ q) where
  getLast?_ne := by
    rw [List.getLast?_append]
    cases h : ys.getLast? with
    | none => exact hx.getLast?_ne
    | some c => exact fun hc => hy.getLast?_ne (h.trans hc)
  unbroken_iff := by
    rw [← hx.unbroken_iff, ← hy.unbroken_iff, Unbroken, pair_infix_append_iff]
    simp only [hx.getLast?_ne, false_and, or_false, not_or]
    rfl

/-- A text on one line. -/
theorem oneLine (h : '\n' ∉ cs) : BrokenOnlyBy cs True where
  getLast?_ne := fun hlast => h (List.mem_of_getLast? hlast)
  unbroken_iff := iff_true_intro fun hpair => h (hpair.subset (List.mem_cons_self ..))

theorem append_oneLine (hx : BrokenOnlyBy xs p) (h : '\n' ∉ ys) : BrokenOnlyBy (xs ++ ys) p :=
  (hx.append (oneLine h)).of_iff (and_iff_left trivial)

/-- A fixed text before a piece. -/
theorem fixed_append (s : String) (hy : BrokenOnlyBy ys q)
    (h : s.toList.getLast? ≠ some '\n' ∧ Unbroken s.toList := by decide) :
    BrokenOnlyBy (s.toList ++ ys) q := by
  have hs : BrokenOnlyBy s.toList True := ⟨h.1, iff_true_intro h.2⟩
  exact (hs.append hy).of_iff (and_iff_right trivial)

/-- A fixed text behind a piece. -/
theorem append_fixed (hx : BrokenOnlyBy xs p) (s : String) (h : '\n' ∉ s.toList := by decide) :
    BrokenOnlyBy (xs ++ s.toList) p := hx.append_oneLine h

theorem flatMap {α : Type} {write : α → List Char} {free : α → Prop}
    (h : ∀ a, BrokenOnlyBy (write a) (free a)) (as : List α) :
    BrokenOnlyBy (as.flatMap write) (∀ a ∈ as, free a) := by
  induction as with
  | nil => exact (oneLine List.not_mem_nil).of_iff (by simp)
  | cons a as ih => exact ((h a).append ih).of_iff List.forall_mem_cons.symm

end BrokenOnlyBy

/-- Doubling a quote neither makes nor breaks two line ends in a row. -/
theorem unbroken_double {q : Char} (hq : q ≠ '\n') (cs : List Char) :
    Unbroken (double q cs) ↔ Unbroken cs := by
  unfold Unbroken
  induction cs with
  | nil => rfl
  | cons c cs ih =>
    by_cases hc : c = q
    · subst hc
      rw [double_cons_self, pair_infix_cons_iff, pair_infix_cons_iff, pair_infix_cons_iff]
      simp [hq, ih]
    · have hhead : (double q cs).head? = some '\n' ↔ cs.head? = some '\n' := by
        cases cs with
        | nil => rfl
        | cons d ds =>
          by_cases hd : d = q
          · rw [hd, double_cons_self]
            rfl
          · rw [double_cons_of_ne hd]
            rfl
      rw [double_cons_of_ne hc, pair_infix_cons_iff, pair_infix_cons_iff, hhead, not_or, not_or, ih]

/-- A text between quotes that are doubled in it. -/
theorem brokenOnlyBy_quoted {q : Char} (hq : q ≠ '\n') (cs : List Char) :
    BrokenOnlyBy (q :: (double q cs ++ [q])) (Unbroken cs) where
  getLast?_ne := by
    rw [← List.cons_append, List.getLast?_concat]
    exact fun h => hq (Option.some.inj h)
  unbroken_iff := by
    rw [← unbroken_double hq cs]
    unfold Unbroken
    rw [pair_infix_cons_iff, pair_infix_append_iff, pair_infix_cons_iff]
    simp [hq]

theorem brokenOnlyBy_literal (text : String) :
    BrokenOnlyBy (literal text).toList (Unbroken text.toList) := by
  rw [toList_literal]
  exact brokenOnlyBy_quoted (by decide) text.toList

theorem brokenOnlyBy_quoteName (name : String) :
    BrokenOnlyBy (quoteName name).toList (Unbroken name.toList) := by
  by_cases hbare : isBare name.toList = true
  · have hword := BrokenOnlyBy.oneLine (not_mem_of_isWord (by decide) (isBare_iff.1 hbare).1)
    rw [quoteName_of_isBare hbare]
    exact hword.of_iff hword.unbroken_iff.symm
  · rw [Bool.not_eq_true] at hbare
    rw [quoteName_of_not_isBare hbare]
    exact brokenOnlyBy_quoted (by decide) name.toList

theorem newline_not_mem_cqlRest {ts : List DataType} (h : ∀ t ∈ ts, '\n' ∉ t.cql.toList) :
    '\n' ∉ (DataType.cqlRest ts).toList := by
  induction ts with
  | nil => exact List.not_mem_nil
  | cons t ts ih =>
    obtain ⟨ht, hts⟩ := List.forall_mem_cons.1 h
    simp [DataType.cqlRest, ht, ih hts]

theorem newline_not_mem_type (t : DataType) : '\n' ∉ t.cql.toList := by
  induction t using DataType.induction_arguments with
  | step t ih =>
    cases t with
    | scalar s => exact not_mem_of_isWord (by decide) (isWord_headWord (.inl s))
    | set e | list e | frozen e =>
      have he := ih e (List.mem_singleton_self e)
      simp [DataType.cql, he]
    | map k v =>
      obtain ⟨hk, hv⟩ := List.forall_mem_cons.1 ih
      simp [DataType.cql, hk, List.forall_mem_singleton.1 hv]
    | tuple t ts =>
      obtain ⟨ht, hts⟩ := List.forall_mem_cons.1 ih
      simp [DataType.cql, ht, newline_not_mem_cqlRest hts]

theorem newline_not_mem_int (n : Int) : '\n' ∉ (toString n).toList := by
  have hnat : ∀ n : Nat, '\n' ∉ n.repr.toList := fun n h =>
    absurd (isDigit_of_mem_repr h) (by decide)
  cases n with
  | ofNat n => simpa [Int.repr] using hnat n
  | negSucc n => simpa [Int.toString_eq_repr, Int.repr] using hnat (n + 1)

/-! ## Statements -/

theorem brokenOnlyBy_column (c : Column) :
    BrokenOnlyBy c.cql.toList (Unbroken c.name.toList) := by
  rw [Column.cql, String.toList_append, String.toList_append]
  exact ((brokenOnlyBy_quoteName c.name).append_fixed " ").append_oneLine
    (newline_not_mem_type c.type)

theorem brokenOnlyBy_furtherNames (names : List String) :
    BrokenOnlyBy (furtherNamesCql names) (∀ n ∈ names, Unbroken n.toList) :=
  BrokenOnlyBy.flatMap (fun n => (brokenOnlyBy_quoteName n).fixed_append ", ") names

theorem brokenOnlyBy_partition {names : List String} (h : names ≠ []) :
    BrokenOnlyBy (partitionCql names).toList (∀ n ∈ names, Unbroken n.toList) := by
  obtain _ | ⟨m, _ | ⟨n, more⟩⟩ := names
  · exact absurd rfl h
  · exact (brokenOnlyBy_quoteName m).of_iff (by simp)
  · have htext := toList_partitionCql_several m n more []
    rw [List.append_nil, List.append_nil] at htext
    have hnames := (brokenOnlyBy_quoteName m).append
      ((brokenOnlyBy_furtherNames (n :: more)).append_fixed ")")
    rw [htext]
    exact (hnames.fixed_append "(").of_iff (by simp)

theorem brokenOnlyBy_primaryKey (k : PrimaryKey) :
    BrokenOnlyBy k.cql.toList (∀ n ∈ k.columns, Unbroken n.toList) := by
  have hnames := (brokenOnlyBy_partition k.partition_ne_nil).append
    ((brokenOnlyBy_furtherNames k.clustering).append_fixed ")")
  rw [toList_primaryKey]
  exact (hnames.fixed_append "PRIMARY KEY(").of_iff List.forall_mem_append.symm

theorem brokenOnlyBy_definitions (columns : List Column) (k : PrimaryKey) :
    BrokenOnlyBy (definitionsCql columns k).toList
      ((∀ c ∈ columns, Unbroken c.name.toList) ∧ ∀ n ∈ k.columns, Unbroken n.toList) := by
  induction columns with
  | nil =>
    have hnil : definitionsCql [] k = k.cql := by simp [definitionsCql]
    rw [hnil]
    exact (brokenOnlyBy_primaryKey k).of_iff (by simp)
  | cons c columns ih =>
    rw [toList_definitionsCql_cons]
    exact ((brokenOnlyBy_column c).append (ih.fixed_append ", ")).of_iff (by simp [and_assoc])

/-- No name in the statement of a table has a blank line in it. -/
structure NamesUnbroken (s : Structure) : Prop where
  keyspace : Unbroken s.keyspace.toList
  name : Unbroken s.name.toList
  columns : ∀ c ∈ s.columns, Unbroken c.name.toList
  key : ∀ n ∈ s.primaryKey.columns, Unbroken n.toList

theorem brokenOnlyBy_structure (s : Structure) :
    BrokenOnlyBy (s.cql true).toList (NamesUnbroken s) := by
  have hname := (brokenOnlyBy_quoteName s.keyspace).append
    ((brokenOnlyBy_quoteName s.name).fixed_append ".")
  have hdefinitions := (brokenOnlyBy_definitions s.columns s.primaryKey).append_fixed ")"
  rw [Structure.toList_cql, toList_qualifiedName]
  refine BrokenOnlyBy.of_iff (BrokenOnlyBy.fixed_append "CREATE TABLE "
    (BrokenOnlyBy.fixed_append (guardCql true)
      (hname.append (hdefinitions.fixed_append " (")))) ⟨?_, ?_⟩
  · rintro ⟨⟨hkeyspace, hname⟩, hcolumns, hkey⟩
    exact ⟨hkeyspace, hname, hcolumns, hkey⟩
  · rintro ⟨hkeyspace, hname, hcolumns, hkey⟩
    exact ⟨⟨hkeyspace, hname⟩, hcolumns, hkey⟩

/-- A map whose values are on one line is on one line. -/
theorem newline_not_mem_mapLiteral_pair {v key w : String} (hv : '\n' ∉ v.toList)
    (hkey : '\n' ∉ key.toList) (hw : '\n' ∉ w.toList) :
    '\n' ∉ (mapLiteral [("class", v), (key, w)]).toList := by
  have hliteral : ∀ text : String, '\n' ∉ text.toList → '\n' ∉ (literal text).toList := by
    intro text h
    simp [toList_literal, mem_double, h]
  have htext := toList_mapLiteral_pair v key w []
  rw [List.append_nil] at htext
  rw [htext]
  simp [hliteral v hv, hliteral key hkey, hliteral w hw]

/-- Of the options of a table the comment alone is neither fixed nor a number. -/
theorem brokenOnlyBy_options (o : Options) :
    BrokenOnlyBy o.fullCql.toList (Unbroken o.comment.toList) := by
  have hflush := (BrokenOnlyBy.oneLine (newline_not_mem_int o.flushMillis)).fixed_append
    "\n    AND memtable_flush_period_in_ms = "
  have hmap : '\n' ∉ (mapLiteral o.fullCompression).toList :=
    newline_not_mem_mapLiteral_pair (by decide) (by decide) (newline_not_mem_int o.chunkKilobytes)
  have hcompression := (BrokenOnlyBy.oneLine hmap).append hflush
  have hgrace := (BrokenOnlyBy.oneLine (newline_not_mem_int o.graceSeconds)).append
    (hcompression.fixed_append "\n    AND compression = ")
  have htext := toList_options o []
  rw [List.append_nil, List.append_nil] at htext
  rw [htext]
  exact (((brokenOnlyBy_literal o.comment).append (hgrace.fixed_append
    "\n    AND gc_grace_seconds = ")).fixed_append "WITH comment = ").of_iff (by simp)

theorem brokenOnlyBy_descriptor (t : Descriptor) :
    BrokenOnlyBy (t.fullCql true).toList
      (NamesUnbroken t.layout ∧ Unbroken t.options.comment.toList) := by
  have htext := toList_descriptor t true []
  rw [List.append_nil, List.append_nil] at htext
  rw [htext]
  exact (brokenOnlyBy_structure t.layout).append
    (((brokenOnlyBy_options t.options).append_fixed ";").fixed_append "\n    ")

namespace Keyspace

theorem brokenOnlyBy_createFullCql (k : Keyspace) :
    BrokenOnlyBy (k.createFullCql true).toList (Unbroken k.name.toList) := by
  have hdurable : '\n' ∉ (if k.durableWrites then "true" else "false").toList := by
    cases k.durableWrites <;> decide
  have hend := ((BrokenOnlyBy.oneLine hdurable).append_fixed ";").fixed_append
    " AND durable_writes = "
  have hmap : '\n' ∉ (mapLiteral k.replication.fullOptions).toList :=
    newline_not_mem_mapLiteral_pair (by decide) (by decide)
      (newline_not_mem_int k.replication.factor)
  have hreplication := (BrokenOnlyBy.oneLine hmap).append hend
  have htext := toList_createFullCql k []
  rw [List.append_nil, List.append_nil] at htext
  rw [htext]
  exact (((brokenOnlyBy_quoteName k.name).append (hreplication.fixed_append
    " WITH replication = ")).fixed_append "CREATE KEYSPACE IF NOT EXISTS ").of_iff (by simp)

/-- No name and no comment of the keyspace has two line ends in a row. -/
structure NoBlankLine (k : Keyspace) : Prop where
  name : Unbroken k.name.toList
  names : ∀ t ∈ k.tables, NamesUnbroken t.layout
  comments : ∀ t ∈ k.tables, Unbroken t.options.comment.toList

/-- The statements of a keyspace: its own, and then one for each table in order. -/
def statements (k : Keyspace) : List (List Char) :=
  (k.createFullCql true).toList :: k.tables.map fun t => (t.fullCql true).toList

theorem toList_fullCql_eq_intercalate (k : Keyspace) :
    k.fullCql.toList = ['\n', '\n'].intercalate k.statements := by
  show ("\n\n".intercalate
    (k.createFullCql true :: k.tables.map fun t => t.fullCql true)).toList = _
  rw [String.toList_intercalate, List.map_cons, List.map_map]
  rfl

theorem getLast?_ne_of_mem_statements {k : Keyspace} :
    ∀ p ∈ k.statements, p.getLast? ≠ some '\n' := by
  rw [statements, List.forall_mem_cons, List.forall_mem_map]
  exact ⟨k.brokenOnlyBy_createFullCql.getLast?_ne,
    fun t _ => (brokenOnlyBy_descriptor t).getLast?_ne⟩

theorem unbroken_statements_iff {k : Keyspace} :
    (∀ p ∈ k.statements, Unbroken p) ↔ k.NoBlankLine := by
  rw [statements, List.forall_mem_cons, List.forall_mem_map,
    k.brokenOnlyBy_createFullCql.unbroken_iff]
  constructor
  · rintro ⟨hname, htables⟩
    have htable := fun t ht => (brokenOnlyBy_descriptor t).unbroken_iff.1 (htables t ht)
    exact ⟨hname, fun t ht => (htable t ht).1, fun t ht => (htable t ht).2⟩
  · rintro ⟨hname, hnames, hcomments⟩
    exact ⟨hname, fun t ht => (brokenOnlyBy_descriptor t).unbroken_iff.2
      ⟨hnames t ht, hcomments t ht⟩⟩

/-- Cut at blank lines, the text in full is cut into the statements exactly if no
name and no comment has a blank line in it. -/
theorem splitOnPair_fullCql_iff {k : Keyspace} :
    splitOnPair '\n' '\n' k.fullCql.toList = k.statements ↔ k.NoBlankLine := by
  rw [← unbroken_statements_iff, toList_fullCql_eq_intercalate]
  exact splitOnPair_intercalate_iff getLast?_ne_of_mem_statements

/-- A keyspace with a number that is too long is not written. Any other is, and
so are its own statement and that of each table. Cut at blank lines, its text is
its own statement and that of each table in order, exactly if no name and no
comment has a blank line in it. -/
theorem splitOnPair_cql_iff (k : Keyspace) :
    (¬ k.IsWritable → k.cql = .error ⟨⟩) ∧
      (k.IsWritable → ∃ own tables text, k.createCql true = .ok own ∧
        k.tables.mapM (fun t => t.cql true) = .ok tables ∧ k.cql = .ok text ∧
        (splitOnPair '\n' '\n' text.toList = own.toList :: tables.map String.toList ↔
          k.NoBlankLine) ∧
        (k.NoBlankLine → (splitOnPair '\n' '\n' text.toList).length = 1 + k.tables.length)) := by
  refine ⟨cql_of_not_isWritable, fun hwritable => ?_⟩
  refine ⟨_, _, _, createCql_eq_ok_iff.2 ⟨hwritable.copies, rfl⟩,
    tables_eq_ok_iff.2 ⟨hwritable.options, rfl⟩, cql_eq_ok_iff.2 ⟨hwritable, rfl⟩, ?_, ?_⟩
  · rw [List.map_map]
    exact splitOnPair_fullCql_iff
  · intro hfree
    rw [splitOnPair_fullCql_iff.2 hfree, statements, List.length_cons, List.length_map,
      Nat.add_comm]

/-- A keyspace without tables, and with a number of copies that has two digits
more than are written. -/
def crowded : Keyspace where
  name := "system_auth"
  replication := ⟨.ofNat (Nat.pow 16 3572), by decide +kernel⟩
  tables := []
  durableWrites := true
  names_nodup := List.nodup_nil

/-- Without a blank line in any name or comment, this keyspace has no text. -/
theorem cql_crowded : crowded.NoBlankLine ∧ crowded.cql = .error ⟨⟩ := by
  have hlong : ¬ Text.IsWritable crowded.replication.factor := by decide +kernel
  exact ⟨⟨by decide, nofun, nofun⟩, cql_of_not_isWritable fun h => hlong h.copies⟩

end Keyspace

end AuthKeyspace
