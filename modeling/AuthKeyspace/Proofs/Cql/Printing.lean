import AuthKeyspace.Proofs.Cql.Lexing
import AuthKeyspace.Proofs.Text.Delimited

/-!
# What a statement is written from can be told from it

Every piece of a CREATE TABLE statement shows where it ends, so the statement
determines the table: its names, its columns in order and its key
(`structure_cql_append`). No name and no type can be made to look like
something else, whatever stands behind it.

A name is one lexeme, so reading it tells both the name and its end
(`delimited_quoteName`). A type begins with a word that says what it is made
of. In the list of definitions the key is the one that does not begin like a
name, since its first letter is a capital.
-/

namespace AuthKeyspace.Cql

open AuthKeyspace.Text

/-! ## Names -/

/-- A name ends where its lexeme does. -/
theorem delimited_quoteName : Delimited Stops (fun n : String => (quoteName n).toList) := by
  intro m n r s hr hs heq
  obtain ⟨c, cs, hm, -, hc⟩ := lexemeAt?_quoteChars m.toList hr
  obtain ⟨d, ds, hn, -, hd⟩ := lexemeAt?_quoteChars n.toList hs
  simp only [quoteName, String.toList_ofList, hm, hn, List.cons_append] at heq
  obtain ⟨rfl, htail⟩ := List.cons.inj heq
  -- one text has one lexeme at its beginning
  rw [htail, hd] at hc
  simp only [Option.some.injEq, Prod.mk.injEq] at hc
  obtain rfl : m = n := String.toList_inj.1 (nameLexeme_injective hc.1).symm
  obtain rfl : cs = ds := (List.cons.inj (hm.symm.trans hn)).2
  exact ⟨rfl, List.append_cancel_left htail⟩

/-- A name begins with a quote, or with a letter that is no capital. -/
theorem quoteName_append_ne {n : String} {d : Char} {r s : List Char} (hquote : d ≠ '"')
    (hletter : ¬ (isWordStart d = true ∧ d.toLower = d)) : (quoteName n).toList ++ r ≠ d :: s := by
  intro heq
  rw [quoteName, String.toList_ofList, quoteChars] at heq
  split at heq
  · next hbare =>
    obtain ⟨hword, hfold⟩ := isBare_iff.1 hbare
    cases hn : n.toList with
    | nil =>
      rw [hn] at hword
      exact absurd hword (by decide)
    | cons c cs =>
      rw [hn] at heq hword hfold
      obtain rfl : c = d := (List.cons.inj heq).1
      have hlower : c.toLower :: cs.map Char.toLower = c :: cs := hfold
      exact hletter ⟨(Bool.and_eq_true_iff.1 hword).1, (List.cons.inj hlower).1⟩
  · exact hquote (List.cons.inj heq).1.symm

/-- A word ends where no character of words follows. -/
theorem word_append {v w r s : List Char} (hv : isWord v = true) (hw : isWord w = true)
    (hr : Stops r) (hs : Stops s) (heq : v ++ r = w ++ s) : v = w ∧ r = s := by
  cases v with
  | nil => exact absurd hv (by decide)
  | cons c cs =>
    cases w with
    | nil => exact absurd hw (by decide)
    | cons d ds =>
      obtain ⟨rfl, htail⟩ := List.cons.inj heq
      have hc := lexemeAt?_word hv hr.apart_word
      have htail' : cs ++ r = ds ++ s := htail
      rw [htail', lexemeAt?_word hw hs.apart_word] at hc
      simp only [Option.some.injEq, Prod.mk.injEq, Lexeme.word.injEq] at hc
      obtain rfl : ds = cs := (List.cons.inj hc.1).2
      exact ⟨rfl, List.append_cancel_left htail'⟩

/-! ## Types -/

/-- What a type is made of: a scalar, or a constructor with arguments. -/
def DataType.head : DataType → ScalarType ⊕ TypeConstructor
  | .scalar s => .inl s
  | .set _ => .inr .set
  | .list _ => .inr .list
  | .map _ _ => .inr .map
  | .tuple _ _ => .inr .tuple
  | .frozen _ => .inr .frozen

/-- The word for what a type is made of. -/
def headWord : ScalarType ⊕ TypeConstructor → String
  | .inl s => s.word
  | .inr c => c.word

/-- What a type has behind its word. -/
def DataType.argumentsCql : DataType → String
  | .scalar _ => ""
  | .set e | .list e | .frozen e => "<" ++ e.cql ++ ">"
  | .map k v => "<" ++ k.cql ++ ", " ++ v.cql ++ ">"
  | .tuple t ts => "<" ++ t.cql ++ DataType.cqlRest ts ++ ">"

theorem DataType.toList_cql (ty : DataType) :
    ty.cql.toList = (headWord ty.head).toList ++ ty.argumentsCql.toList := by
  cases ty <;>
    simp [DataType.cql, DataType.head, headWord, DataType.argumentsCql, TypeConstructor.word]

theorem isWord_headWord (h : ScalarType ⊕ TypeConstructor) : isWord (headWord h).toList = true := by
  rcases h with s | c
  · cases s <;> decide
  · cases c <;> decide

/-- No two scalars or constructors have the same word. -/
theorem headWord_injective {g h : ScalarType ⊕ TypeConstructor} (heq : headWord g = headWord h) :
    g = h := by
  rcases g with s | c <;> rcases h with t | d <;> simp only [headWord] at heq
  · rw [ScalarType.word_injective heq]
  · have hs := ScalarType.ofWord?_word s
    rw [heq, ScalarType.ofWord?_constructor] at hs
    cases hs
  · have ht := ScalarType.ofWord?_word t
    rw [← heq, ScalarType.ofWord?_constructor] at ht
    cases ht
  · have hc := TypeConstructor.ofWord?_eq_some_iff.2 heq
    rw [TypeConstructor.ofWord?_eq_some_iff.2 rfl] at hc
    rw [Option.some.inj hc]

theorem stops_argumentsCql (ty : DataType) {rest : List Char} (hrest : Stops rest) :
    Stops (ty.argumentsCql.toList ++ rest) := by
  cases ty with
  | scalar => exact hrest
  | set | list | map | tuple | frozen =>
    simp only [DataType.argumentsCql, String.toList_append, List.append_assoc]
    exact apart_cons _

/-- The same types begin with the same word, and what is behind the word is the
same. -/
theorem head_eq_of_cql_append {a b : DataType} {r s : List Char} (hr : Stops r) (hs : Stops s)
    (heq : a.cql.toList ++ r = b.cql.toList ++ s) :
    a.head = b.head ∧ a.argumentsCql.toList ++ r = b.argumentsCql.toList ++ s := by
  rw [a.toList_cql, b.toList_cql, List.append_assoc, List.append_assoc] at heq
  obtain ⟨hword, hrest⟩ := word_append (isWord_headWord _) (isWord_headWord _)
    (stops_argumentsCql a hr) (stops_argumentsCql b hs) heq
  exact ⟨headWord_injective (String.toList_inj.1 hword), hrest⟩

/-- The type can be told from its text and what is behind it. -/
def DataType.IsDelimited (a : DataType) : Prop :=
  ∀ ⦃b : DataType⦄ ⦃r s : List Char⦄, Stops r → Stops s →
    a.cql.toList ++ r = b.cql.toList ++ s → a = b ∧ r = s

/-- A type between angles ends at the closing one. -/
theorem enclosed_append {e f : DataType} (he : e.IsDelimited) {r s : List Char}
    (heq : ("<" ++ e.cql ++ ">").toList ++ r = ("<" ++ f.cql ++ ">").toList ++ s) :
    e = f ∧ r = s := by
  simp only [String.toList_append, List.append_assoc, List.append_cancel_left_eq] at heq
  obtain ⟨rfl, hclose⟩ := he (apart_append _) (apart_append _) heq
  exact ⟨rfl, List.append_cancel_left hclose⟩

mutual
/-- A type ends where its word or its closing angle does. -/
theorem isDelimited : ∀ a : DataType, a.IsDelimited
  | .scalar x, b, r, s, hr, hs, heq => by
    obtain ⟨hhead, hrest⟩ := head_eq_of_cql_append hr hs heq
    cases b with
    | scalar y =>
      cases hhead
      exact ⟨rfl, by simpa [DataType.argumentsCql] using hrest⟩
    | set | list | map | tuple | frozen => cases hhead
  | .set e, b, r, s, hr, hs, heq => by
    obtain ⟨hhead, hrest⟩ := head_eq_of_cql_append hr hs heq
    cases b with
    | set f =>
      obtain ⟨rfl, rfl⟩ := enclosed_append (isDelimited e) hrest
      exact ⟨rfl, rfl⟩
    | scalar | list | map | tuple | frozen => cases hhead
  | .list e, b, r, s, hr, hs, heq => by
    obtain ⟨hhead, hrest⟩ := head_eq_of_cql_append hr hs heq
    cases b with
    | list f =>
      obtain ⟨rfl, rfl⟩ := enclosed_append (isDelimited e) hrest
      exact ⟨rfl, rfl⟩
    | scalar | set | map | tuple | frozen => cases hhead
  | .frozen e, b, r, s, hr, hs, heq => by
    obtain ⟨hhead, hrest⟩ := head_eq_of_cql_append hr hs heq
    cases b with
    | frozen f =>
      obtain ⟨rfl, rfl⟩ := enclosed_append (isDelimited e) hrest
      exact ⟨rfl, rfl⟩
    | scalar | set | list | map | tuple => cases hhead
  | .map k v, b, r, s, hr, hs, heq => by
    obtain ⟨hhead, hrest⟩ := head_eq_of_cql_append hr hs heq
    cases b with
    | map k' v' =>
      simp only [DataType.argumentsCql, String.toList_append, List.append_assoc,
        List.append_cancel_left_eq] at hrest
      obtain ⟨rfl, hvalue⟩ := isDelimited k (apart_append _) (apart_append _) hrest
      obtain ⟨rfl, hclose⟩ := isDelimited v (apart_append _) (apart_append _)
        (List.append_cancel_left hvalue)
      exact ⟨rfl, List.append_cancel_left hclose⟩
    | scalar | set | list | tuple | frozen => cases hhead
  | .tuple t ts, b, r, s, hr, hs, heq => by
    obtain ⟨hhead, hrest⟩ := head_eq_of_cql_append hr hs heq
    cases b with
    | tuple u us =>
      simp only [DataType.argumentsCql, String.toList_append, List.append_assoc,
        List.append_cancel_left_eq] at hrest
      obtain ⟨rfl, hmore⟩ := isDelimited t (stops_cqlRest ts (apart_append _))
        (stops_cqlRest us (apart_append _)) hrest
      obtain ⟨rfl, rfl⟩ := cqlRest_append ts hmore
      exact ⟨rfl, rfl⟩
    | scalar | set | list | map | frozen => cases hhead
/-- The further elements of a tuple end at its closing angle. -/
theorem cqlRest_append : ∀ (ts : List DataType) {us : List DataType} {r s : List Char},
    (DataType.cqlRest ts).toList ++ (">".toList ++ r) =
      (DataType.cqlRest us).toList ++ (">".toList ++ s) → ts = us ∧ r = s
  | [], [], r, s, heq => ⟨rfl, List.append_cancel_left heq⟩
  | [], u :: us, r, s, heq => by
    simp [DataType.cqlRest] at heq
  | t :: ts, [], r, s, heq => by
    simp [DataType.cqlRest] at heq
  | t :: ts, u :: us, r, s, heq => by
    simp only [DataType.cqlRest, String.toList_append, List.append_assoc,
      List.append_cancel_left_eq] at heq
    obtain ⟨rfl, hmore⟩ := isDelimited t (stops_cqlRest ts (apart_append _))
      (stops_cqlRest us (apart_append _)) heq
    obtain ⟨rfl, rfl⟩ := cqlRest_append ts hmore
    exact ⟨rfl, rfl⟩
end

/-! ## Columns and keys -/

theorem delimited_column : Delimited Stops (fun c : Column => c.cql.toList) := by
  intro c d r s hr hs heq
  simp only [Column.cql, String.toList_append, List.append_assoc] at heq
  obtain ⟨hname, htype⟩ := delimited_quoteName (apart_append _) (apart_append _) heq
  obtain ⟨htypes, rfl⟩ := isDelimited c.type hr hs (List.append_cancel_left htype)
  obtain ⟨cname, ctype⟩ := c
  obtain ⟨dname, dtype⟩ := d
  obtain rfl : cname = dname := hname
  obtain rfl : ctype = dtype := htypes
  exact ⟨rfl, rfl⟩

/-- Names, each after a comma. -/
def furtherNamesCql (names : List String) : List Char :=
  names.flatMap fun n => ',' :: (" ".toList ++ (quoteName n).toList)

theorem stops_furtherNamesCql (names : List String) {rest : List Char} (hrest : Stops rest) :
    Stops (furtherNamesCql names ++ rest) := by
  cases names with
  | nil => exact hrest
  | cons n names => exact apart_cons _

/-- Pieces with commas between them, the last of which are names. -/
theorem toList_intercalate_names (piece : String) (names : List String) :
    (", ".intercalate (piece :: names.map quoteName)).toList =
      piece.toList ++ furtherNamesCql names := by
  rw [String.toList_intercalate, List.map_cons, intercalate_cons_eq_flatMap, List.map_map,
    List.flatMap_map]
  rfl

/-- Names behind a first one end at the closing parenthesis. -/
theorem furtherNamesCql_append {ms ns : List String} {r s : List Char}
    (heq : furtherNamesCql ms ++ (")".toList ++ r) = furtherNamesCql ns ++ (")".toList ++ s)) :
    ms = ns ∧ r = s := by
  have hdelimited : Delimited (fun t => Stops t ∧ Apart (· == ',') t) furtherNamesCql :=
    delimited_quoteName.flatMap fun cs => apart_cons _
  have hclose : ∀ t : List Char, Stops (")".toList ++ t) ∧ Apart (· == ',') (")".toList ++ t) :=
    fun t => ⟨apart_append t, apart_append t⟩
  obtain ⟨hnames, hrest⟩ := hdelimited (hclose r) (hclose s) heq
  exact ⟨hnames, List.append_cancel_left hrest⟩

theorem partitionCql_single (n : String) : partitionCql [n] = quoteName n := rfl

theorem toList_partitionCql_several (m n : String) (names : List String) (rest : List Char) :
    (partitionCql (m :: n :: names)).toList ++ rest = '(' :: ((quoteName m).toList ++
      (furtherNamesCql (n :: names) ++ (")".toList ++ rest))) := by
  show ("(" ++ ", ".intercalate (quoteName m :: (n :: names).map quoteName) ++ ")").toList ++
    rest = _
  rw [String.toList_append, String.toList_append, toList_intercalate_names]
  simp

/-- A partition is one name, or several in parentheses. -/
theorem partitionCql_append {p q : List String} (hp : p ≠ []) (hq : q ≠ []) {r s : List Char}
    (hr : Stops r) (hs : Stops s)
    (heq : (partitionCql p).toList ++ r = (partitionCql q).toList ++ s) : p = q ∧ r = s := by
  obtain _ | ⟨m, ms⟩ := p
  · exact absurd rfl hp
  obtain _ | ⟨n, ns⟩ := q
  · exact absurd rfl hq
  cases ms with
  | nil =>
    cases ns with
    | nil =>
      rw [partitionCql_single, partitionCql_single] at heq
      obtain ⟨rfl, rfl⟩ := delimited_quoteName hr hs heq
      exact ⟨rfl, rfl⟩
    | cons n' ns =>
      -- no name begins with a parenthesis
      rw [partitionCql_single, toList_partitionCql_several] at heq
      exact absurd heq (quoteName_append_ne (by decide) (by decide))
  | cons m' ms =>
    cases ns with
    | nil =>
      rw [partitionCql_single, toList_partitionCql_several] at heq
      exact absurd heq.symm (quoteName_append_ne (by decide) (by decide))
    | cons n' ns =>
      rw [toList_partitionCql_several, toList_partitionCql_several] at heq
      obtain ⟨rfl, hfurther⟩ := delimited_quoteName
        (stops_furtherNamesCql _ (apart_append r))
        (stops_furtherNamesCql _ (apart_append s)) (List.cons.inj heq).2
      obtain ⟨hmore, rfl⟩ := furtherNamesCql_append hfurther
      exact ⟨by rw [hmore], rfl⟩

theorem toList_primaryKey (k : PrimaryKey) :
    k.cql.toList = "PRIMARY KEY(".toList ++ ((partitionCql k.partition).toList ++
      (furtherNamesCql k.clustering ++ ")".toList)) := by
  rw [PrimaryKey.cql]
  simp only [String.toList_append, toList_intercalate_names, List.append_assoc]

/-- A key ends where its parenthesis is closed. -/
theorem delimited_primaryKey : Delimited Anything (fun k : PrimaryKey => k.cql.toList) := by
  intro k l r s _ _ heq
  simp only [toList_primaryKey, List.append_assoc] at heq
  obtain ⟨hpartition, hfurther⟩ := partitionCql_append k.partition_ne_nil l.partition_ne_nil
    (stops_furtherNamesCql _ (apart_append r))
    (stops_furtherNamesCql _ (apart_append s)) (List.append_cancel_left heq)
  obtain ⟨hclustering, rfl⟩ := furtherNamesCql_append hfurther
  obtain ⟨kp, kc, hk⟩ := k
  obtain ⟨lp, lc, hl⟩ := l
  obtain rfl : kp = lp := hpartition
  obtain rfl : kc = lc := hclustering
  exact ⟨rfl, rfl⟩

/-! ## Statements -/

/-- The definitions of a statement: columns, and the key behind them. -/
def definitionsCql (columns : List Column) (k : PrimaryKey) : String :=
  ", ".intercalate (columns.map Column.cql ++ [k.cql])

theorem toList_definitionsCql_cons (c : Column) (columns : List Column) (k : PrimaryKey) :
    (definitionsCql (c :: columns) k).toList =
      c.cql.toList ++ (", ".toList ++ (definitionsCql columns k).toList) := by
  have hne : columns.map Column.cql ++ [k.cql] ≠ [] := by simp
  unfold definitionsCql
  rw [List.map_cons, List.cons_append, String.intercalate_cons_of_ne_nil hne, String.toList_append,
    String.toList_append, List.append_assoc]

/-- No column is written like a key: its name does not begin with a capital. -/
theorem column_append_ne_primaryKey (c : Column) (k : PrimaryKey) (r s : List Char) :
    c.cql.toList ++ r ≠ k.cql.toList ++ s := by
  intro heq
  rw [toList_primaryKey, Column.cql] at heq
  simp only [String.toList_append, List.append_assoc] at heq
  exact quoteName_append_ne (by decide) (by decide) heq

/-- The definitions of a statement can be told from their text. -/
theorem definitionsCql_append {cs ds : List Column} {k l : PrimaryKey} {r s : List Char}
    (heq : (definitionsCql cs k).toList ++ r = (definitionsCql ds l).toList ++ s) :
    cs = ds ∧ k = l ∧ r = s := by
  have hnil : ∀ k : PrimaryKey, (definitionsCql [] k).toList = k.cql.toList := by
    intro k
    simp [definitionsCql]
  induction cs generalizing ds with
  | nil =>
    cases ds with
    | nil =>
      rw [hnil, hnil] at heq
      obtain ⟨rfl, rfl⟩ := delimited_primaryKey trivial trivial heq
      exact ⟨rfl, rfl, rfl⟩
    | cons d ds =>
      rw [hnil, toList_definitionsCql_cons, List.append_assoc] at heq
      exact absurd heq.symm (column_append_ne_primaryKey _ _ _ _)
  | cons c cs ih =>
    cases ds with
    | nil =>
      rw [hnil, toList_definitionsCql_cons, List.append_assoc] at heq
      exact absurd heq (column_append_ne_primaryKey _ _ _ _)
    | cons d ds =>
      simp only [toList_definitionsCql_cons, List.append_assoc] at heq
      obtain ⟨rfl, hmore⟩ := delimited_column (apart_append _) (apart_append _) heq
      obtain ⟨rfl, rfl, rfl⟩ := ih (List.append_cancel_left hmore)
      exact ⟨rfl, rfl, rfl⟩

theorem toList_qualifiedName (n : QualifiedName) :
    n.cql.toList = (quoteName n.keyspace).toList ++ (".".toList ++ (quoteName n.table).toList) := by
  rw [QualifiedName.cql, String.toList_append, String.toList_append, List.append_assoc]

/-- The name of a table ends where its second name does. -/
theorem delimited_qualifiedName : Delimited Stops (fun n : QualifiedName => n.cql.toList) := by
  intro m n r s hr hs heq
  simp only [toList_qualifiedName, List.append_assoc] at heq
  obtain ⟨hkeyspace, hdot⟩ := delimited_quoteName (apart_append _) (apart_append _) heq
  obtain ⟨htable, rfl⟩ := delimited_quoteName hr hs (List.append_cancel_left hdot)
  obtain ⟨mkeyspace, mtable⟩ := m
  obtain ⟨nkeyspace, ntable⟩ := n
  obtain rfl : mkeyspace = nkeyspace := hkeyspace
  obtain rfl : mtable = ntable := htable
  exact ⟨rfl, rfl⟩

/-- A statement tells the names, the columns and the key of its table, and
where it ends. -/
theorem structure_cql_append {s t : Structure} {guarded : Bool} {r r' : List Char}
    (heq : (s.cql guarded).toList ++ r = (t.cql guarded).toList ++ r') :
    s.qualifiedName = t.qualifiedName ∧ s.columns = t.columns ∧ s.primaryKey = t.primaryKey ∧
      r = r' := by
  simp only [Structure.toList_cql, List.append_assoc, List.append_cancel_left_eq] at heq
  obtain ⟨hname, hopen⟩ := delimited_qualifiedName (apart_append _) (apart_append _) heq
  obtain ⟨hcolumns, hkey, hclose⟩ := definitionsCql_append (List.append_cancel_left hopen)
  exact ⟨hname, hcolumns, hkey, List.append_cancel_left hclose⟩

end AuthKeyspace.Cql
