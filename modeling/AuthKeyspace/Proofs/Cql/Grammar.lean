import AuthKeyspace.Cql.Statement

/-!
# The grammar of a CREATE TABLE statement

What a statement is, said without the readers of `Cql/Statement`: each phrase
of the language is a relation between the tokens that are written and what they
stand for.

    statement:   CREATE TABLE [IF NOT EXISTS] name [. name] ( definition {, definition} ) [;]
    definition:  PRIMARY KEY ( key )  or  name type [PRIMARY KEY]
    key:         name {, name}  or  ( name {, name} ) {, name}
    type:        scalar  or  constructor < type {, type} >

A phrase below the definitions only depends on what its tokens say, so it is a
relation on lexemes. A definition also records where the name of its column
stands, so from there on the relations are on tokens.

Two rules are no matter of concatenation. Which arguments a constructor takes
is the relation `Formed`: no collection holds a collection directly and no
scalar is frozen. And without a guard the first name is not the bare word IF,
since that word commits a statement to a guard.

The lemmas connect single lexemes with the tests that readers make
(`isKeyword_iff`, `name?_iff`, `ofWord?_foldCase_iff`) and the formation of
types with `TypeConstructor.apply` (`apply_eq_ok_iff`, `unformed_of_apply`).
-/

namespace AuthKeyspace.Cql

/-! ## What tokens say -/

/-- What tokens say, without where they stand. -/
def lexemes (tokens : List Token) : List Lexeme := tokens.map (·.lexeme)

@[simp] theorem lexemes_nil : lexemes [] = [] := rfl

@[simp] theorem lexemes_cons (t : Token) (ts : List Token) :
    lexemes (t :: ts) = t.lexeme :: lexemes ts := rfl

@[simp] theorem lexemes_append (ts us : List Token) :
    lexemes (ts ++ us) = lexemes ts ++ lexemes us := List.map_append

theorem lexemes_eq_cons_iff {ts : List Token} {l : Lexeme} {ls : List Lexeme} :
    lexemes ts = l :: ls ↔ ∃ t us, ts = t :: us ∧ t.lexeme = l ∧ lexemes us = ls :=
  List.map_eq_cons_iff

theorem lexemes_eq_append_iff {ts : List Token} {ls ms : List Lexeme} :
    lexemes ts = ls ++ ms ↔ ∃ us vs, ts = us ++ vs ∧ lexemes us = ls ∧ lexemes vs = ms :=
  List.map_eq_append_iff

theorem lexemes_eq_nil_iff {ts : List Token} : lexemes ts = [] ↔ ts = [] := List.map_eq_nil_iff

/-! ## Words and names -/

/-- The bare word `k`, in whatever case; `k` is given in capitals. -/
inductive KeywordForm (k : String) : Lexeme → Prop
  | word {cs : List Char} (h : cs.map Char.toUpper = k.toList) : KeywordForm k (.word cs)

/-- A name: a bare word stands for itself in lower case, a quoted name for what
is between its quotes. -/
inductive NameForm : Lexeme → String → Prop
  | word (cs : List Char) : NameForm (.word cs) (String.ofList (cs.map Char.toLower))
  | quoted (cs : List Char) : NameForm (.quoted cs) (String.ofList cs)

/-- Names behind a first one, each after a comma. -/
inductive FurtherNamesForm : List Lexeme → List String → Prop
  | nil : FurtherNamesForm [] []
  | cons {l : Lexeme} {ls : List Lexeme} {n : String} {ns : List String}
      (hn : NameForm l n) (hns : FurtherNamesForm ls ns) :
      FurtherNamesForm (.symbol .comma :: l :: ls) (n :: ns)

/-! ## Types -/

/-- The bare word of a scalar, in whatever case; `text` has a second one. -/
inductive ScalarForm : Lexeme → ScalarType → Prop
  | word {cs : List Char} {s : ScalarType} (h : cs.map Char.toLower = s.word.toList) :
      ScalarForm (.word cs) s
  | varchar {cs : List Char} (h : cs.map Char.toLower = "varchar".toList) :
      ScalarForm (.word cs) .text

/-- The bare word of a constructor, in whatever case. -/
inductive ConstructorForm : Lexeme → TypeConstructor → Prop
  | word {cs : List Char} {c : TypeConstructor} (h : cs.map Char.toLower = c.word.toList) :
      ConstructorForm (.word cs) c

/-- The types that constructors make of their arguments. -/
inductive Formed : TypeConstructor → List DataType → DataType → Prop
  | set {e : DataType} (h : e.isMultiCell = false) : Formed .set [e] (.set e)
  | list {e : DataType} (h : e.isMultiCell = false) : Formed .list [e] (.list e)
  | map {k v : DataType} (hk : k.isMultiCell = false) (hv : v.isMultiCell = false) :
      Formed .map [k, v] (.map k v)
  | tuple (e : DataType) (es : List DataType) : Formed .tuple (e :: es) (.tuple e es)
  | frozen {t : DataType} (h : ∀ s, t ≠ .scalar s) : Formed .frozen [t] (.frozen t)

/-- The arguments that constructors make no type of, and what is said of them. -/
inductive Unformed : TypeConstructor → List DataType → TypeFault → Prop
  | arity {c : TypeConstructor} {ts : List DataType} (hc : c ≠ .tuple) (h : ts.length ≠ c.arity) :
      Unformed c ts (.arity c ts.length)
  | frozenScalar (s : ScalarType) : Unformed .frozen [.scalar s] (.frozenScalar s)
  | nested {c : TypeConstructor} {ts : List DataType} {e : DataType}
      (hc : c = .set ∨ c = .list ∨ c = .map) (h : ts.length = c.arity) (he : e ∈ ts)
      (hcells : e.isMultiCell = true) : Unformed c ts (.nestedCollection c)

mutual
/-- A type. -/
inductive TypeForm : List Lexeme → DataType → Prop
  | scalar {l : Lexeme} {s : ScalarType} (h : ScalarForm l s) : TypeForm [l] (.scalar s)
  | formed {l : Lexeme} {ls ms : List Lexeme} {c : TypeConstructor} {t ty : DataType}
      {ts : List DataType} (hc : ConstructorForm l c) (ht : TypeForm ls t)
      (hts : FurtherTypesForm ms ts) (hty : Formed c (t :: ts) ty) :
      TypeForm (l :: .symbol .openAngle :: (ls ++ (ms ++ [.symbol .closeAngle]))) ty
/-- Types behind a first one, each after a comma. -/
inductive FurtherTypesForm : List Lexeme → List DataType → Prop
  | nil : FurtherTypesForm [] []
  | cons {ls ms : List Lexeme} {t : DataType} {ts : List DataType}
      (ht : TypeForm ls t) (hts : FurtherTypesForm ms ts) :
      FurtherTypesForm (.symbol .comma :: (ls ++ ms)) (t :: ts)
end

/-! ## Keys and definitions -/

/-- The columns of a key clause with the parentheses around them. -/
inductive KeyForm : List Lexeme → PrimaryKey → Prop
  | simple {l : Lexeme} {ls : List Lexeme} {n : String} {clustering : List String}
      (hn : NameForm l n) (hc : FurtherNamesForm ls clustering) :
      KeyForm (.symbol .openParen :: l :: (ls ++ [.symbol .closeParen]))
        (.ofFirst n [] clustering)
  | composite {l : Lexeme} {ls ms : List Lexeme} {n : String} {ns clustering : List String}
      (hn : NameForm l n) (hns : FurtherNamesForm ls ns) (hc : FurtherNamesForm ms clustering) :
      KeyForm (.symbol .openParen :: .symbol .openParen :: l ::
          (ls ++ (.symbol .closeParen :: (ms ++ [.symbol .closeParen]))))
        (.ofFirst n ns clustering)

/-- One item between the parentheses of a statement. -/
inductive DefinitionForm : List Token → Definition → Prop
  | key {p k : Token} {ts : List Token} {key : PrimaryKey} (hp : KeywordForm "PRIMARY" p.lexeme)
      (hk : KeywordForm "KEY" k.lexeme) (hkey : KeyForm (lexemes ts) key) :
      DefinitionForm (p :: k :: ts) (.key key)
  | column {t : Token} {ts : List Token} {n : String} {ty : DataType}
      (hn : NameForm t.lexeme n) (hty : TypeForm (lexemes ts) ty) :
      DefinitionForm (t :: ts) (.column ⟨n, ty⟩ t.position false)
  | keyColumn {t p k : Token} {ts : List Token} {n : String} {ty : DataType}
      (hn : NameForm t.lexeme n) (hty : TypeForm (lexemes ts) ty)
      (hp : KeywordForm "PRIMARY" p.lexeme) (hk : KeywordForm "KEY" k.lexeme) :
      DefinitionForm (t :: (ts ++ [p, k])) (.column ⟨n, ty⟩ t.position true)

/-- One definition or more, with commas between them. -/
inductive DefinitionsForm : List Token → List Definition → Prop
  | one {ts : List Token} {d : Definition} (hd : DefinitionForm ts d) : DefinitionsForm ts [d]
  | cons {ts us : List Token} {comma : Token} {d : Definition} {ds : List Definition}
      (hd : DefinitionForm ts d) (hcomma : comma.lexeme = .symbol .comma)
      (hds : DefinitionsForm us ds) : DefinitionsForm (ts ++ comma :: us) (d :: ds)

/-! ## Statements -/

/-- A guard, or nothing. -/
inductive GuardForm : List Token → Bool → Prop
  | absent : GuardForm [] false
  | present {i n e : Token} (hi : KeywordForm "IF" i.lexeme) (hn : KeywordForm "NOT" n.lexeme)
      (he : KeywordForm "EXISTS" e.lexeme) : GuardForm [i, n, e] true

/-- The name of a table, perhaps behind a keyspace and a dot. -/
inductive QualifiedForm : List Token → Option String → String → Prop
  | plain {t : Token} {n : String} (hn : NameForm t.lexeme n) : QualifiedForm [t] none n
  | qualified {t dot u : Token} {k n : String} (hk : NameForm t.lexeme k)
      (hdot : dot.lexeme = .symbol .dot) (hn : NameForm u.lexeme n) :
      QualifiedForm [t, dot, u] (some k) n

/-- What may follow the closing parenthesis: a semicolon, or nothing. -/
inductive EndForm : List Token → Prop
  | none : EndForm []
  | semicolon {t : Token} (h : t.lexeme = .symbol .semicolon) : EndForm [t]

/-- A statement. -/
inductive StatementForm : List Token → Statement → Prop
  | mk {create table o c : Token} {gs qs ds es : List Token} {guarded : Bool}
      {keyspace? : Option String} {name : String} {definitions : List Definition}
      (hcreate : KeywordForm "CREATE" create.lexeme) (htable : KeywordForm "TABLE" table.lexeme)
      (hguard : GuardForm gs guarded) (hname : QualifiedForm qs keyspace? name)
      (hif : guarded = false → ∀ q ∈ qs.head?, ¬ KeywordForm "IF" q.lexeme)
      (hopen : o.lexeme = .symbol .openParen) (hds : DefinitionsForm ds definitions)
      (hclose : c.lexeme = .symbol .closeParen) (hend : EndForm es) :
      StatementForm (create :: table :: (gs ++ (qs ++ (o :: (ds ++ (c :: es))))))
        { keyspace?, table := name, guarded, definitions }

/-! ## Single lexemes and the tests of readers -/

theorem isKeyword_iff {k : String} {l : Lexeme} : l.isKeyword k = true ↔ KeywordForm k l := by
  constructor
  · intro h
    cases l with
    | word cs => exact .word (by simpa [Lexeme.isKeyword] using h)
    | quoted | symbol => simp [Lexeme.isKeyword] at h
  · intro h
    obtain ⟨h⟩ := h
    simpa [Lexeme.isKeyword] using h

theorem isSymbol_iff {s : Symbol} {l : Lexeme} : l.isSymbol s = true ↔ l = .symbol s := by
  cases l <;> simp [Lexeme.isSymbol]

theorem name?_iff {l : Lexeme} {n : String} : l.name? = some n ↔ NameForm l n := by
  constructor
  · intro h
    cases l with
    | word cs => cases h; exact .word cs
    | quoted cs => cases h; exact .quoted cs
    | symbol => cases h
  · intro h
    cases h <;> rfl

/-- A word names a scalar if it is the scalar's own word or the second word of
`text`. -/
theorem ofWord?_iff {w : String} {s : ScalarType} :
    ScalarType.ofWord? w = some s ↔ w = s.word ∨ (w = "varchar" ∧ s = .text) := by
  constructor
  · intro h
    obtain ⟨before, after, hwords, -⟩ := List.lookup_eq_some_iff.1 h
    have mem : (w, s) ∈ ScalarType.words := by rw [hwords]; simp
    simp only [ScalarType.words, List.mem_cons, Prod.mk.injEq, List.not_mem_nil, or_false] at mem
    rcases mem with h | h | h | h | h | h | h | h | h | h | h | h | h | h | h | h | h | h | h <;>
      obtain ⟨rfl, rfl⟩ := h <;> simp [ScalarType.word]
  · intro h
    rcases h with rfl | ⟨rfl, rfl⟩
    · exact ScalarType.ofWord?_word s
    · rfl

/-- The test for a scalar in `type` is that of the grammar. -/
theorem ofWord?_foldCase_iff {cs : List Char} {s : ScalarType} :
    ScalarType.ofWord? (String.ofList (foldCase cs)) = some s ↔ ScalarForm (.word cs) s := by
  rw [ofWord?_iff, ← String.toList_inj, ← String.toList_inj, String.toList_ofList]
  constructor
  · intro h
    rcases h with h | ⟨h, rfl⟩
    · exact .word h
    · exact .varchar h
  · intro h
    cases h with
    | word h => exact .inl h
    | varchar h => exact .inr ⟨h, rfl⟩

/-- A word names a constructor if it is the constructor's own. -/
theorem TypeConstructor.ofWord?_eq_some_iff {w : String} {c : TypeConstructor} :
    TypeConstructor.ofWord? w = some c ↔ w = c.word := by
  constructor
  · intro h
    unfold TypeConstructor.ofWord? at h
    split at h <;> first | (cases h; rfl) | cases h
  · intro h
    subst h
    cases c <;> rfl

/-- No word names both a scalar and a constructor. -/
theorem ScalarType.ofWord?_constructor (c : TypeConstructor) :
    ScalarType.ofWord? c.word = none := by
  cases c <;> rfl

/-- The test for a constructor in `type` is that of the grammar. -/
theorem constructor_ofWord?_foldCase_iff {cs : List Char} {c : TypeConstructor} :
    TypeConstructor.ofWord? (String.ofList (foldCase cs)) = some c ↔
      ConstructorForm (.word cs) c := by
  rw [TypeConstructor.ofWord?_eq_some_iff, ← String.toList_inj, String.toList_ofList]
  constructor
  · intro h
    exact .word h
  · intro h
    cases h with
    | word h => exact h

/-- The word of a constructor is no scalar in any case. -/
theorem ofWord?_foldCase_of_constructor {cs : List Char} {c : TypeConstructor}
    (h : ConstructorForm (.word cs) c) :
    ScalarType.ofWord? (String.ofList (foldCase cs)) = none := by
  rw [TypeConstructor.ofWord?_eq_some_iff.1 (constructor_ofWord?_foldCase_iff.2 h)]
  exact ScalarType.ofWord?_constructor c

/-- `TypeConstructor.apply` forms exactly the types of the grammar. -/
theorem apply_eq_ok_iff {c : TypeConstructor} {t ty : DataType} {ts : List DataType} :
    c.apply t ts = .ok ty ↔ Formed c (t :: ts) ty := by
  constructor
  · intro h
    unfold TypeConstructor.apply at h
    split at h
    case h_1 => cases h; exact .tuple _ _
    case h_2 => cases h
    case h_3 hne => cases h; exact .frozen hne
    -- the collections: their arguments are checked, then formed
    case h_4 | h_5 =>
      split at h
      · cases h
      · next hm => cases h; constructor; simpa using hm
    case h_6 =>
      split at h
      · cases h
      · next hm =>
        simp only [Bool.or_eq_true, not_or, Bool.not_eq_true] at hm
        cases h
        exact .map hm.1 hm.2
    case h_7 => cases h
  · intro h
    cases h with
    | set h | list h => simp [TypeConstructor.apply, h]
    | map hk hv => simp [TypeConstructor.apply, hk, hv]
    | tuple => rfl
    | frozen h =>
      cases t with
      | scalar s => exact absurd rfl (h s)
      | set | list | map | tuple | frozen => rfl

/-- What `TypeConstructor.apply` refuses is what the grammar makes no type of. -/
theorem unformed_of_apply {c : TypeConstructor} {t : DataType} {ts : List DataType}
    {fault : TypeFault} (h : c.apply t ts = .error fault) : Unformed c (t :: ts) fault := by
  unfold TypeConstructor.apply at h
  split at h
  case h_1 => cases h
  case h_2 => cases h; exact .frozenScalar _
  case h_3 => cases h
  -- the collections: the number of arguments is right, so one of them is a collection
  case h_4 | h_5 =>
    split at h
    · next hcells => cases h; exact .nested (by simp) rfl List.mem_cons_self hcells
    · cases h
  case h_6 =>
    split at h
    · next hcells =>
      cases h
      rcases Bool.or_eq_true_iff.1 hcells with hk | hv
      · exact .nested (by simp) rfl List.mem_cons_self hk
      · exact .nested (by simp) rfl (List.mem_cons_of_mem _ List.mem_cons_self) hv
    · cases h
  case h_7 htuple hfrozen hset hlist hmap _ =>
    cases h
    have hne : c ≠ .tuple := fun hc => htuple hc
    refine .arity hne fun hlength => ?_
    -- with the right number of arguments one of the other rules would apply
    cases c with
    | tuple => exact hne rfl
    | set => exact hset rfl (List.length_eq_zero_iff.1 (Nat.succ.inj hlength))
    | list => exact hlist rfl (List.length_eq_zero_iff.1 (Nat.succ.inj hlength))
    | frozen => exact hfrozen rfl (List.length_eq_zero_iff.1 (Nat.succ.inj hlength))
    | map =>
      obtain ⟨v, hv⟩ := List.length_eq_one_iff.1 (Nat.succ.inj hlength)
      exact hmap v rfl hv

end AuthKeyspace.Cql
