import AuthKeyspace.Proofs.Cql.Following

/-!
# A cursor keeps to the items and always gets on

The walk along a statement is sound whatever the tokens are, and it ends as
`Statement.ofTokens` does (`statement_exact`). So no loop uses up its bound, with
slack or without. If there is a statement, what has been finished on the way is the work
that the statement takes, one piece for each of its parts (`Statement.work`): so no
round of a loop and no type goes without its record.

There is one lemma for each reader, which says that the walk follows it. For a loop it
is proved by induction on the bound, which stays greater than the number of tokens left.
That a piece of work uses up a token comes from the readers of lists, each of which
leaves fewer tokens.
-/

namespace AuthKeyspace.Cql

open Reader
open Walk (Work)

/-! ## The work that a statement takes -/

namespace DataType

mutual
/-- The work inside a type, in the order in which it is finished. -/
def workInside : DataType → List Work
  | .scalar _ => []
  | .set t | .list t | .frozen t => t.workInside ++ [.type]
  | .map k v => k.workInside ++ .type :: (v.workInside ++ [.type, .typeArgument])
  | .tuple t ts => t.workInside ++ .type :: furtherWork ts
/-- The work of further types, each of which is behind a comma. -/
def furtherWork : List DataType → List Work
  | [] => []
  | t :: ts => t.workInside ++ .type :: .typeArgument :: furtherWork ts
end

/-- The work that a type takes. -/
def work (t : DataType) : List Work := t.workInside ++ [.type]

/-- What a constructor is given is all that is inside a type. -/
theorem workInside_of_formed {c : TypeConstructor} {t ty : DataType} {ts : List DataType}
    (h : Formed c (t :: ts) ty) : ty.workInside = t.work ++ furtherWork ts := by
  cases h <;> simp [workInside, furtherWork, work]

end DataType

/-- The work that a definition takes: for a key, a piece for each column but the first. -/
def Definition.work : Definition → List Work
  | .column c _ _ => c.type.work
  | .key k => List.replicate (k.columns.length - 1) .keyColumn

/-- The work that definitions take. -/
def definitionsWork (ds : List Definition) : List Work :=
  ds.flatMap fun d => d.work ++ [.definition]

/-- The work that a statement takes, in the order in which it is finished. -/
def Statement.work (s : Statement) : List Work := definitionsWork s.definitions

namespace Walk

variable {s : Course} {α : Type} {left rest : List Token} {done : List Work}
variable {total : α → List Work}

/-! ## Types -/

/-- What some tokens were used up for leaves fewer. -/
theorem length_lt_of_used {used : List Token} (h : used ≠ []) (rest : List Token) :
    rest.length < (used ++ rest).length := by
  have := List.length_pos_iff.2 h
  rw [List.length_append]
  omega

theorem length_type {bound : Nat} {ty : DataType} (h : Reader.type bound left = .ok (ty, rest)) :
    rest.length < left.length := by
  obtain ⟨used, rfl, hform⟩ := (types_sound bound).1 h
  refine length_lt_of_used ?_ rest
  rintro rfl
  cases hform

/-- What is behind the word of a type is read alike if the arguments are. -/
theorem follows_typeBehind {cs : List Char} {position bound : Nat} {first : Walk DataType}
    {further : Walk (List DataType)}
    (hfirst : ∀ {us : List Token}, us.length < left.length →
      Follows s first us done (fun t => done ++ t.work) (Reader.type bound us))
    (hfurther : ∀ {us : List Token} {done' : List Work}, us.length < left.length →
      Follows s further us done' (fun ts => done' ++ DataType.furtherWork ts)
        (Reader.furtherTypes bound us)) :
    Follows s (typeBehind ⟨.word cs, position⟩ cs first further) left done
      (fun t => done ++ t.workInside) (Reader.type (bound + 1) (⟨.word cs, position⟩ :: left)) := by
  rw [Reader.type.eq_def]
  unfold typeBehind
  dsimp only
  cases ScalarType.ofWord? (String.ofList (foldCase cs)) with
  | some scalar =>
    refine Does.follows (does_sees _ (Nat.zero_le _)) ?_
    show Follows s (if startsWith (·.isSymbol .openAngle) left = true then _ else _) left _ _ _
    rw [startsWith_isSymbol]
    cases startsWithSymbol .openAngle left with
    | true =>
      refine Does.follows (does_look (Nat.zero_le _)) ?_
      rw [token?_itemAt, ← List.head?_eq_getElem?]
      exact fails_fail _ _
    | false => exact follows_pure (List.append_nil done)
  | none =>
    cases TypeConstructor.ofWord? (String.ofList (foldCase cs)) with
    | none => exact fails_fail _ _
    | some c =>
      refine (follows_symbol .openAngle).then fun ts₁ hopen => ?_
      have h₁ := length_symbol hopen
      refine (hfirst (by omega)).bind fun ty ts₂ hty => ?_
      have h₂ := length_type hty
      refine (hfurther (by omega)).bind fun tys ts₃ _ => ?_
      refine (follows_symbol .closeAngle).then fun ts₄ _ => ?_
      cases happly : c.apply ty tys with
      | ok formed =>
        have hinside := DataType.workInside_of_formed (apply_eq_ok_iff.1 happly)
        exact follows_pure (by rw [hinside, List.append_assoc])
      | error fault => exact fails_fail _ _

/-- Types are read alike, whatever the bounds are, if they are no less than the number
of tokens that are left. -/
theorem follows_types (bound : Nat) :
    (∀ {left : List Token} {done : List Work} {bound' : Nat},
      left.length < bound → left.length ≤ bound' →
      Follows s (type bound) left done (fun t => done ++ t.work) (Reader.type bound' left)) ∧
    (∀ {left : List Token} {done : List Work} {bound' : Nat},
      left.length < bound → left.length ≤ bound' →
      Follows s (furtherTypes bound) left done (fun ts => done ++ DataType.furtherWork ts)
        (Reader.furtherTypes bound' left)) := by
  induction bound with
  | zero => exact ⟨fun h => absurd h (Nat.not_lt_zero _), fun h => absurd h (Nat.not_lt_zero _)⟩
  | succ bound ih =>
    -- both halves at once, since a type is read with the bound below for its arguments
    obtain ⟨ihType, ihFurther⟩ := ih
    constructor
    · intro left done bound' h h'
      refine .of_length_le fun hle => ?_
      refine Does.follows does_place ?_
      refine Does.follows (does_look (Nat.zero_le _)) ?_
      rw [token?_itemAt]
      cases left with
      | nil =>
        rw [Reader.type.eq_def]
        exact follows_missing .type
      | cons t rest =>
        obtain ⟨l, position⟩ := t
        cases bound' with
        | zero => exact absurd h' (by simp)
        | succ bound' =>
          simp only [List.length_cons] at h h' hle ⊢
          cases l with
          | quoted | symbol =>
            rw [Reader.type.eq_def]
            exact follows_missing .type
          | word cs =>
            refine Does.follows (does_advance _ rest) ?_
            simp only [DataType.work, ← List.append_assoc]
            refine Follows.finish (follows_typeBehind (fun hus => ihType (by omega) (by omega))
              fun hus => ihFurther (by omega) (by omega)) .type fun ty us hread => ?_
            have hus := length_type hread
            simp only [List.length_cons] at hus
            omega
    · intro left done bound' h h'
      refine .of_length_le fun hle => ?_
      refine Does.follows does_place ?_
      cases left with
      | nil =>
        rw [Reader.furtherTypes.eq_def]
        exact Does.follows (does_accept_not rfl) (follows_pure (List.append_nil done))
      | cons t rest =>
        cases bound' with
        | zero => exact absurd h' (by simp)
        | succ bound' =>
          simp only [List.length_cons] at h h' hle ⊢
          cases hcomma : t.lexeme.isSymbol .comma with
          | false =>
            rw [Reader.furtherTypes, hcomma]
            exact Does.follows (does_accept_not hcomma) (follows_pure (List.append_nil done))
          | true =>
            rw [Reader.furtherTypes, if_pos hcomma]
            refine Does.follows (does_accept hcomma) ?_
            rw [List.tail_cons]
            refine (ihType (by omega) (by omega)).bind fun first us hfirst => ?_
            have hus := length_type hfirst
            refine Does.follows (does_finish .typeArgument (by omega)) ?_
            refine (ihFurther (by omega) (by omega)).bind fun more vs _ => ?_
            exact follows_pure (by simp [DataType.furtherWork, DataType.work])

/-! ## Definitions -/

theorem follows_keyColumns : Follows s keyColumns left done
    (fun key => done ++ List.replicate (key.columns.length - 1) .keyColumn)
    (Reader.keyColumns left) := by
  refine (follows_symbol .openParen).then fun ts₁ _ => ?_
  refine follows_accept_symbol (fun _ => ?_) (fun _ => ?_)
  · refine (follows_name .partitionColumn).bind fun first ts₂ _ => ?_
    refine Does.follows does_bound ?_
    refine (follows_furtherNames .partitionColumn (by omega)).bind fun more ts₃ _ => ?_
    refine (follows_symbol .closeParen).then fun ts₄ _ => ?_
    refine Does.follows does_bound ?_
    refine (follows_furtherNames .clusteringColumn (by omega)).bind fun clustering ts₅ _ => ?_
    refine (follows_symbol .closeParen).then fun ts₆ _ => ?_
    exact follows_pure (by simp [PrimaryKey.columns, PrimaryKey.ofFirst])
  · refine (follows_name .partitionColumn).bind fun first ts₂ _ => ?_
    refine Does.follows does_bound ?_
    refine (follows_furtherNames .clusteringColumn (by omega)).bind fun clustering ts₃ _ => ?_
    refine (follows_symbol .closeParen).then fun ts₄ _ => ?_
    exact follows_pure (by simp [PrimaryKey.columns, PrimaryKey.ofFirst])

theorem follows_columnDefinition :
    Follows s columnDefinition left done (fun d => done ++ d.work)
      (Reader.columnDefinition left) := by
  refine Does.follows (does_look (Nat.zero_le _)) ?_
  refine (follows_name .columnName).bind fun n ts₁ hname => ?_
  obtain ⟨t, rfl, -⟩ := name_eq_ok_iff.1 hname
  refine Does.follows does_bound ?_
  refine ((follows_types _).1 (by omega) (Nat.le_refl _)).bind fun ty ts₂ _ => ?_
  refine follows_accept_keyword (fun _ => ?_) (fun _ => does_pure _)
  exact (follows_keyword "KEY").then fun ts₃ _ => does_pure _

theorem follows_definition :
    Follows s definition left done (fun d => done ++ d.work) (Reader.definition left) := by
  refine Does.follows (does_sees_keyword "PRIMARY" (Nat.zero_le _)) ?_
  rw [List.drop_zero]
  unfold Reader.definition
  cases hprimary : startsWithKeyword "PRIMARY" left with
  | false => exact follows_columnDefinition
  | true =>
    -- only now the second item is looked at, which is there since the first is no end
    obtain ⟨t, rest, rfl, -⟩ := startsWithKeyword_iff.1 hprimary
    refine Does.follows (does_sees_keyword "KEY" (by simp)) ?_
    rw [List.drop_one]
    cases hkey : startsWithKeyword "KEY" (t :: rest).tail with
    | false => exact follows_columnDefinition
    | true =>
      obtain ⟨u, us, rfl, -⟩ := startsWithKeyword_iff.1 hkey
      refine Does.follows (does_advance t (u :: us)) ?_
      refine Does.follows (does_advance u us) ?_
      exact follows_keyColumns.bind fun key ts _ => does_pure _

theorem length_definition {d : Definition} (h : Reader.definition left = .ok (d, rest)) :
    rest.length < left.length := by
  obtain ⟨used, rfl, hform⟩ := definition_sound h
  refine length_lt_of_used ?_ rest
  rintro rfl
  cases hform

/-- Definitions are read alike, whatever the bounds are, if they are no less than the
number of tokens that are left. -/
theorem follows_definitions {bound bound' : Nat} (h : left.length < bound)
    (h' : left.length ≤ bound') :
    Follows s (definitions bound) left done (fun ds => done ++ definitionsWork ds)
      (Reader.definitions bound' left) := by
  induction bound generalizing left done bound' with
  | zero => omega
  | succ bound ih =>
    refine .of_length_le fun hle => ?_
    refine Does.follows does_place ?_
    cases bound' with
    | zero =>
      -- no token is left, so no definition can be read
      refine follows_definition.bind fun d ts₁ hd => ?_
      have h₁ := length_definition hd
      omega
    | succ bound' =>
      refine follows_definition.bind fun d ts₁ hd => ?_
      have h₁ := length_definition hd
      refine follows_accept_symbol (fun hcomma => ?_) (fun _ => ?_)
      · obtain ⟨comma, ts₂, rfl, -⟩ := startsWithSymbol_iff.1 hcomma
        rw [List.length_cons] at h₁
        rw [List.tail_cons]
        refine Does.follows (does_finish .definition (by omega)) ?_
        refine (ih (by omega) (by omega)).bind fun more ts₃ _ => ?_
        exact follows_pure (by simp [definitionsWork])
      · refine Does.follows (does_finish .definition (by omega)) ?_
        exact follows_pure (by simp [definitionsWork])

/-! ## The statement -/

theorem follows_guard : Follows s guard left done (fun _ => done) (Reader.guard left) := by
  refine follows_accept_keyword (fun _ => ?_) (fun _ => does_pure _)
  refine (follows_keyword "NOT").then fun ts₁ _ => ?_
  exact (follows_keyword "EXISTS").then fun ts₂ _ => does_pure _

theorem follows_qualifiedName :
    Follows s qualifiedName left done (fun _ => done) (Reader.qualifiedName left) := by
  refine (follows_name .tableName).bind fun first ts₁ _ => ?_
  refine follows_accept_symbol (fun _ => ?_) (fun _ => does_pure _)
  exact (follows_name .tableName).bind fun second ts₂ _ => does_pure _

/-- Behind the semicolon, if there is one, only the end is no fault. -/
theorem follows_end : Follows s
    (look 0 >>= fun item => if item.token?.isSome then missing .endOfStatement else pure ())
    left done (fun _ => done)
    ((if left.isEmpty then .ok () else Reader.missing .endOfStatement left).map
      fun u => (u, [])) := by
  refine Does.follows (does_look (Nat.zero_le _)) ?_
  rw [token?_itemAt]
  cases left with
  | nil => exact does_pure ()
  | cons t rest => exact follows_missing (α := Unit) .endOfStatement

theorem follows_endOfStatement :
    Follows s endOfStatement left done (fun _ => done)
      ((Reader.endOfStatement left).map fun u => (u, [])) := by
  refine Does.follows (does_sees_keyword "WITH" (Nat.zero_le _)) ?_
  rw [List.drop_zero]
  unfold Reader.endOfStatement
  cases startsWithKeyword "WITH" left with
  | true =>
    refine Does.follows (does_look (Nat.zero_le _)) ?_
    rw [token?_itemAt, ← List.head?_eq_getElem?]
    exact fails_fail _ _
  | false =>
    dsimp only
    cases hsemicolon : startsWithSymbol .semicolon left with
    | true =>
      refine Does.follows (does_accept ((startsWith_isSymbol _ _).trans hsemicolon)) ?_
      exact follows_end
    | false =>
      refine Does.follows (does_accept_not ((startsWith_isSymbol _ _).trans hsemicolon)) ?_
      exact follows_end

/-- The tokens of a statement with what is left behind it, which is nothing. -/
theorem map_ofTokens (tokens : List Token) :
    ((Statement.ofTokens tokens).map fun read => (read, ([] : List Token))) = (do
      let ts ← Reader.keyword "CREATE" tokens
      let ts ← Reader.keyword "TABLE" ts
      let (guarded, ts) ← Reader.guard ts
      let ((keyspace?, table), ts) ← Reader.qualifiedName ts
      let ts ← Reader.symbol .openParen ts
      let (definitions, ts) ← Reader.definitions ts.length ts
      let ts ← Reader.symbol .closeParen ts
      let (_, rest) ← (fun u => (u, ([] : List Token))) <$> Reader.endOfStatement ts
      return ({ keyspace?, table, guarded, definitions }, rest)) := by
  show (fun read => (read, ([] : List Token))) <$> Statement.ofTokens tokens = _
  simp only [Statement.ofTokens, map_bind, map_pure, bind_map_left]

theorem follows_statement (s : Course) :
    Follows s statement s.tokens [] Statement.work
      ((Statement.ofTokens s.tokens).map fun read => (read, [])) := by
  rw [map_ofTokens]
  refine (follows_keyword "CREATE").then fun ts₁ _ => ?_
  refine (follows_keyword "TABLE").then fun ts₂ _ => ?_
  refine follows_guard.bind fun guarded ts₃ _ => ?_
  refine follows_qualifiedName.bind fun names ts₄ _ => ?_
  refine (follows_symbol .openParen).then fun ts₅ _ => ?_
  refine Does.follows does_bound ?_
  refine (follows_definitions (by omega) (Nat.le_refl _)).bind fun ds ts₆ _ => ?_
  refine (follows_symbol .closeParen).then fun ts₇ _ => ?_
  exact follows_endOfStatement.bind fun u rest _ => does_pure _

theorem stands_start (s : Course) : Stands s s.tokens [] {} where
  sound := {
    event_sound := fun e he => absurd he (List.not_mem_nil)
    ordered := List.Pairwise.nil
    index_le := fun e he => absurd he (List.not_mem_nil)
    left_eq := rfl
    index_lt := by
      show 0 < s.items.length
      simp [Course.items] }
  drop_eq := rfl
  finished_eq := rfl

/-- Reading a statement from the first item on comes to an end that is the one of the
reader of lists, and what is done on the way is sound: the cursor goes from one token
to the next and never back, never moves over the end and never leaves the items,
nothing is looked at that is not there, and each definition, each further column of a
key, each further type argument and each type uses up a token at least. So bounds do
not matter, and `slack` can be zero. In a text with a statement each of these parts of
the statement is finished once, in order, and nothing else is. -/
theorem statement_exact (s : Course) :
    ∃ outcome cursor, statement.go s.track {} = (outcome, cursor) ∧
      outcome = (Statement.ofTokens s.tokens).mapError .fault ∧
      outcome ≠ .error .cutShort ∧ outcome ≠ .error .nowhere ∧
      (∀ read, outcome = .ok read →
        cursor.index = s.tokens.length ∧ cursor.finished = read.work) ∧
      cursor.Sound s.items := by
  have hfollows := follows_statement s
  cases hread : Statement.ofTokens s.tokens with
  | ok read =>
    rw [hread] at hfollows
    obtain ⟨c, hgo, hc⟩ := hfollows {} (stands_start s)
    refine ⟨.ok read, c, hgo, rfl, nofun, nofun, ?_, hc.sound⟩
    rintro _ ⟨⟩
    exact ⟨hc.index_add_length, hc.finished_eq⟩
  | error e =>
    rw [hread] at hfollows
    obtain ⟨c, hgo, hc⟩ := hfollows {} (stands_start s)
    exact ⟨.error (.fault e), c, hgo, rfl, nofun, nofun, nofun, hc⟩

/-- A text cut off behind its first word: the end is looked at twice and stays where it is. -/
example : statement.go ⟨[.token ⟨.word ['c', 'r', 'e', 'a', 't', 'e'], 0⟩, .textEnd 6], 0⟩ {} =
    (.error (.fault ⟨.expected (.keyword "TABLE"), none⟩),
      ⟨1, [.look 0 0, .look 0 0, .move 0 1, .look 1 0, .look 1 0]⟩) := by rfl

end Walk

end AuthKeyspace.Cql
