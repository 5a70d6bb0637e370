import AuthKeyspace.Cql.Content
import AuthKeyspace.Proofs.Cql.Grammar
import AuthKeyspace.Proofs.Cql.Word
import AuthKeyspace.Proofs.Except
import Mathlib.Data.List.Forall2

/-!
# Comparing two runs of the statement reader

The readers see of a token what it says, and of a word not even the case of its
letters. So two runs on tokens that pairwise say the same take the same steps
(`alike_ofTokens`). Either both end at a fault, and the tokens at which they see
it are a pair, or both give the same, but for the places where the names of
columns stand, which are the places of a pair.

What makes two tokens a pair is left open: `R` is any relation on tokens that
say the same up to case. It can keep more than that, such as that both are at
the same index of their lists. Each reader has one lemma, and a chain of readers
goes alike if its links do (`Alike.bind`).
-/

namespace AuthKeyspace.Cql

open Reader

/-! ## Letters of either case -/

/-- A lexeme up to the case of its letters: a word in small letters. -/
def Lexeme.folded : Lexeme → Lexeme
  | .word cs => .word (foldCase cs)
  | .quoted name => .quoted name
  | .symbol s => .symbol s

theorem toUpper_toLower (c : Char) : c.toLower.toUpper = c.toUpper := by
  have h : c.toLower.toUpper.toNat = c.toUpper.toNat := by
    simp only [toNat_toLower, toNat_toUpper]
    repeat' split
    all_goals omega
  exact Char.toNat_inj.mp h

theorem map_toUpper_map_toLower (cs : List Char) :
    (cs.map Char.toLower).map Char.toUpper = cs.map Char.toUpper := by
  rw [List.map_map]
  exact List.map_congr_left fun c _ => toUpper_toLower c

theorem foldCase_foldCase (cs : List Char) : foldCase (foldCase cs) = foldCase cs := by
  have hlower (c : Char) : c.toLower.toLower = c.toLower := by
    rw [← toLower_toUpper, toUpper_toLower, toLower_toUpper]
  rw [foldCase, foldCase, List.map_map]
  exact List.map_congr_left fun c _ => hlower c

theorem Lexeme.isKeyword_folded (k : String) (l : Lexeme) :
    l.folded.isKeyword k = l.isKeyword k := by
  cases l with
  | word cs => rw [folded, isKeyword, isKeyword, foldCase, map_toUpper_map_toLower]
  | quoted | symbol => rfl

theorem Lexeme.isSymbol_folded (s : Symbol) (l : Lexeme) : l.folded.isSymbol s = l.isSymbol s := by
  cases l <;> rfl

theorem Lexeme.name?_folded (l : Lexeme) : l.folded.name? = l.name? := by
  cases l with
  | word cs => rw [folded, name?, name?, foldCase_foldCase]
  | quoted | symbol => rfl

/-! ## The two halves of a statement -/

/-- Read what is behind the name of a table, to the end of the tokens. -/
def Reader.behindName (tokens : List Token) : Except GrammarError (List Definition) := do
  let tokens ← symbol .openParen tokens
  let (definitions, tokens) ← definitions tokens.length tokens
  let tokens ← symbol .closeParen tokens
  endOfStatement tokens
  return definitions

theorem ofTokens_eq_behindName (tokens : List Token) :
    Statement.ofTokens tokens = do
      let tokens ← keyword "CREATE" tokens
      let tokens ← keyword "TABLE" tokens
      let (guarded, tokens) ← Reader.guard tokens
      let ((keyspace?, table), tokens) ← qualifiedName tokens
      let definitions ← behindName tokens
      return { keyspace?, table, guarded, definitions } := by
  simp only [Statement.ofTokens, behindName, bind_assoc, pure_bind]

/-! ## Two runs -/

section TwoRuns

variable {R : Token → Token → Prop} {α β γ δ : Type}

/-- Two runs go alike: they give what `P` relates, or see a fault at tokens that
are a pair, or both at the end of the tokens. -/
inductive Alike (R : Token → Token → Prop) (P : α → β → Prop) :
    Except GrammarError α → Except GrammarError β → Prop
  | ok {a : α} {b : β} (h : P a b) : Alike R P (.ok a) (.ok b)
  | error {e f : GrammarError} (h : Option.Rel R e.token? f.token?) :
      Alike R P (.error e) (.error f)

/-- What two readers have read is related by `V`, and the tokens that are left
are pairs. -/
def Leaves (R : Token → Token → Prop) (V : α → β → Prop) (x : α × List Token)
    (y : β × List Token) : Prop :=
  V x.1 y.1 ∧ List.Forall₂ R x.2 y.2

theorem Alike.bind {P : α → β → Prop} {Q : γ → δ → Prop} {x : Except GrammarError α}
    {y : Except GrammarError β} {f : α → Except GrammarError γ} {g : β → Except GrammarError δ}
    (h : Alike R P x y) (hfg : ∀ a b, P a b → Alike R Q (f a) (g b)) :
    Alike R Q (x >>= f) (y >>= g) := by
  cases h with
  | ok hab => exact hfg _ _ hab
  | error hef => exact .error hef

theorem Alike.exists_ok {P : α → β → Prop} {a : α} {y : Except GrammarError β}
    (h : Alike R P (.ok a) y) : ∃ b, y = .ok b ∧ P a b := by
  cases h with
  | ok hab => exact ⟨_, rfl, hab⟩

/-- The places where two tokens of a pair stand. -/
def SamePlace (R : Token → Token → Prop) (p q : Nat) : Prop :=
  ∃ t u, R t u ∧ p = t.position ∧ q = u.position

/-- The same definition, but for where the name of the column stands. -/
inductive Definition.Alike (R : Token → Token → Prop) : Definition → Definition → Prop
  | column {c : Column} {p q : Nat} {isKey : Bool} (h : SamePlace R p q) :
      Definition.Alike R (.column c p isKey) (.column c q isKey)
  | key {k : PrimaryKey} : Definition.Alike R (.key k) (.key k)

/-- The same statement, but for where the names of columns stand. -/
structure Statement.Alike (R : Token → Token → Prop) (s s' : Statement) : Prop where
  keyspace_eq : s.keyspace? = s'.keyspace?
  table_eq : s.table = s'.table
  guarded_eq : s.guarded = s'.guarded
  definitions : List.Forall₂ (Definition.Alike R) s.definitions s'.definitions

/-- Definitions that are the same but for places declare the same columns. -/
theorem columns_of_alike {ds ds' : List Definition}
    (h : List.Forall₂ (Definition.Alike R) ds ds') :
    ds.filterMap Definition.column? = ds'.filterMap Definition.column? := by
  induction h with
  | nil => rfl
  | cons hd _ ih =>
    rw [List.filterMap_cons, List.filterMap_cons, ih]
    cases hd <;> rfl

/-- They declare the same keys. -/
theorem keys_of_alike {ds ds' : List Definition}
    (h : List.Forall₂ (Definition.Alike R) ds ds') :
    ds.filterMap Definition.key? = ds'.filterMap Definition.key? := by
  induction h with
  | nil => rfl
  | cons hd _ ih =>
    rw [List.filterMap_cons, List.filterMap_cons, ih]
    cases hd with
    | @column c p q isKey => cases isKey <;> rfl
    | key => rfl

/-! ## Words, symbols and names -/

variable (hR : ∀ t u, R t u → t.lexeme.folded = u.lexeme.folded)

theorem sameLexeme_of_lexemes_eq {ts us : List Token} (h : lexemes ts = lexemes us) :
    List.Forall₂ (fun t u => t.lexeme = u.lexeme) ts us := by
  rw [lexemes, lexemes, ← List.forall₂_eq_eq_eq] at h
  exact List.forall₂_map_right_iff.1 (List.forall₂_map_left_iff.1 h)

theorem head?_rel {ts us : List Token} (h : List.Forall₂ R ts us) :
    Option.Rel R ts.head? us.head? := by
  cases h with
  | nil => exact .none
  | cons htu => exact .some htu

theorem tail_rel {ts us : List Token} (h : List.Forall₂ R ts us) :
    List.Forall₂ R ts.tail us.tail := by
  cases h with
  | nil => exact .nil
  | cons _ h => exact h

theorem alike_missing {P : α → β → Prop} (what : Expectation) {ts us : List Token}
    (h : List.Forall₂ R ts us) : Alike R P (missing what ts) (missing what us) :=
  .error (head?_rel h)

/-- Two runs that both go on to the next token, or both miss one, go alike. -/
theorem alike_step (found : Bool) (what : Expectation) {ts us : List Token}
    (h : List.Forall₂ R ts us) :
    Alike R (List.Forall₂ R) (if found then .ok ts.tail else missing what ts)
      (if found then .ok us.tail else missing what us) := by
  cases found with
  | true => exact .ok (tail_rel h)
  | false => exact alike_missing what h

/-- What is no bare word is no type. -/
theorem type_of_not_word {bound : Nat} {t : Token} {rest : List Token}
    (ht : ∀ cs, t.lexeme ≠ .word cs) : type bound (t :: rest) = missing .type (t :: rest) := by
  rw [type.eq_def]
  dsimp only
  split
  · next hword => exact absurd hword (ht _)
  · rfl

include hR

theorem isKeyword_eq (k : String) {t u : Token} (h : R t u) :
    t.lexeme.isKeyword k = u.lexeme.isKeyword k := by
  rw [← Lexeme.isKeyword_folded, hR t u h, Lexeme.isKeyword_folded]

theorem isSymbol_eq (s : Symbol) {t u : Token} (h : R t u) :
    t.lexeme.isSymbol s = u.lexeme.isSymbol s := by
  rw [← Lexeme.isSymbol_folded, hR t u h, Lexeme.isSymbol_folded]

theorem name?_eq {t u : Token} (h : R t u) : t.lexeme.name? = u.lexeme.name? := by
  rw [← Lexeme.name?_folded, hR t u h, Lexeme.name?_folded]

theorem startsWithKeyword_eq (k : String) {ts us : List Token} (h : List.Forall₂ R ts us) :
    startsWithKeyword k ts = startsWithKeyword k us := by
  cases h with
  | nil => rfl
  | cons htu => exact isKeyword_eq hR k htu

theorem startsWithSymbol_eq (s : Symbol) {ts us : List Token} (h : List.Forall₂ R ts us) :
    startsWithSymbol s ts = startsWithSymbol s us := by
  cases h with
  | nil => rfl
  | cons htu => exact isSymbol_eq hR s htu

theorem alike_keyword (k : String) {ts us : List Token} (h : List.Forall₂ R ts us) :
    Alike R (List.Forall₂ R) (keyword k ts) (keyword k us) := by
  rw [keyword, keyword, startsWithKeyword_eq hR k h]
  exact alike_step _ _ h

theorem alike_symbol (s : Symbol) {ts us : List Token} (h : List.Forall₂ R ts us) :
    Alike R (List.Forall₂ R) (symbol s ts) (symbol s us) := by
  rw [symbol, symbol, startsWithSymbol_eq hR s h]
  exact alike_step _ _ h

theorem alike_name (what : Expectation) {ts us : List Token} (h : List.Forall₂ R ts us) :
    Alike R (Leaves R Eq) (name what ts) (name what us) := by
  cases h with
  | nil => exact alike_missing what .nil
  | @cons t u ts us htu h =>
    rw [name, name, name?_eq hR htu]
    cases u.lexeme.name? with
    | none => exact alike_missing what (.cons htu h)
    | some n => exact .ok ⟨rfl, h⟩

theorem alike_furtherNames (what : Expectation) {ts us : List Token} (h : List.Forall₂ R ts us) :
    Alike R (Leaves R Eq) (furtherNames what ts) (furtherNames what us) := by
  fun_induction furtherNames what ts generalizing us with
  | case1 =>
    cases h
    exact .ok ⟨rfl, .nil⟩
  | case2 t hcomma =>
    -- a comma at the end
    cases h with
    | cons htu h =>
      cases h
      rw [isSymbol_eq hR .comma htu] at hcomma
      rw [furtherNames, if_pos hcomma]
      exact alike_missing what .nil
  | case3 t hcomma t' ts hname =>
    -- a comma without a name behind it
    cases h with
    | cons htu h =>
      cases h with
      | @cons _ u' _ us htu' h =>
        rw [isSymbol_eq hR .comma htu] at hcomma
        rw [name?_eq hR htu'] at hname
        rw [furtherNames, if_pos hcomma]
        simp only [hname]
        exact alike_missing what (.cons htu' h)
  | case4 t hcomma t' ts n hname ih =>
    cases h with
    | cons htu h =>
      cases h with
      | @cons _ u' _ us htu' h =>
        rw [isSymbol_eq hR .comma htu] at hcomma
        rw [name?_eq hR htu'] at hname
        rw [furtherNames, if_pos hcomma]
        simp only [hname]
        refine (ih h).bind ?_
        rintro ⟨ns, ts⟩ ⟨_, us⟩ ⟨rfl, h⟩
        exact .ok ⟨rfl, h⟩
  | case5 t ts hcomma =>
    cases h with
    | @cons _ u _ us htu h =>
      rw [isSymbol_eq hR .comma htu] at hcomma
      rw [furtherNames.eq_def]
      simp only [hcomma]
      exact .ok ⟨rfl, .cons htu h⟩

/-! ## Types -/

/-- Of two tokens of a pair either both are bare words, of the same letters up
to case, or none is. -/
theorem words_or_none {t u : Token} (h : R t u) :
    (∃ cs ds, t.lexeme = .word cs ∧ u.lexeme = .word ds ∧ foldCase cs = foldCase ds) ∨
      ∀ cs, t.lexeme ≠ .word cs ∧ u.lexeme ≠ .word cs := by
  have hfolded := hR t u h
  cases ht : t.lexeme with
  | word cs =>
    cases hu : u.lexeme with
    | word ds =>
      rw [ht, hu] at hfolded
      exact .inl ⟨cs, ds, rfl, rfl, Lexeme.word.inj hfolded⟩
    | quoted | symbol =>
      rw [ht, hu] at hfolded
      cases hfolded
  | quoted | symbol =>
    refine .inr fun ds => ⟨nofun, fun hu => ?_⟩
    rw [ht, hu] at hfolded
    cases hfolded

theorem alike_types (bound : Nat) :
    (∀ {ts us : List Token}, List.Forall₂ R ts us →
      Alike R (Leaves R Eq) (type bound ts) (type bound us)) ∧
    (∀ {ts us : List Token}, List.Forall₂ R ts us →
      Alike R (Leaves R Eq) (furtherTypes bound ts) (furtherTypes bound us)) := by
  induction bound with
  | zero =>
    constructor
    · intro ts us h
      cases h with
      | nil => exact alike_missing .type .nil
      | cons htu h => simpa only [type] using alike_missing .type (.cons htu h)
    · intro ts us h
      cases h with
      | nil => exact .ok ⟨rfl, .nil⟩
      | cons htu h => exact .ok ⟨rfl, .cons htu h⟩
  | succ bound ih =>
    -- both halves at once, since a constructor reads its arguments with the bound below
    obtain ⟨ihType, ihFurther⟩ := ih
    constructor
    · intro ts us h
      cases h with
      | nil => exact alike_missing .type .nil
      | @cons t u ts us htu h =>
        rcases words_or_none hR htu with ⟨cs, ds, ht, hu, hfold⟩ | hnone
        · rw [type.eq_def, type.eq_def]
          simp only [ht, hu, hfold]
          split
          · -- a scalar, at fault only for what follows it
            rw [startsWithSymbol_eq hR .openAngle h]
            split
            · exact .error (head?_rel h)
            · exact .ok ⟨rfl, h⟩
          · exact .error (.some htu)
          · next c hs hc =>
            refine (alike_symbol hR .openAngle h).bind fun ts us h => ?_
            refine (ihType h).bind ?_
            rintro ⟨first, ts⟩ ⟨_, us⟩ ⟨rfl, h⟩
            refine (ihFurther h).bind ?_
            rintro ⟨more, ts⟩ ⟨_, us⟩ ⟨rfl, h⟩
            refine (alike_symbol hR .closeAngle h).bind fun ts us h => ?_
            dsimp only
            split
            · exact .ok ⟨rfl, h⟩
            · exact .error (.some htu)
        · have ht : ∀ cs, t.lexeme ≠ .word cs := fun cs => (hnone cs).1
          have hu : ∀ cs, u.lexeme ≠ .word cs := fun cs => (hnone cs).2
          rw [type_of_not_word ht, type_of_not_word hu]
          exact alike_missing .type (.cons htu h)
    · intro ts us h
      cases h with
      | nil => exact .ok ⟨rfl, .nil⟩
      | cons htu h =>
        rw [furtherTypes, furtherTypes, isSymbol_eq hR .comma htu]
        split
        · refine (ihType h).bind ?_
          rintro ⟨first, ts⟩ ⟨_, us⟩ ⟨rfl, h⟩
          refine (ihFurther h).bind ?_
          rintro ⟨more, ts⟩ ⟨_, us⟩ ⟨rfl, h⟩
          exact .ok ⟨rfl, h⟩
        · exact .ok ⟨rfl, .cons htu h⟩

/-! ## Definitions -/

theorem alike_keyColumns {ts us : List Token} (h : List.Forall₂ R ts us) :
    Alike R (Leaves R Eq) (keyColumns ts) (keyColumns us) := by
  refine (alike_symbol hR .openParen h).bind fun ts us h => ?_
  rw [startsWithSymbol_eq hR .openParen h]
  split
  · refine (alike_name hR .partitionColumn (tail_rel h)).bind ?_
    rintro ⟨first, ts⟩ ⟨_, us⟩ ⟨rfl, h⟩
    refine (alike_furtherNames hR .partitionColumn h).bind ?_
    rintro ⟨more, ts⟩ ⟨_, us⟩ ⟨rfl, h⟩
    refine (alike_symbol hR .closeParen h).bind fun ts us h => ?_
    refine (alike_furtherNames hR .clusteringColumn h).bind ?_
    rintro ⟨clustering, ts⟩ ⟨_, us⟩ ⟨rfl, h⟩
    refine (alike_symbol hR .closeParen h).bind fun ts us h => ?_
    exact .ok ⟨rfl, h⟩
  · refine (alike_name hR .partitionColumn h).bind ?_
    rintro ⟨first, ts⟩ ⟨_, us⟩ ⟨rfl, h⟩
    refine (alike_furtherNames hR .clusteringColumn h).bind ?_
    rintro ⟨clustering, ts⟩ ⟨_, us⟩ ⟨rfl, h⟩
    refine (alike_symbol hR .closeParen h).bind fun ts us h => ?_
    exact .ok ⟨rfl, h⟩

theorem alike_columnDefinition {ts us : List Token} (h : List.Forall₂ R ts us) :
    Alike R (Leaves R (Definition.Alike R)) (columnDefinition ts) (columnDefinition us) := by
  cases h with
  | nil => exact alike_missing .columnName .nil
  | @cons t u ts us htu h =>
    -- the name is the first token, and that is where the column stands
    have hplace : SamePlace R t.position u.position := ⟨t, u, htu, rfl, rfl⟩
    refine (alike_name hR .columnName (.cons htu h)).bind ?_
    rintro ⟨n, ts⟩ ⟨_, us⟩ ⟨rfl, h⟩
    dsimp only
    rw [h.length_eq]
    refine ((alike_types hR us.length).1 h).bind ?_
    rintro ⟨ty, ts⟩ ⟨_, us⟩ ⟨rfl, h⟩
    dsimp only
    rw [startsWithKeyword_eq hR "PRIMARY" h]
    split
    · refine (alike_keyword hR "KEY" (tail_rel h)).bind fun ts us h => ?_
      exact .ok ⟨.column hplace, h⟩
    · exact .ok ⟨.column hplace, h⟩

theorem alike_definition {ts us : List Token} (h : List.Forall₂ R ts us) :
    Alike R (Leaves R (Definition.Alike R)) (definition ts) (definition us) := by
  unfold definition
  rw [startsWithKeyword_eq hR "PRIMARY" h, startsWithKeyword_eq hR "KEY" (tail_rel h)]
  split
  · refine (alike_keyColumns hR (tail_rel (tail_rel h))).bind ?_
    rintro ⟨key, ts⟩ ⟨_, us⟩ ⟨rfl, h⟩
    exact .ok ⟨.key, h⟩
  · exact alike_columnDefinition hR h

theorem alike_definitions (bound : Nat) {ts us : List Token} (h : List.Forall₂ R ts us) :
    Alike R (Leaves R (List.Forall₂ (Definition.Alike R))) (definitions bound ts)
      (definitions bound us) := by
  induction bound generalizing ts us with
  | zero =>
    refine (alike_definition hR h).bind ?_
    rintro ⟨d, ts⟩ ⟨d', us⟩ ⟨hd, h⟩
    exact .ok ⟨.cons hd .nil, h⟩
  | succ bound ih =>
    refine (alike_definition hR h).bind ?_
    rintro ⟨d, ts⟩ ⟨d', us⟩ ⟨hd, h⟩
    dsimp only
    rw [startsWithSymbol_eq hR .comma h]
    split
    · refine (ih (tail_rel h)).bind ?_
      rintro ⟨more, ts⟩ ⟨more', us⟩ ⟨hmore, h⟩
      exact .ok ⟨.cons hd hmore, h⟩
    · exact .ok ⟨.cons hd .nil, h⟩

/-! ## Statements -/

theorem alike_guard {ts us : List Token} (h : List.Forall₂ R ts us) :
    Alike R (Leaves R Eq) (Reader.guard ts) (Reader.guard us) := by
  unfold Reader.guard
  rw [startsWithKeyword_eq hR "IF" h]
  split
  · refine (alike_keyword hR "NOT" (tail_rel h)).bind fun ts us h => ?_
    refine (alike_keyword hR "EXISTS" h).bind fun ts us h => ?_
    exact .ok ⟨rfl, h⟩
  · exact .ok ⟨rfl, h⟩

theorem alike_qualifiedName {ts us : List Token} (h : List.Forall₂ R ts us) :
    Alike R (Leaves R Eq) (qualifiedName ts) (qualifiedName us) := by
  refine (alike_name hR .tableName h).bind ?_
  rintro ⟨first, ts⟩ ⟨_, us⟩ ⟨rfl, h⟩
  dsimp only
  rw [startsWithSymbol_eq hR .dot h]
  split
  · refine (alike_name hR .tableName (tail_rel h)).bind ?_
    rintro ⟨second, ts⟩ ⟨_, us⟩ ⟨rfl, h⟩
    exact .ok ⟨rfl, h⟩
  · exact .ok ⟨rfl, h⟩

theorem alike_endOfStatement {ts us : List Token} (h : List.Forall₂ R ts us) :
    Alike R Eq (endOfStatement ts) (endOfStatement us) := by
  unfold endOfStatement
  rw [startsWithKeyword_eq hR "WITH" h, startsWithSymbol_eq hR .semicolon h]
  split
  · exact .error (head?_rel h)
  · -- with or without a semicolon, nothing may be left
    have hend {ts us : List Token} (h : List.Forall₂ R ts us) :
        Alike R Eq (if ts.isEmpty then .ok () else missing .endOfStatement ts)
          (if us.isEmpty then .ok () else missing .endOfStatement us) := by
      cases h with
      | nil => exact .ok rfl
      | cons htu h => exact alike_missing .endOfStatement (.cons htu h)
    split
    · exact hend (tail_rel h)
    · exact hend h

theorem alike_behindName {ts us : List Token} (h : List.Forall₂ R ts us) :
    Alike R (List.Forall₂ (Definition.Alike R)) (behindName ts) (behindName us) := by
  refine (alike_symbol hR .openParen h).bind fun ts us h => ?_
  rw [h.length_eq]
  refine (alike_definitions hR us.length h).bind ?_
  rintro ⟨ds, ts⟩ ⟨ds', us⟩ ⟨hds, h⟩
  refine (alike_symbol hR .closeParen h).bind fun ts us h => ?_
  refine (alike_endOfStatement hR h).bind fun _ _ _ => ?_
  exact .ok hds

/-- Tokens that say the same pairwise are the same statement, or are no
statement for what is seen at a pair. -/
theorem alike_ofTokens {ts us : List Token} (h : List.Forall₂ R ts us) :
    Alike R (Statement.Alike R) (Statement.ofTokens ts) (Statement.ofTokens us) := by
  rw [ofTokens_eq_behindName, ofTokens_eq_behindName]
  refine (alike_keyword hR "CREATE" h).bind fun ts us h => ?_
  refine (alike_keyword hR "TABLE" h).bind fun ts us h => ?_
  refine (alike_guard hR h).bind ?_
  rintro ⟨guarded, ts⟩ ⟨_, us⟩ ⟨rfl, h⟩
  refine (alike_qualifiedName hR h).bind ?_
  rintro ⟨⟨keyspace?, table⟩, ts⟩ ⟨_, us⟩ ⟨rfl, h⟩
  refine (alike_behindName hR h).bind fun ds ds' hds => ?_
  exact .ok ⟨rfl, rfl, rfl, hds⟩

end TwoRuns

end AuthKeyspace.Cql
