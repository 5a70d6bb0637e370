import AuthKeyspace.Proofs.Cql.Alike
import AuthKeyspace.Proofs.Cql.Declared

/-!
# Only folded tokens count

Two texts agree if their items do, one by one: each is of the same kind and says
the same, a word up to the case of its letters (`Item.Agrees`). Texts that agree
declare the same table or are both refused, and if they are refused for
something that is seen at a place, the item there has the same index in both
texts (`ofText_folded`). So a statement may be spaced out and its words may be
written in any case.

The runs are compared by the lemmas of `Proofs/Cql/Alike`, where two tokens are
a pair if they agree and have the same index.
-/

namespace AuthKeyspace.Cql

/-! ## Items that agree -/

/-- Two items are of the same kind and say the same, words up to the case of
their letters. -/
inductive Item.Agrees : Item → Item → Prop
  | word {cs ds : List Char} {p q : Nat} (h : foldCase cs = foldCase ds) :
      Item.Agrees (.token ⟨.word cs, p⟩) (.token ⟨.word ds, q⟩)
  | quoted {name : List Char} {p q : Nat} :
      Item.Agrees (.token ⟨.quoted name, p⟩) (.token ⟨.quoted name, q⟩)
  | symbol {s : Symbol} {p q : Nat} :
      Item.Agrees (.token ⟨.symbol s, p⟩) (.token ⟨.symbol s, q⟩)
  | textEnd {p q : Nat} : Item.Agrees (.textEnd p) (.textEnd q)

theorem Item.Agrees.folded_eq {t u : Token} (h : Item.Agrees (.token t) (.token u)) :
    t.lexeme.folded = u.lexeme.folded := by
  cases h with
  | word h => exact congrArg Lexeme.word h
  | quoted | symbol => rfl

/-- The places where items of the same index stand. -/
def SameIndex (found found' : List Item) (p q : Nat) : Prop :=
  ∃ (i : Nat) (a a' : Item),
    found[i]? = some a ∧ found'[i]? = some a' ∧ p = a.position ∧ q = a'.position

/-- Two tokens that agree and have the same index. -/
def Corresponds (found found' : List Item) (t u : Token) : Prop :=
  Item.Agrees (.token t) (.token u) ∧
    ∃ i : Nat, found[i]? = some (.token t) ∧ found'[i]? = some (.token u)

theorem sameIndex_of_corresponds {found found' : List Item} {p q : Nat}
    (h : SamePlace (Corresponds found found') p q) : SameIndex found found' p q := by
  obtain ⟨t, u, ⟨-, i, ht, hu⟩, rfl, rfl⟩ := h
  exact ⟨i, _, _, ht, hu, rfl, rfl⟩

/-- Items that agree have the end of the text at the same index, and before it
tokens that correspond. -/
theorem corresponds_of_agrees {tokens tokens' : List Token} {p q : Nat}
    (h : List.Forall₂ Item.Agrees (tokens.map .token ++ [.textEnd p])
      (tokens'.map .token ++ [.textEnd q])) :
    List.Forall₂ (Corresponds (tokens.map .token ++ [.textEnd p])
        (tokens'.map .token ++ [.textEnd q])) tokens tokens' ∧
      SameIndex (tokens.map .token ++ [.textEnd p]) (tokens'.map .token ++ [.textEnd q]) p q := by
  obtain ⟨hlength, hagrees⟩ := List.forall₂_iff_get.1 h
  have hlen : tokens.length = tokens'.length := by simpa using hlength
  constructor
  · refine List.forall₂_iff_get.2 ⟨hlen, fun i hi hi' => ⟨?_, i, ?_, ?_⟩⟩
    · have hat := hagrees i (by simp; omega) (by simp; omega)
      simpa [List.getElem_append_left, hi, hi'] using hat
    · simp [List.getElem?_append_left, hi]
    · simp [List.getElem?_append_left, hi']
  · refine ⟨tokens.length, .textEnd p, .textEnd q, ?_, ?_, rfl, rfl⟩
    · simp
    · simp [hlen]

/-! ## Statements that go alike -/

/-- The same table, or two errors whose places are related by `P`, if they have
places. -/
def SameOutcome (P : Nat → Nat → Prop) (x y : Except ParseError Structure) : Prop :=
  (∃ t, x = .ok t ∧ y = .ok t) ∨
    ∃ e f, x = .error e ∧ y = .error f ∧ Option.Rel P e.position? f.position?

theorem SameOutcome.imp {P Q : Nat → Nat → Prop} {x y : Except ParseError Structure}
    (h : SameOutcome P x y) (hPQ : ∀ p q, P p q → Q p q) : SameOutcome Q x y := by
  rcases h with h | ⟨e, f, he, hf, hplaces⟩
  · exact .inl h
  · refine .inr ⟨e, f, he, hf, ?_⟩
    generalize e.position? = p?, f.position? = q? at hplaces ⊢
    cases hplaces with
    | none => exact .none
    | some h => exact .some (hPQ _ _ h)

/-- The first name that occurs twice is the same, wherever the names stand. -/
theorem firstRepeated?_rel {P : Nat → Nat → Prop} (seen : List String)
    {entries entries' : List (String × Nat)}
    (h : List.Forall₂ (fun x y => x.1 = y.1 ∧ P x.2 y.2) entries entries') :
    Option.Rel (fun x y => x.1 = y.1 ∧ P x.2 y.2) (firstRepeated? seen entries)
      (firstRepeated? seen entries') := by
  induction h generalizing seen with
  | nil => exact .none
  | @cons x y xs ys hxy _ ih =>
    obtain ⟨n, p⟩ := x
    obtain ⟨_, q⟩ := y
    obtain ⟨rfl, hpq⟩ := hxy
    rw [firstRepeated?, firstRepeated?]
    split
    · exact .some ⟨rfl, hpq⟩
    · exact ih _

theorem namePositions_of_alike {R : Token → Token → Prop} {ds ds' : List Definition}
    (h : List.Forall₂ (Definition.Alike R) ds ds') :
    List.Forall₂ (fun x y => x.1 = y.1 ∧ SamePlace R x.2 y.2)
      (ds.filterMap Definition.namePosition?) (ds'.filterMap Definition.namePosition?) := by
  induction h with
  | nil => exact .nil
  | cons hd _ ih =>
    rw [List.filterMap_cons, List.filterMap_cons]
    cases hd with
    | column hplace => exact .cons ⟨rfl, hplace⟩ ih
    | key => exact ih

/-- The checks of definitions do not ask where the names of columns stand; only
the report of a name that occurs twice tells. -/
theorem ofStatement_unqualified_alike {R : Token → Token → Prop} (keyspace table : String)
    (guarded : Bool) {ds ds' : List Definition} (h : List.Forall₂ (Definition.Alike R) ds ds') :
    SameOutcome (SamePlace R) (Structure.ofStatement keyspace ⟨none, table, guarded, ds⟩)
      (Structure.ofStatement keyspace ⟨none, table, guarded, ds'⟩) := by
  have hcolumns : Statement.columns ⟨none, table, guarded, ds⟩ =
      Statement.columns ⟨none, table, guarded, ds'⟩ := columns_of_alike h
  have hkeys : Statement.keys ⟨none, table, guarded, ds⟩ =
      Statement.keys ⟨none, table, guarded, ds'⟩ := keys_of_alike h
  have hrepeated := firstRepeated?_rel [] (namePositions_of_alike h)
  simp only [Structure.ofStatement, hcolumns, hkeys]
  generalize firstRepeated? [] (ds.filterMap Definition.namePosition?) = x at hrepeated ⊢
  generalize firstRepeated? [] (ds'.filterMap Definition.namePosition?) = y at hrepeated ⊢
  cases hrepeated with
  | some hxy => exact .inr ⟨_, _, rfl, rfl, .some hxy.2⟩
  | none =>
    -- from here on nothing is seen at a place
    dsimp only
    split
    · exact .inr ⟨_, _, rfl, rfl, .none⟩
    · split
      · exact .inr ⟨_, _, rfl, rfl, .none⟩
      · exact .inl ⟨_, rfl, rfl⟩

theorem ofStatement_alike {R : Token → Token → Prop} (keyspace : String) {s s' : Statement}
    (h : Statement.Alike R s s') :
    SameOutcome (SamePlace R) (Structure.ofStatement keyspace s)
      (Structure.ofStatement keyspace s') := by
  obtain ⟨keyspace?, table, guarded, ds⟩ := s
  obtain ⟨_, _, _, ds'⟩ := s'
  obtain ⟨rfl, rfl, rfl, hds⟩ := h
  have halike := ofStatement_unqualified_alike keyspace table guarded hds
  cases keyspace? with
  | none => exact halike
  | some declared =>
    by_cases hsame : declared = keyspace
    · subst hsame
      rw [ofStatement_own, ofStatement_own]
      exact halike
    · exact .inr ⟨_, _, ofStatement_foreign hsame _ _ _, ofStatement_foreign hsame _ _ _, .none⟩

/-! ## Texts that agree -/

/-- Only folded tokens count. Two texts that agree declare the same table, or
are refused for what is seen at no place or at items of the same index. Hence
a text that is spaced out or has its words in another case declares the same
table. -/
theorem ofText_folded (keyspace text text' : String) {found found' : List Item}
    (hblank : Text.allBlank text.toList = false) (hblank' : Text.allBlank text'.toList = false)
    (h : items text.toList = .ok found) (h' : items text'.toList = .ok found')
    (hagrees : List.Forall₂ Item.Agrees found found') :
    SameOutcome (SameIndex found found') (Structure.ofText keyspace text)
        (Structure.ofText keyspace text') ∧
      ∀ t, Structure.ofText keyspace text = .ok t ↔ Structure.ofText keyspace text' = .ok t := by
  have hsame : SameOutcome (SameIndex found found') (Structure.ofText keyspace text)
      (Structure.ofText keyspace text') := by
    obtain ⟨tokens, htokens, rfl⟩ := map_eq_ok_iff.1 h
    obtain ⟨tokens', htokens', rfl⟩ := map_eq_ok_iff.1 h'
    obtain ⟨hpairs, hends⟩ := corresponds_of_agrees hagrees
    have halike := alike_ofTokens (fun t u htu => htu.1.folded_eq) hpairs
    rw [ofText_of_tokenize hblank htokens, ofText_of_tokenize hblank' htokens']
    generalize Statement.ofTokens tokens = x, Statement.ofTokens tokens' = y at halike ⊢
    cases halike with
    | ok hstatements =>
      exact (ofStatement_alike keyspace hstatements).imp fun p q => sameIndex_of_corresponds
    | @error e f htokens? =>
      refine .inr ⟨_, _, rfl, rfl, .some ?_⟩
      generalize e.token? = t?, f.token? = u? at htokens? ⊢
      cases htokens? with
      | none => exact hends
      | some htu => exact sameIndex_of_corresponds ⟨_, _, htu, rfl, rfl⟩
  refine ⟨hsame, fun t => ?_⟩
  rcases hsame with ⟨u, hu, hu'⟩ | ⟨e, f, he, hf, -⟩
  · rw [hu, hu']
  · rw [he, hf]
    simp

theorem ofText_folded_capitals :
    Structure.ofText "ks" "CREATE TABLE T (A INT PRIMARY KEY)" =
      .ok ⟨"ks", "t", [⟨"a", .scalar .int⟩], .single "a", false⟩ := by
  have h : items "create table t(a int primary key)".toList = .ok
      [.token ⟨.word "create".toList, 0⟩, .token ⟨.word "table".toList, 7⟩,
        .token ⟨.word "t".toList, 13⟩, .token ⟨.symbol .openParen, 14⟩,
        .token ⟨.word "a".toList, 15⟩, .token ⟨.word "int".toList, 17⟩,
        .token ⟨.word "primary".toList, 21⟩, .token ⟨.word "key".toList, 29⟩,
        .token ⟨.symbol .closeParen, 32⟩, .textEnd 33] := rfl
  have h' : items "CREATE TABLE T (A INT PRIMARY KEY)".toList = .ok
      [.token ⟨.word "CREATE".toList, 0⟩, .token ⟨.word "TABLE".toList, 7⟩,
        .token ⟨.word "T".toList, 13⟩, .token ⟨.symbol .openParen, 15⟩,
        .token ⟨.word "A".toList, 16⟩, .token ⟨.word "INT".toList, 18⟩,
        .token ⟨.word "PRIMARY".toList, 22⟩, .token ⟨.word "KEY".toList, 30⟩,
        .token ⟨.symbol .closeParen, 33⟩, .textEnd 34] := rfl
  have hread : Structure.ofText "ks" "create table t(a int primary key)" =
      .ok ⟨"ks", "t", [⟨"a", .scalar .int⟩], .single "a", false⟩ := rfl
  refine ((ofText_folded "ks" "create table t(a int primary key)"
    "CREATE TABLE T (A INT PRIMARY KEY)" (by decide) (by decide) h h' ?_).2 _).1 hread
  have word {cs ds : List Char} (p q : Nat) (hfold : foldCase cs = foldCase ds := by decide) :
      Item.Agrees (.token ⟨.word cs, p⟩) (.token ⟨.word ds, q⟩) := .word hfold
  exact .cons (word 0 0) <| .cons (word 7 7) <| .cons (word 13 13) <| .cons .symbol <|
    .cons (word 15 16) <| .cons (word 17 18) <| .cons (word 21 22) <| .cons (word 29 30) <|
      .cons .symbol <| .cons .textEnd .nil

end AuthKeyspace.Cql
