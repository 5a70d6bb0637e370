import AuthKeyspace.Proofs.Cql.Alike
import AuthKeyspace.Proofs.Table.Building

/-!
# Templates under another name

A template that opens with CREATE TABLE, perhaps the guard, the place for the
name and a parenthesis (`Declaration.Opens`) is parametric in the name. If it
can be built under one name it can under any other, and the two tables differ
in the name only (`exists_build_renamed`). A name is one word, and behind the
opening any word is a name, keywords and types among them. The tokens behind
the name say the same under every name and only stand elsewhere, so there two
runs of the readers go alike.

There is one exception. Without a guard the name stands where the word IF
commits a statement to a guard, so under the name `if` such a template is not
read (`exists_error_renamed_if`).
-/

namespace AuthKeyspace

open AuthKeyspace.Cql

namespace Cql

open Reader AuthKeyspace.Text

/-! ## Words in a row -/

/-- Words with a blank behind each. -/
def spaced (words : List (List Char)) : List Char := words.flatMap (· ++ [' '])

/-- The tokens of words with a blank behind each, the first standing at
`position`. -/
def wordTokens : Nat → List (List Char) → List Token
  | _, [] => []
  | position, w :: words => ⟨.word w, position⟩ :: wordTokens (position + w.length + 1) words

/-- Words with blanks are so many tokens, and what is behind them is cut by
itself. -/
theorem scan_spaced_eq_ok_iff {words : List (List Char)} (hwords : ∀ w ∈ words, isWord w = true)
    {position : Nat} {rest : List Char} {tokens : List Token} :
    scan position 0 (spaced words ++ rest) = .ok tokens ↔
      ∃ more, scan (position + (spaced words).length) 0 rest = .ok more ∧
        tokens = wordTokens position words ++ more := by
  induction words generalizing position tokens with
  | nil => simp [spaced, wordTokens, eq_comm]
  | cons w words ih =>
    obtain ⟨hw, hmore⟩ := List.forall_mem_cons.1 hwords
    have hsplit : spaced (w :: words) ++ rest = w ++ ' ' :: (spaced words ++ rest) := by
      simp [spaced]
    have hlength : position + (spaced (w :: words)).length =
        position + w.length + 1 + (spaced words).length := by
      simp [spaced]
      omega
    have hblank (p : Nat) : scan p 0 (' ' :: (spaced words ++ rest)) =
        scan (p + 1) 0 (spaced words ++ rest) := by
      rw [scan, if_pos (by decide)]
    have hword : scan position 0 (w ++ ' ' :: (spaced words ++ rest)) = _ :=
      scan_lexeme (.word hw (apart_cons _)) position
    rw [hsplit, hword, hblank, map_eq_ok_iff, hlength]
    simp only [ih hmore, wordTokens]
    constructor
    · rintro ⟨_, ⟨more, hscan, rfl⟩, rfl⟩
      exact ⟨more, hscan, rfl⟩
    · rintro ⟨more, hscan, rfl⟩
      exact ⟨_, ⟨more, hscan, rfl⟩, rfl⟩

/-! ## The opening of a statement -/

/-- The words before the name of a table. -/
def openingWords (guarded : Bool) : List (List Char) :=
  "CREATE".toList :: "TABLE".toList ::
    if guarded then ["IF".toList, "NOT".toList, "EXISTS".toList] else []

/-- The tokens of an opening and the name behind it. -/
def headTokens (guarded : Bool) (name : List Char) : List Token :=
  wordTokens 0 (openingWords guarded ++ [name])

theorem exists_headTokens (guarded : Bool) (name : List Char) :
    ∃ create table gs w, headTokens guarded name = create :: table :: (gs ++ [w]) ∧
      KeywordForm "CREATE" create.lexeme ∧ KeywordForm "TABLE" table.lexeme ∧
        GuardForm gs guarded ∧ w.lexeme = .word name := by
  cases guarded with
  | false => exact ⟨_, _, [], _, rfl, .word rfl, .word rfl, .absent, rfl⟩
  | true =>
    exact ⟨_, _, [_, _, _], _, rfl, .word rfl, .word rfl,
      .present (.word rfl) (.word rfl) (.word rfl), rfl⟩

/-- Behind an opening every word is a name, unless it is taken for a guard. -/
theorem ofTokens_named {guarded : Bool} {n : String} (hbare : isBare n.toList = true)
    (hif : guarded = false → n ≠ "if") {tokens : List Token}
    (hdot : startsWithSymbol .dot tokens = false) :
    Statement.ofTokens (headTokens guarded n.toList ++ tokens) = do
      let definitions ← behindName tokens
      return { keyspace? := none, table := n, guarded, definitions } := by
  obtain ⟨create, table, gs, w, hhead, hcreate, htable, hguard, hw⟩ :=
    exists_headTokens guarded n.toList
  have hlexeme : w.lexeme = nameLexeme n.toList := by rw [hw, nameLexeme, if_pos hbare]
  have hname : NameForm w.lexeme n := by
    rw [hlexeme]
    exact nameForm_nameLexeme n
  have hnoGuard : guarded = false → startsWithKeyword "IF" (w :: tokens) = false := by
    refine fun hunguarded => Bool.eq_false_iff.2 fun hkeyword => ?_
    have hform : KeywordForm "IF" w.lexeme := isKeyword_iff.1 hkeyword
    rw [hlexeme] at hform
    exact hif hunguarded (eq_if_of_keywordForm hform)
  have hqualified : qualifiedName (w :: tokens) = .ok ((none, n), tokens) :=
    qualifiedName_complete (.plain hname) hdot
  simp only [ofTokens_eq_behindName, hhead, List.cons_append, List.append_assoc, List.nil_append,
    keyword_cons hcreate, keyword_cons htable, guard_complete hguard hnoGuard, hqualified, ok_bind]

/-- Without a guard, the word IF behind an opening is the beginning of one. -/
theorem ofTokens_if (q : Nat) (tokens : List Token) :
    Statement.ofTokens
        (headTokens false "if".toList ++ ⟨.symbol .openParen, q⟩ :: tokens) =
      .error ⟨.expected (.keyword "NOT"), some ⟨.symbol .openParen, q⟩⟩ := rfl

/-! ## Texts that differ in the name -/

/-- The text is an opening, a name and a parenthesis with `behind` after it. -/
def Named (guarded : Bool) (n : String) (behind : List Char) (text : String) : Prop :=
  text.toList = spaced (openingWords guarded ++ [n.toList]) ++ '(' :: behind

variable {guarded : Bool} {n n' keyspace keyspace' text text' : String} {behind : List Char}

theorem Named.allBlank (h : Named guarded n behind text) : allBlank text.toList = false := by
  rw [h]
  rfl

/-- Whatever name stands behind an opening, it is one token. -/
theorem Named.tokenize_eq_ok_iff (h : Named guarded n behind text)
    (hn : isBare n.toList = true) {tokens : List Token} :
    tokenize text.toList = .ok tokens ↔ ∃ p more, scan (p + 1) 0 behind = .ok more ∧
      tokens = headTokens guarded n.toList ++ ⟨.symbol .openParen, p⟩ :: more ∧
        p = (spaced (openingWords guarded ++ [n.toList])).length := by
  obtain ⟨hword, -⟩ := isBare_iff.1 hn
  have hwords : ∀ w ∈ openingWords guarded ++ [n.toList], isWord w = true := by
    have hopening : ∀ w ∈ openingWords guarded, isWord w = true := by
      cases guarded <;> decide
    intro w hw
    rcases List.mem_append.1 hw with hw | hw
    · exact hopening w hw
    · rwa [List.mem_singleton.1 hw]
  have hopen (p : Nat) : scan p 0 ('(' :: behind) =
      (scan (p + 1) 0 behind).map (⟨.symbol .openParen, p⟩ :: ·) :=
    scan_lexeme (.symbol .openParen behind) p
  rw [h, tokenize, scan_spaced_eq_ok_iff hwords, Nat.zero_add]
  simp only [hopen, map_eq_ok_iff]
  constructor
  · rintro ⟨_, ⟨more, hscan, rfl⟩, rfl⟩
    exact ⟨_, more, hscan, rfl, rfl⟩
  · rintro ⟨p, more, hscan, rfl, rfl⟩
    exact ⟨_, ⟨more, hscan, rfl⟩, rfl⟩

/-- A text without a guard declares no table called `if`. -/
theorem Named.error_of_if (h : Named false "if" behind text) (keyspace : String) :
    ∃ e, Structure.ofText keyspace text = .error e := by
  cases hread : Structure.ofText keyspace text with
  | error e => exact ⟨e, rfl⟩
  | ok s =>
    obtain ⟨-, tokens, statement, -, htokens, hstatement, -, -⟩ := ofText_eq_ok_iff.1 hread
    obtain ⟨p, more, -, rfl, -⟩ := (h.tokenize_eq_ok_iff (by decide)).1 htokens
    rw [ofTokens_if] at hstatement
    cases hstatement

/-- What is read behind a name is read, with the same columns and keys, where
another name puts it. -/
theorem exists_behindName_moved {p : Nat} {more : List Token} {ds : List Definition}
    (hscan : scan (p + 1) 0 behind = .ok more)
    (hds : behindName (⟨.symbol .openParen, p⟩ :: more) = .ok ds) (q : Nat) :
    ∃ more' ds', scan (q + 1) 0 behind = .ok more' ∧
      behindName (⟨.symbol .openParen, q⟩ :: more') = .ok ds' ∧
        ds'.filterMap Definition.column? = ds.filterMap Definition.column? ∧
          ds'.filterMap Definition.key? = ds.filterMap Definition.key? := by
  obtain ⟨more', hscan', hlexemes⟩ := lexes_of_scan hscan (q + 1)
  have hpairs : List.Forall₂ (fun t u => t.lexeme = u.lexeme) (⟨.symbol .openParen, p⟩ :: more)
      (⟨.symbol .openParen, q⟩ :: more') := .cons rfl (sameLexeme_of_lexemes_eq hlexemes.symm)
  have halike := alike_behindName (fun _ _ h => congrArg Lexeme.folded h) hpairs
  rw [hds] at halike
  obtain ⟨ds', hds', hsame⟩ := halike.exists_ok
  exact ⟨more', ds', hscan', hds', (columns_of_alike hsame).symm, (keys_of_alike hsame).symm⟩

/-- The table that a text declares is declared under another name by the text
with that name, in any keyspace. -/
theorem Named.ofText_renamed (h : Named guarded n behind text)
    (h' : Named guarded n' behind text') (hn : isBare n.toList = true)
    (hn' : isBare n'.toList = true) (hif' : guarded = false → n' ≠ "if") {s : Structure}
    (hs : Structure.ofText keyspace text = .ok s) :
    Structure.ofText keyspace' text' = .ok { s with keyspace := keyspace', name := n' } := by
  have hif : guarded = false → n ≠ "if" := by
    rintro rfl rfl
    obtain ⟨e, he⟩ := h.error_of_if keyspace
    rw [he] at hs
    cases hs
  obtain ⟨-, tokens, statement, key, htokens, hread, hadmissible, rfl⟩ := ofText_eq_ok_iff.1 hs
  obtain ⟨p, more, hscan, rfl, -⟩ := (h.tokenize_eq_ok_iff hn).1 htokens
  rw [ofTokens_named hn hif rfl] at hread
  obtain ⟨ds, hds, hret⟩ := bind_eq_ok_iff.1 hread
  cases hret
  -- the same with the other name, and what is behind it at its place `q`
  obtain ⟨q, hq⟩ : ∃ q, q = (spaced (openingWords guarded ++ [n'.toList])).length := ⟨_, rfl⟩
  obtain ⟨more', ds', hscan', hds', hcolumns, hkeys⟩ := exists_behindName_moved hscan hds q
  have htokens' := (h'.tokenize_eq_ok_iff hn').2 ⟨q, more', hscan', rfl, hq⟩
  have hread' : Statement.ofTokens
      (headTokens guarded n'.toList ++ ⟨.symbol .openParen, q⟩ :: more') = _ :=
    ofTokens_named hn' hif' rfl
  rw [hds', ok_bind] at hread'
  have hadmissible' : Admissible keyspace' ⟨none, n', guarded, ds'⟩ key :=
    hadmissible.congr nofun hcolumns hkeys
  rw [ofText_eq_ok_iff.2 ⟨h'.allBlank, _, _, key, htokens', hread', hadmissible', rfl⟩]
  simp only [Statement.structure, Statement.columns, hcolumns]

end Cql

/-! ## Declarations that differ in the name -/

namespace Table

variable {d : Declaration} {guarded : Bool} {name keyspace : String}

/-- The text of a declaration is an opening with the place for the name and a
parenthesis behind it. -/
def Declaration.Opens (d : Declaration) (guarded : Bool) : Prop :=
  spaced (openingWords guarded) ++ "%s (".toList <+: d.schemaText.toList

/-- The same text under another name. -/
def Declaration.renamed (d : Declaration) (name description : String) : Declaration :=
  { name, description, schemaText := d.schemaText }

theorem fillChars_opening (guarded : Bool) (name rest : List Char) :
    fillChars name (spaced (openingWords guarded) ++ '%' :: 's' :: rest) =
      spaced (openingWords guarded) ++ (name ++ rest) := by
  cases guarded <;> rfl

theorem Declaration.Opens.exists_named (h : d.Opens guarded) :
    ∃ behind, ∀ n, Named guarded n behind (fill d.schemaText n) := by
  obtain ⟨behind, hbehind⟩ := h
  refine ⟨behind, fun n => ?_⟩
  have hplace : spaced (openingWords guarded) ++ "%s (".toList ++ behind =
      spaced (openingWords guarded) ++ '%' :: 's' :: (' ' :: '(' :: behind) := by
    rw [List.append_assoc]
    rfl
  rw [Named, fill, String.toList_ofList, ← hbehind, hplace, fillChars_opening]
  simp [spaced]

theorem Declaration.Opens.allBlank (h : d.Opens guarded) :
    Text.allBlank d.schemaText.toList = false := by
  obtain ⟨behind, hbehind⟩ := h
  rw [← hbehind]
  rfl

namespace Descriptor

/-- A template that can be built under its own name can be built under any
other, with the same columns, the same key and the same guard. -/
theorem exists_build_renamed (hopens : d.Opens guarded) {t : Descriptor}
    (h : build keyspace d = .ok t) (hname : tableNameFault? name = none)
    (hif : guarded = false → name ≠ "if") (keyspace' description : String) :
    ∃ u, build keyspace' (d.renamed name description) = .ok u ∧
      u.layout = { t.layout with keyspace := keyspace', name } := by
  obtain ⟨hown, hblank, s, hs, -, rfl⟩ := build_eq_ok_iff.1 h
  obtain ⟨behind, hnamed⟩ := hopens.exists_named
  obtain ⟨hbare, -⟩ := tableNameFault?_eq_none_iff.1 hown
  obtain ⟨hbare', -⟩ := tableNameFault?_eq_none_iff.1 hname
  have hs' : Structure.ofText keyspace' (fill d.schemaText name) = _ :=
    (hnamed d.name).ofText_renamed (hnamed name) hbare hbare' hif hs
  exact ⟨_, build_eq_ok_iff.2 ⟨hname, hblank, _, hs', rfl, rfl⟩, rfl⟩

/-- A template without a guard is not read under the name `if`. -/
theorem exists_error_renamed_if (hopens : d.Opens false) (keyspace description : String) :
    ∃ e, build keyspace (d.renamed "if" description) = .error (.unreadable "if" e) := by
  obtain ⟨behind, hnamed⟩ := hopens.exists_named
  obtain ⟨e, he⟩ := (hnamed "if").error_of_if keyspace
  refine ⟨e, ?_⟩
  have hname : tableNameFault? "if" = none := by decide
  simp only [build, Declaration.renamed, hname, hopens.allBlank, he]
  rfl

end Descriptor

end Table

end AuthKeyspace
