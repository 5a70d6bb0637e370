import AuthKeyspace.Cql.Content
import AuthKeyspace.Proofs.Cql.Grammar
import AuthKeyspace.Proofs.Cql.Tokens

/-!
# What the printers write is read token by token

A name, a type or a key is written as a text that `tokenize` cuts into known
lexemes, no matter what stands behind it, as long as that stops the last token.
`Reads cs ls` says so of a text and its lexemes; pieces are put together by
handing the rest from one to the next. The lexemes of a whole statement are
those of `Structure.lexemes` (`tokenize_structure`).

A name is one lexeme, a bare word or a quoted name, whatever is in it
(`reads_quoteName`): its quotes are doubled, so the first quote that is not
ends it.
-/

namespace AuthKeyspace.Cql

open AuthKeyspace.Text

/-! ## Names -/

/-- The lexeme of a name as it is written. -/
def nameLexeme (cs : List Char) : Lexeme := if isBare cs then .word cs else .quoted cs

theorem text_nameLexeme (cs : List Char) : (nameLexeme cs).text = quoteChars cs := by
  unfold nameLexeme quoteChars
  split <;> rfl

theorem text_nameLexeme_quoteName (name : String) :
    (nameLexeme name.toList).text = (quoteName name).toList := by
  rw [text_nameLexeme, quoteName, String.toList_ofList]

theorem whole_nameLexeme (cs : List Char) {rest : List Char} (hrest : Stops rest) :
    Whole (nameLexeme cs) rest := by
  unfold nameLexeme
  split
  · next hbare =>
    obtain ⟨hword, -⟩ := isBare_iff.1 hbare
    exact .word hword hrest.apart_word
  · exact .quoted hrest.apart_quote

theorem nameForm_nameLexeme (n : String) : NameForm (nameLexeme n.toList) n := by
  unfold nameLexeme
  split
  · next hbare =>
    obtain ⟨-, hfold⟩ := isBare_iff.1 hbare
    have hform := NameForm.word n.toList
    rwa [hfold, String.ofList_toList] at hform
  · have hform := NameForm.quoted n.toList
    rwa [String.ofList_toList] at hform

theorem nameLexeme_injective {cs ds : List Char} (h : nameLexeme cs = nameLexeme ds) : cs = ds := by
  unfold nameLexeme at h
  split at h <;> split at h <;>
    first | exact Lexeme.word.inj h | exact Lexeme.quoted.inj h | cases h

/-- A name is written as the word IF only if it is that word in small letters. -/
theorem eq_if_of_keywordForm {n : String} (h : KeywordForm "IF" (nameLexeme n.toList)) :
    n = "if" := by
  unfold nameLexeme at h
  split at h
  · next hbare =>
    obtain ⟨hupper⟩ := h
    obtain ⟨-, hlower⟩ := isBare_iff.1 hbare
    rw [← map_toLower_map_toUpper, hupper] at hlower
    rw [← String.toList_inj, ← hlower]
    decide
  · cases h

/-- A name is written as one lexeme. -/
theorem lexemeAt?_quoteChars (name : List Char) {rest : List Char} (hrest : Stops rest) :
    ∃ c cs, quoteChars name = c :: cs ∧ isBlank c = false ∧
      lexemeAt? c (cs ++ rest) = some (nameLexeme name, cs.length) := by
  rw [← text_nameLexeme]
  exact lexemeAt?_of_whole (whole_nameLexeme name hrest)

/-! ## Texts and their lexemes -/

/-- The text `cs` is cut into the lexemes `ls`, wherever it stands. -/
def Lexes (cs : List Char) (ls : List Lexeme) : Prop :=
  ∀ position, ∃ tokens, scan position 0 cs = .ok tokens ∧ lexemes tokens = ls

theorem Lexes.nil : Lexes [] [] := fun _ => ⟨[], rfl, rfl⟩

theorem Lexes.white {c : Char} {cs : List Char} {ls : List Lexeme} (hc : isBlank c = true)
    (h : Lexes cs ls) : Lexes (c :: cs) ls := by
  intro position
  obtain ⟨tokens, hscan, hls⟩ := h (position + 1)
  refine ⟨tokens, ?_, hls⟩
  rw [scan, if_pos hc, hscan]

theorem Lexes.blank {cs : List Char} {ls : List Lexeme} (h : Lexes cs ls) :
    Lexes (' ' :: cs) ls := h.white (by decide)

theorem Lexes.lexeme {l : Lexeme} {rest : List Char} {ls : List Lexeme} (hl : Whole l rest)
    (h : Lexes rest ls) : Lexes (l.text ++ rest) (l :: ls) := by
  intro position
  obtain ⟨tokens, hscan, hls⟩ := h (position + l.text.length)
  refine ⟨⟨l, position⟩ :: tokens, ?_, by rw [lexemes_cons, hls]⟩
  rw [scan_lexeme hl, hscan]
  rfl

/-- A text that was cut where it stood is cut into the same lexemes elsewhere. -/
theorem lexes_of_scan {position : Nat} {cs : List Char} {tokens : List Token}
    (h : scan position 0 cs = .ok tokens) : Lexes cs (lexemes tokens) := by
  have hlaid := scan_eq_ok_iff.1 h
  clear h
  induction hlaid with
  | nil => exact .nil
  | blank hc _ ih => exact ih.white hc
  | token hl _ ih => exact ih.lexeme hl

theorem Lexes.symbol (s : Symbol) {rest : List Char} {ls : List Lexeme} (h : Lexes rest ls) :
    Lexes (s.char :: rest) (.symbol s :: ls) := h.lexeme (.symbol s rest)

theorem Lexes.word (cs : List Char) {rest : List Char} {ls : List Lexeme}
    (hword : isWord cs = true) (hrest : Stops rest) (h : Lexes rest ls) :
    Lexes (cs ++ rest) (.word cs :: ls) := h.lexeme (.word hword hrest.apart_word)

/-- A word with a blank behind it. -/
theorem Lexes.wordBlank (cs : List Char) {rest : List Char} {ls : List Lexeme}
    (h : Lexes rest ls) (hword : isWord cs = true := by decide) :
    Lexes (cs ++ ' ' :: rest) (.word cs :: ls) :=
  .word cs hword (apart_cons _) (.blank h)

theorem Lexes.name (n : String) {rest : List Char} {ls : List Lexeme} (hrest : Stops rest)
    (h : Lexes rest ls) : Lexes ((quoteName n).toList ++ rest) (nameLexeme n.toList :: ls) := by
  rw [← text_nameLexeme_quoteName]
  exact h.lexeme (whole_nameLexeme n.toList hrest)

/-! ## Pieces of a text -/

/-- The piece `cs` is cut into the lexemes `ls`, whatever stands behind it and
stops its last token. -/
def Reads (cs : List Char) (ls : List Lexeme) : Prop :=
  ∀ ⦃rest : List Char⦄ ⦃ms : List Lexeme⦄,
    Stops rest → Lexes rest ms → Lexes (cs ++ rest) (ls ++ ms)

theorem reads_nil : Reads [] [] := fun _ _ _ hms => hms

theorem reads_word {cs : List Char} (h : isWord cs = true) : Reads cs [.word cs] :=
  fun _ _ hrest hms => .word cs h hrest hms

theorem reads_quoteName (n : String) : Reads (quoteName n).toList [nameLexeme n.toList] :=
  fun _ _ hrest hms => .name n hrest hms

/-- Two pieces are read one after the other, if the second stops the first. -/
theorem Reads.append {cs ds : List Char} {ls ms : List Lexeme} (hcs : Reads cs ls)
    (hstop : ∀ rest, Stops rest → Stops (ds ++ rest)) (hds : Reads ds ms) :
    Reads (cs ++ ds) (ls ++ ms) := fun rest _ hrest hns => by
  rw [List.append_assoc, List.append_assoc]
  exact hcs (hstop rest hrest) (hds hrest hns)

/-! ## Types -/

/-- The lexemes of a constructor with arguments. -/
def formedLexemes (c : TypeConstructor) (arguments : List Lexeme) : List Lexeme :=
  .word c.word.toList :: .symbol .openAngle :: (arguments ++ [.symbol .closeAngle])

mutual
/-- The lexemes of a type as it is written. -/
def DataType.lexemes : DataType → List Lexeme
  | .scalar s => [.word s.word.toList]
  | .set e => formedLexemes .set e.lexemes
  | .list e => formedLexemes .list e.lexemes
  | .map k v => formedLexemes .map (k.lexemes ++ .symbol .comma :: v.lexemes)
  | .tuple t ts => formedLexemes .tuple (t.lexemes ++ furtherLexemes ts)
  | .frozen t => formedLexemes .frozen t.lexemes
/-- The lexemes of the further elements of a tuple. -/
def furtherLexemes : List DataType → List Lexeme
  | [] => []
  | t :: ts => .symbol .comma :: (t.lexemes ++ furtherLexemes ts)
end

theorem reads_formed (c : TypeConstructor) {arguments : List Char} {ls : List Lexeme}
    (h : Reads arguments ls) :
    Reads (c.word.toList ++ '<' :: (arguments ++ ['>'])) (formedLexemes c ls) := by
  intro rest ms hrest hms
  have hword : isWord c.word.toList = true := by cases c <;> decide
  have hclose : Lexes ('>' :: rest) (.symbol .closeAngle :: ms) := .symbol .closeAngle hms
  have hstop : Stops ('>' :: rest) := apart_cons _
  have hopen := Lexes.symbol .openAngle (h hstop hclose)
  simpa [formedLexemes, Symbol.char] using Lexes.word _ hword (apart_cons _) hopen

theorem stops_cqlRest (ts : List DataType) {rest : List Char} (hrest : Stops rest) :
    Stops ((DataType.cqlRest ts).toList ++ rest) := by
  cases ts with
  | nil => exact hrest
  | cons t ts =>
    simp only [DataType.cqlRest, String.toList_append]
    exact apart_cons _

/-- Elements behind a first one are read behind it. -/
theorem reads_elements {t : DataType} {ts : List DataType} (ht : Reads t.cql.toList t.lexemes)
    (hts : Reads (DataType.cqlRest ts).toList (furtherLexemes ts)) :
    Reads (t.cql.toList ++ (DataType.cqlRest ts).toList) (t.lexemes ++ furtherLexemes ts) :=
  ht.append (fun _ hrest => stops_cqlRest ts hrest) hts

mutual
/-- A type is written as its lexemes. -/
theorem reads_cql : ∀ ty : DataType, Reads ty.cql.toList ty.lexemes
  | .scalar s => by
    have hword : isWord s.word.toList = true := by cases s <;> decide
    simpa [DataType.cql, DataType.lexemes] using reads_word hword
  | .set e => by
    have helement := reads_formed .set (reads_cql e)
    simpa [DataType.cql, DataType.lexemes, TypeConstructor.word] using helement
  | .list e => by
    have helement := reads_formed .list (reads_cql e)
    simpa [DataType.cql, DataType.lexemes, TypeConstructor.word] using helement
  | .map k v => by
    have harguments : Reads (k.cql.toList ++ ',' :: ' ' :: v.cql.toList)
        (k.lexemes ++ .symbol .comma :: v.lexemes) := by
      refine (reads_cql k).append (fun _ _ => apart_cons _) ?_
      intro rest ms hrest hms
      exact .symbol .comma (.blank (reads_cql v hrest hms))
    have hentry := reads_formed .map harguments
    simpa [DataType.cql, DataType.lexemes, TypeConstructor.word] using hentry
  | .tuple t ts => by
    have helements := reads_formed .tuple (reads_elements (reads_cql t) (reads_cqlRest ts))
    simpa [DataType.cql, DataType.lexemes, TypeConstructor.word] using helements
  | .frozen t => by
    have hinner := reads_formed .frozen (reads_cql t)
    simpa [DataType.cql, DataType.lexemes, TypeConstructor.word] using hinner
theorem reads_cqlRest : ∀ ts : List DataType, Reads (DataType.cqlRest ts).toList (furtherLexemes ts)
  | [] => reads_nil
  | t :: ts => by
    have helements := reads_elements (reads_cql t) (reads_cqlRest ts)
    intro rest ms hrest hms
    have hfirst := Lexes.symbol .comma (.blank (helements hrest hms))
    simpa [DataType.cqlRest, furtherLexemes, Symbol.char] using hfirst
end

/-! ## Keys, columns and statements -/

/-- The lexemes of pieces with commas between them. -/
def listLexemes (pieces : List (List Lexeme)) : List Lexeme := [.symbol .comma].intercalate pieces

/-- The lexemes of names with commas between them. -/
def namesLexemes (names : List String) : List Lexeme :=
  listLexemes (names.map fun n => [nameLexeme n.toList])

/-- The lexemes of a partition. -/
def partitionLexemes : List String → List Lexeme
  | [name] => [nameLexeme name.toList]
  | names => .symbol .openParen :: (namesLexemes names ++ [.symbol .closeParen])

/-- The lexemes of a key clause. -/
def PrimaryKey.lexemes (k : PrimaryKey) : List Lexeme :=
  .word "PRIMARY".toList :: .word "KEY".toList :: .symbol .openParen ::
    (listLexemes (partitionLexemes k.partition ::
      k.clustering.map fun n => [nameLexeme n.toList]) ++ [.symbol .closeParen])

/-- The lexemes of a column. -/
def Column.lexemes (c : Column) : List Lexeme := nameLexeme c.name.toList :: c.type.lexemes

/-- The lexemes of a guard. -/
def guardLexemes (guarded : Bool) : List Lexeme :=
  if guarded then [.word "IF".toList, .word "NOT".toList, .word "EXISTS".toList] else []

/-- The lexemes of a statement. -/
def Structure.lexemes (s : Structure) (guarded : Bool) : List Lexeme :=
  .word "CREATE".toList :: .word "TABLE".toList :: (guardLexemes guarded ++
    nameLexeme s.keyspace.toList :: .symbol .dot :: nameLexeme s.name.toList ::
      .symbol .openParen ::
        (listLexemes (s.columns.map Column.lexemes ++ [s.primaryKey.lexemes]) ++
          [.symbol .closeParen]))

/-- A list is written as the lexemes of its members, if it has any. -/
theorem reads_list {α : Type} {write : α → String} {lexemes : α → List Lexeme} {as : List α}
    (hne : as ≠ []) (h : ∀ a ∈ as, Reads (write a).toList (lexemes a)) :
    Reads (", ".intercalate (as.map write)).toList (listLexemes (as.map lexemes)) := by
  induction as with
  | nil => exact absurd rfl hne
  | cons a as ih =>
    have ha : Reads (write a).toList (lexemes a) := h a (by simp)
    cases as with
    | nil => simpa [listLexemes] using ha
    | cons b as =>
      have hmore := ih (by simp) fun b hb => h b (by simp [hb])
      intro rest ms hrest hms
      have hcomma := Lexes.symbol .comma (.blank (hmore hrest hms))
      have hfirst := ha (apart_cons _) hcomma
      simpa [listLexemes, String.intercalate_cons_cons, List.intercalate_cons_cons, Symbol.char]
        using hfirst

theorem reads_namesCql {names : List String} (hne : names ≠ []) :
    Reads (namesCql names).toList (namesLexemes names) :=
  reads_list hne fun n _ => reads_quoteName n

theorem reads_partitionCql {names : List String} (hne : names ≠ []) :
    Reads (partitionCql names).toList (partitionLexemes names) := by
  unfold partitionCql partitionLexemes
  split
  · next n => exact reads_quoteName n
  · intro rest ms hrest hms
    have hclose : Lexes (')' :: rest) (.symbol .closeParen :: ms) := .symbol .closeParen hms
    have hnames := reads_namesCql hne (apart_cons _) hclose
    simpa [Symbol.char] using Lexes.symbol .openParen hnames

theorem reads_primaryKey (k : PrimaryKey) : Reads k.cql.toList k.lexemes := by
  intro rest ms hrest hms
  -- the partition counts as the first of the names in the list
  let pieces : List (String × List Lexeme) :=
    (partitionCql k.partition, partitionLexemes k.partition) ::
      k.clustering.map fun n => (quoteName n, [nameLexeme n.toList])
  have hpieces : ∀ p ∈ pieces, Reads p.1.toList p.2 := by
    intro p hp
    rcases List.mem_cons.1 hp with rfl | hp
    · exact reads_partitionCql k.partition_ne_nil
    · obtain ⟨n, -, rfl⟩ := List.mem_map.1 hp
      exact reads_quoteName n
  have hclose : Lexes (')' :: rest) (.symbol .closeParen :: ms) := .symbol .closeParen hms
  have hlist := reads_list (by simp [pieces]) hpieces (apart_cons _) hclose
  have hkey := Lexes.word "KEY".toList (by decide) (apart_cons _) (.symbol .openParen hlist)
  have hprimary := Lexes.wordBlank "PRIMARY".toList hkey
  simpa [PrimaryKey.cql, PrimaryKey.lexemes, pieces, Symbol.char, Function.comp_def] using hprimary

theorem reads_column (c : Column) : Reads c.cql.toList c.lexemes := by
  intro rest ms hrest hms
  have htype := Lexes.blank (reads_cql c.type hrest hms)
  have hname := Lexes.name c.name (apart_cons _) htype
  simpa [Column.cql, Column.lexemes] using hname

theorem Lexes.guard (guarded : Bool) {rest : List Char} {ls : List Lexeme} (h : Lexes rest ls) :
    Lexes ((guardCql guarded).toList ++ rest) (guardLexemes guarded ++ ls) := by
  cases guarded with
  | false => exact h
  | true =>
    have hexists := Lexes.wordBlank "EXISTS".toList h
    have hnot := Lexes.wordBlank "NOT".toList hexists
    exact Lexes.wordBlank "IF".toList hnot

theorem Structure.toList_cql (s : Structure) (guarded : Bool) :
    (s.cql guarded).toList = "CREATE TABLE ".toList ++ ((guardCql guarded).toList ++
      (s.qualifiedName.cql.toList ++ (" (".toList ++
        ((", ".intercalate (s.columns.map Column.cql ++ [s.primaryKey.cql])).toList ++
          ")".toList)))) := by
  show ("CREATE TABLE " ++ guardCql guarded ++ s.qualifiedName.cql ++ " (" ++
    ", ".intercalate (s.columns.map Column.cql ++ [s.primaryKey.cql]) ++ ")").toList = _
  simp only [String.toList_append, List.append_assoc]

/-- A statement is written as its lexemes. -/
theorem lexes_structure (s : Structure) (guarded : Bool) :
    Lexes (s.cql guarded).toList (s.lexemes guarded) := by
  let pieces : List (String × List Lexeme) :=
    s.columns.map (fun c => (c.cql, c.lexemes)) ++ [(s.primaryKey.cql, s.primaryKey.lexemes)]
  have hpieces : ∀ p ∈ pieces, Reads p.1.toList p.2 := by
    intro p hp
    rcases List.mem_append.1 hp with hp | hp
    · obtain ⟨c, -, rfl⟩ := List.mem_map.1 hp
      exact reads_column c
    · obtain rfl := List.mem_singleton.1 hp
      exact reads_primaryKey s.primaryKey
  -- from the end to the front, since each piece is read with all that is behind it
  have hclose : Lexes [')'] [.symbol .closeParen] := .symbol .closeParen .nil
  have hlist := reads_list (by simp [pieces]) hpieces (apart_cons _) hclose
  have hopen := Lexes.blank (Lexes.symbol .openParen hlist)
  have hname := Lexes.name s.name (apart_cons _) hopen
  have hkeyspace := Lexes.name s.keyspace (apart_cons _) (.symbol .dot hname)
  have htable := Lexes.wordBlank "TABLE".toList (.guard guarded hkeyspace)
  have hcreate := Lexes.wordBlank "CREATE".toList htable
  rw [Structure.toList_cql]
  simpa [Structure.lexemes, Structure.qualifiedName, QualifiedName.cql, pieces, Symbol.char,
    Function.comp_def] using hcreate

/-- A statement is cut into tokens. -/
theorem tokenize_structure (s : Structure) (guarded : Bool) :
    ∃ tokens, tokenize (s.cql guarded).toList = .ok tokens ∧ lexemes tokens = s.lexemes guarded :=
  lexes_structure s guarded 0

end AuthKeyspace.Cql
