import AuthKeyspace.Cql.Content
import AuthKeyspace.Proofs.Cql.Tokens

/-!
# Where a text cannot be cut

A text that cannot be cut into tokens is refused at one character. This file
says which one (`tokenize_error_exact`): everything before it can be cut, and
it is either a character that begins no token or a double quote with no other
behind it.

`ReadUpTo` is the reader at work: what it has read when it stands at a place.
It stops for good where `lexemeAt?` finds nothing (`scan_eq_error_iff`), and
since the place was not in the middle of a token, cutting the text off there
changes none of the tokens before (`ReadUpTo.exists_laid`).

The one case in which a token could be less than it seems is a quoted name that
is left open. All quotes behind its first one come in pairs then, and only the
name up to the last pair is read, with the first quote of that pair as its end.
The other quote of the pair is the last of the text, so nothing can be read
there: the text is refused, right behind the shorter name
(`ReadUpTo.of_left_open`).
-/

namespace AuthKeyspace.Cql

open AuthKeyspace.Text

/-! ## Characters at which nothing is read -/

/-- No token begins with the character. -/
structure BeginsNothing (c : Char) : Prop where
  no_letter : c.isAlpha = false
  no_underscore : c ≠ '_'
  no_symbol : ∀ s : Symbol, c ≠ s.char
  no_quote : c ≠ '"'

theorem ofChar?_eq_none_iff {c : Char} : Symbol.ofChar? c = none ↔ ∀ s : Symbol, c ≠ s.char := by
  constructor
  · intro h s hs
    rw [Symbol.ofChar?_eq_some_iff.2 hs] at h
    cases h
  · intro h
    cases hc : Symbol.ofChar? c with
    | none => rfl
    | some s => exact absurd (Symbol.ofChar?_eq_some_iff.1 hc) (h s)

theorem beginsNothing_iff {c : Char} :
    BeginsNothing c ↔ c ≠ '"' ∧ isWordStart c = false ∧ Symbol.ofChar? c = none := by
  constructor
  · intro h
    have hstart : isWordStart c = false :=
      Bool.or_eq_false_iff.2 ⟨h.no_letter, decide_eq_false h.no_underscore⟩
    exact ⟨h.no_quote, hstart, ofChar?_eq_none_iff.2 h.no_symbol⟩
  · rintro ⟨hquote, hstart, hsymbol⟩
    obtain ⟨hletter, hunderscore⟩ := Bool.or_eq_false_iff.1 hstart
    exact ⟨hletter, of_decide_eq_false hunderscore, ofChar?_eq_none_iff.1 hsymbol, hquote⟩

/-- Nothing is read at a character that begins no token, nor at a quote that is
the last one. -/
theorem lexemeAt?_eq_none_iff {c : Char} {rest : List Char} :
    lexemeAt? c rest = none ↔ BeginsNothing c ∨ (c = '"' ∧ '"' ∉ rest) := by
  rw [beginsNothing_iff]
  unfold lexemeAt?
  split
  · next hquote => simp [hquote, quotedName?_eq_none_iff]
  · next hquote =>
    split
    · next hstart => simp [hquote, hstart]
    · next hstart => simp [hquote, hstart]

/-! ## Reading up to a place -/

/-- When the reader that begins at `position`, with `cs` before it, has come to
`stop` and has `rest` before it, it has read the tokens. -/
inductive ReadUpTo : Nat → List Char → List Token → Nat → List Char → Prop
  | here (position : Nat) (cs : List Char) : ReadUpTo position cs [] position cs
  | blank {position stop : Nat} {c : Char} {cs rest : List Char} {tokens : List Token}
      (hc : isBlank c = true) (h : ReadUpTo (position + 1) cs tokens stop rest) :
      ReadUpTo position (c :: cs) tokens stop rest
  | token {position stop more : Nat} {c : Char} {cs rest : List Char} {l : Lexeme}
      {tokens : List Token} (hc : isBlank c = false) (hl : lexemeAt? c cs = some (l, more))
      (h : ReadUpTo (position + 1 + more) (cs.drop more) tokens stop rest) :
      ReadUpTo position (c :: cs) (⟨l, position⟩ :: tokens) stop rest

/-- The reader fails where it can read nothing. -/
theorem ReadUpTo.scan_eq_error {position stop : Nat} {c : Char} {cs rest : List Char}
    {tokens : List Token} (h : ReadUpTo position cs tokens stop (c :: rest))
    (hc : isBlank c = false) (hnone : lexemeAt? c rest = none) :
    scan position 0 cs = .error ⟨c, stop⟩ := by
  generalize hrest : c :: rest = left at h
  induction h with
  | here position =>
    subst hrest
    simp [scan, hc, hnone]
  | blank hblank h ih =>
    rw [scan, if_pos hblank]
    exact ih hrest
  | token hblank hl h ih =>
    obtain ⟨-, hle⟩ := text_of_lexemeAt? hl
    simp only [scan, hblank, hl, scan_skip _ _ _ hle, ih hrest]
    rfl

/-- Where it fails it had come by reading tokens. -/
theorem exists_readUpTo_of_scan {position skip : Nat} {cs : List Char} {e : Unexpected}
    (h : scan position skip cs = .error e) (hskip : skip ≤ cs.length) :
    ∃ tokens rest, ReadUpTo (position + skip) (cs.drop skip) tokens e.position (e.char :: rest) ∧
      isBlank e.char = false ∧ lexemeAt? e.char rest = none := by
  fun_induction scan position skip cs with
  | case1 => cases h
  | case2 position skip c rest ih =>
    have hrun := ih h (by simpa using hskip)
    rwa [Nat.add_right_comm] at hrun
  | case3 position c rest hblank ih =>
    obtain ⟨tokens, left, hrun, hend⟩ := ih h (Nat.zero_le _)
    exact ⟨tokens, left, .blank hblank hrun, hend⟩
  | case4 position c rest hblank hnone =>
    cases h
    exact ⟨[], rest, .here _ _, Bool.eq_false_iff.2 hblank, hnone⟩
  | case5 position c rest hblank l more hl ih =>
    obtain ⟨-, hle⟩ := text_of_lexemeAt? hl
    obtain ⟨tokens, left, hrun, hend⟩ := ih (map_eq_error_iff.1 h) hle
    exact ⟨⟨l, position⟩ :: tokens, left, .token (Bool.eq_false_iff.2 hblank) hl hrun, hend⟩

theorem scan_eq_error_iff {position : Nat} {cs : List Char} {e : Unexpected} :
    scan position 0 cs = .error e ↔
      ∃ tokens rest, ReadUpTo position cs tokens e.position (e.char :: rest) ∧
        isBlank e.char = false ∧ lexemeAt? e.char rest = none := by
  constructor
  · intro h
    exact exists_readUpTo_of_scan h (Nat.zero_le _)
  · rintro ⟨tokens, rest, hrun, hc, hnone⟩
    exact hrun.scan_eq_error hc hnone

/-- Reading can go on where it stands. -/
theorem ReadUpTo.trans {position middle stop : Nat} {cs ds rest : List Char}
    {tokens more : List Token} (h : ReadUpTo position cs tokens middle ds)
    (h' : ReadUpTo middle ds more stop rest) : ReadUpTo position cs (tokens ++ more) stop rest := by
  induction h with
  | here => exact h'
  | blank hc h ih => exact .blank hc (ih h')
  | token hc hl h ih => exact .token hc hl (ih h')

/-- Wherever the reader stands, the text behind it is laid out as the tokens that
it has read. -/
theorem ReadUpTo.exists_laid {position stop : Nat} {cs rest : List Char} {tokens : List Token}
    (h : ReadUpTo position cs tokens stop rest) :
    ∃ before, cs = before ++ rest ∧ stop = position + before.length ∧
      Laid position before tokens := by
  induction h with
  | here position => exact ⟨[], rfl, rfl, .nil position⟩
  | @blank position stop c cs rest tokens hc h ih =>
    obtain ⟨before, rfl, hstop, hlaid⟩ := ih
    refine ⟨c :: before, rfl, ?_, .blank hc hlaid⟩
    rw [hstop, List.length_cons]
    omega
  | @token position stop more c cs rest l tokens hc hl h ih =>
    obtain ⟨before, hsplit, hstop, hlaid⟩ := ih
    obtain ⟨htext, hle⟩ := text_of_lexemeAt? hl
    have hlength : l.text.length = more + 1 := by
      rw [htext, List.length_take, List.length_cons]
      omega
    have hcs : c :: cs = l.text ++ (before ++ rest) := by
      rw [htext, ← hsplit, ← List.drop_succ_cons, List.take_append_drop]
    refine ⟨l.text ++ before, ?_, ?_, .token (whole_of_lexemeAt? hl hsplit hlaid) ?_⟩
    · rw [hcs, List.append_assoc]
    · rw [hstop, List.length_append, hlength]
      omega
    · rwa [hlength, Nat.add_comm more 1, ← Nat.add_assoc]

/-! ## Names that are left open -/

/-- A quoted name that is left open after pairs of quotes is read up to the last
pair, with the first quote of that pair as its end. -/
theorem quotedName?_of_left_open (name : List Char) {tail : List Char} (htail : '"' ∉ tail) :
    quotedName? (double '"' (name ++ '"' :: tail)) = some (name, (double '"' name).length + 1) := by
  induction name with
  | nil =>
    rw [List.nil_append, double_cons_self, double_eq_self_of_not_mem htail, quotedName?,
      quotedName?_eq_none_iff.2 htail]
    rfl
  | cons c name ih =>
    rw [List.cons_append]
    by_cases hc : c = '"'
    · rw [hc, double_cons_self, double_cons_self, quotedName?, ih]
      rfl
    · rw [double_cons_of_ne hc, double_cons_of_ne hc]
      simp [quotedName?, hc, ih]

/-- What is behind the name that was read of one that is left open is the other
quote of the pair, and no more quotes. -/
theorem drop_of_left_open (name : List Char) {tail : List Char} (htail : '"' ∉ tail) :
    (double '"' (name ++ '"' :: tail)).drop ((double '"' name).length + 1) = '"' :: tail := by
  rw [double_append, double_cons_self, double_eq_self_of_not_mem htail, ← List.drop_drop,
    List.drop_left]
  rfl

/-- At a name that is left open the reader reads the shorter one and comes to
the quote behind it. -/
theorem ReadUpTo.of_left_open {position stop : Nat} {cs name tail : List Char}
    {tokens : List Token} (htail : '"' ∉ tail)
    (h : ReadUpTo position cs tokens stop ('"' :: double '"' (name ++ '"' :: tail))) :
    ReadUpTo position cs (tokens ++ [⟨.quoted name, stop⟩])
      (stop + (Lexeme.quoted name).text.length) ('"' :: tail) := by
  refine h.trans ?_
  have hl : lexemeAt? '"' (double '"' (name ++ '"' :: tail)) =
      some (.quoted name, (double '"' name).length + 1) := by
    rw [lexemeAt?, if_pos rfl, quotedName?_of_left_open name htail]
    rfl
  have hstop : stop + (Lexeme.quoted name).text.length =
      stop + 1 + ((double '"' name).length + 1) := by
    simp only [Lexeme.text, List.length_append, List.length_cons, List.length_nil]
    omega
  rw [hstop]
  refine .token (by decide) hl ?_
  rw [drop_of_left_open name htail]
  exact .here _ _

/-! ## The place of the error -/

/-- The token is a quoted name, and the quote that ends it is followed by
another. The reader takes two quotes in a row for a pair as long as it can, so
it has gone back to the first of them. -/
def Token.IsCutShort (t : Token) (text : List Char) : Prop :=
  (∃ name, t.lexeme = .quoted name) ∧ text[t.position + t.text.length]? = some '"'

/-- Having read the tokens, the reader stands at a character of the text at which
nothing can be read. The tokens are those of the text before the place, and one
that was cut short was so by the quote at the place. -/
structure StuckAt (text : List Char) (e : Unexpected) (tokens : List Token) : Prop where
  in_text : e.position < text.length
  at_char : text[e.position]? = some e.char
  not_blank : isBlank e.char = false
  cause : BeginsNothing e.char ∨ (e.char = '"' ∧ '"' ∉ text.drop (e.position + 1))
  read : ReadUpTo 0 text tokens e.position (text.drop e.position)
  tokenize_before : tokenize (text.take e.position) = .ok tokens
  cut_short : ∀ t ∈ tokens, t.IsCutShort text → t.position + t.text.length = e.position

/-- A quoted name that is whole before more of the text was not cut short. -/
theorem ne_quote_of_whole {name after : List Char} {d : Char}
    (h : Whole (.quoted name) (d :: after)) : d ≠ '"' := by
  cases h with
  | quoted hrest => exact beq_eq_false_iff_ne.1 (hrest d rfl)

/-- If a text goes on behind its tokens, only one that reaches to where it goes on
is cut short. -/
theorem Laid.end_eq_of_isCutShort {before rest : List Char} {tokens : List Token}
    (h : Laid 0 before tokens) : ∀ t ∈ tokens, t.IsCutShort (before ++ rest) →
      t.position + t.text.length = before.length := by
  rintro t ht ⟨⟨name, hname⟩, hquote⟩
  obtain ⟨left, right, rfl, hposition, hwhole⟩ := h.exists_split t ht
  rw [Nat.zero_add] at hposition
  rw [hposition, ← List.head?_drop, ← List.drop_drop, List.append_assoc, List.drop_left,
    List.append_assoc, List.drop_left] at hquote
  cases right with
  | nil => simp [hposition]
  | cons d ds =>
    rw [hname] at hwhole
    exact absurd (Option.some.inj hquote) (ne_quote_of_whole hwhole)

theorem stuckAt_of_readUpTo {text rest : List Char} {tokens : List Token} {e : Unexpected}
    (h : ReadUpTo 0 text tokens e.position (e.char :: rest)) (hblank : isBlank e.char = false)
    (hnone : lexemeAt? e.char rest = none) : StuckAt text e tokens := by
  obtain ⟨before, htext, hposition, hlaid⟩ := h.exists_laid
  rw [Nat.zero_add] at hposition
  have hdrop : text.drop e.position = e.char :: rest := by
    rw [htext, hposition, List.drop_left]
  have htake : text.take e.position = before := by
    rw [htext, hposition, List.take_left]
  refine ⟨?_, ?_, hblank, ?_, ?_, ?_, ?_⟩
  · rw [htext, hposition, List.length_append, List.length_cons]
    omega
  · rw [← List.head?_drop, hdrop]
    rfl
  · rw [← List.drop_drop, hdrop]
    exact lexemeAt?_eq_none_iff.1 hnone
  · rwa [hdrop]
  · rw [htake]
    exact scan_eq_ok_iff.2 hlaid
  · intro t ht hcut
    rw [htext] at hcut
    rw [hposition]
    exact hlaid.end_eq_of_isCutShort t ht hcut

theorem tokenize_eq_error_iff {text : List Char} {e : Unexpected} :
    tokenize text = .error e ↔ ∃ tokens, StuckAt text e tokens := by
  constructor
  · intro h
    obtain ⟨tokens, rest, hrun, hblank, hnone⟩ := scan_eq_error_iff.1 h
    exact ⟨tokens, stuckAt_of_readUpTo hrun hblank hnone⟩
  · rintro ⟨tokens, h⟩
    obtain ⟨rest, hrest⟩ : ∃ rest, text.drop e.position = e.char :: rest := by
      refine List.head?_eq_some_iff.1 ?_
      rw [List.head?_drop]
      exact h.at_char
    have hbehind : text.drop (e.position + 1) = rest := by
      rw [← List.drop_drop, hrest]
      rfl
    have hcause := h.cause
    have hrun := h.read
    rw [hbehind] at hcause
    rw [hrest] at hrun
    exact hrun.scan_eq_error h.not_blank (lexemeAt?_eq_none_iff.2 hcause)

/-- A text that cannot be cut is no blank one, so the error of reading a table
from it is at the same character. -/
theorem ofText_of_tokenize_eq_error {text : List Char} {e : Unexpected}
    (h : tokenize text = .error e) (keyspace : String) :
    Structure.ofText keyspace (String.ofList text) =
      .error ⟨.unexpectedCharacter e.char, some e.position, none⟩ := by
  obtain ⟨tokens, hstuck⟩ := tokenize_eq_error_iff.1 h
  have hblank : allBlank text = false := by
    refine Bool.eq_false_iff.2 fun hall => ?_
    have hchar := List.all_eq_true.1 hall e.char (List.mem_of_getElem? hstuck.at_char)
    rw [hstuck.not_blank] at hchar
    cases hchar
  simp only [Structure.ofText, String.toList_ofList, hblank, h]
  rfl

/-- In a text that can be cut no token is cut short. -/
theorem not_isCutShort_of_tokenize {text : List Char} {tokens : List Token}
    (h : tokenize text = .ok tokens) : ∀ t ∈ tokens, ¬ t.IsCutShort text := by
  rintro t ht ⟨⟨name, hname⟩, hquote⟩
  have hapart := (cutInto_of_laid (scan_eq_ok_iff.1 h)).quoted_whole t ht name hname
  rw [← List.head?_drop] at hquote
  exact absurd (hapart '"' hquote) (by decide)

/-- A text that cannot be cut is refused at the character at which the reader is
stuck, and the error of reading a table from it says so. A quoted name that is
left open after pairs of quotes is always cut short, and the reader is stuck
right behind what it has read of it; so no token of a text that can be cut was
cut short. -/
theorem tokenize_error_exact (text : List Char) :
    (∀ e, tokenize text = .error e ↔ ∃ tokens, StuckAt text e tokens) ∧
      (∀ e, tokenize text = .error e → ∀ keyspace,
        Structure.ofText keyspace (String.ofList text) =
          .error ⟨.unexpectedCharacter e.char, some e.position, none⟩) ∧
      (∀ tokens stop name tail,
        ReadUpTo 0 text tokens stop ('"' :: double '"' (name ++ '"' :: tail)) → '"' ∉ tail →
          Token.IsCutShort ⟨.quoted name, stop⟩ text ∧
            StuckAt text ⟨'"', stop + (Lexeme.quoted name).text.length⟩
              (tokens ++ [⟨.quoted name, stop⟩])) ∧
      ∀ tokens, tokenize text = .ok tokens → ∀ t ∈ tokens, ¬ t.IsCutShort text := by
  refine ⟨fun e => tokenize_eq_error_iff, fun e h => ofText_of_tokenize_eq_error h, ?_,
    fun tokens h => not_isCutShort_of_tokenize h⟩
  intro tokens stop name tail h htail
  have hblank : isBlank '"' = false := by decide
  have hnone : lexemeAt? '"' tail = none := lexemeAt?_eq_none_iff.2 (.inr ⟨rfl, htail⟩)
  have hstuck : StuckAt text ⟨'"', stop + (Lexeme.quoted name).text.length⟩
      (tokens ++ [⟨.quoted name, stop⟩]) := stuckAt_of_readUpTo (h.of_left_open htail) hblank hnone
  exact ⟨⟨⟨name, rfl⟩, hstuck.at_char⟩, hstuck⟩

/-- In `a "b""c` the name is read up to the pair of quotes, and the second of them
is refused; with a quote behind it all of the name is read. -/
theorem tokenize_error_exact_left_open :
    tokenize ['a', ' ', '"', 'b', '"', '"', 'c'] = .error ⟨'"', 5⟩ ∧
      StuckAt ['a', ' ', '"', 'b', '"', '"', 'c'] ⟨'"', 5⟩
        [⟨.word ['a'], 0⟩, ⟨.quoted ['b'], 2⟩] ∧
      Structure.ofText "k" (String.ofList ['a', ' ', '"', 'b', '"', '"', 'c']) =
        .error ⟨.unexpectedCharacter '"', some 5, none⟩ ∧
      tokenize ['"', 'b', '"', '"', 'c', '"'] = .ok [⟨.quoted ['b', '"', 'c'], 0⟩] ∧
      ¬ Token.IsCutShort ⟨.quoted ['b', '"', 'c'], 0⟩ ['"', 'b', '"', '"', 'c', '"'] := by
  have hopen : ReadUpTo 0 ['a', ' ', '"', 'b', '"', '"', 'c'] [⟨.word ['a'], 0⟩] 2
      ('"' :: double '"' (['b'] ++ '"' :: ['c'])) :=
    .token (by decide) rfl (.blank (by decide) (.here _ _))
  have herror : tokenize ['a', ' ', '"', 'b', '"', '"', 'c'] = .error ⟨'"', 5⟩ := rfl
  have hclosed : tokenize ['"', 'b', '"', '"', 'c', '"'] = .ok [⟨.quoted ['b', '"', 'c'], 0⟩] := rfl
  obtain ⟨-, htable, hstuck, -⟩ := tokenize_error_exact ['a', ' ', '"', 'b', '"', '"', 'c']
  obtain ⟨-, -, -, hwhole⟩ := tokenize_error_exact ['"', 'b', '"', '"', 'c', '"']
  exact ⟨herror, (hstuck _ _ _ _ hopen (by decide)).2, htable _ herror "k", hclosed,
    hwhole _ hclosed _ List.mem_cons_self⟩

end AuthKeyspace.Cql
