import AuthKeyspace.Proofs.Cql.Word
import AuthKeyspace.Proofs.Except

/-!
# What texts are cut into tokens, and how

A text can be cut into tokens exactly if it is put together from `Piece`s:
white space, words, symbols and names in quotes, inside of which every quote is
doubled (`items_exact`). Pieces and tokens are not the same. Two words in a row
are one word, and two quoted names in a row are one quoted name, for the quotes
between them are a pair; so a text may be put together in many ways, but is cut
in one.

That one way is `Laid`: white space, and tokens each of which is whole before
what is behind it. From it everything is read off that makes a list of tokens
as good as the text (`CutInto`): where a token stands its characters do, tokens
come one after the other, and what no token covers is white space.

A quoted name that is not closed can be read in part, up to a pair of quotes of
which only the first is taken. What is behind it then begins with a quote that
opens nothing (`quotedName?_of_cut_short`), so this never happens to a text that
is cut into tokens.
-/

namespace AuthKeyspace.Cql

open AuthKeyspace.Text

/-! ## Single lexemes -/

/-- A lexeme is whole before `rest`: a word is a word and does not go on there,
and neither does a quoted name. -/
inductive Whole : Lexeme → List Char → Prop
  | word {cs rest : List Char} (hword : isWord cs = true) (hrest : Apart isWordRest rest) :
      Whole (.word cs) rest
  | quoted {name rest : List Char} (hrest : Apart (· == '"') rest) : Whole (.quoted name) rest
  | symbol (s : Symbol) (rest : List Char) : Whole (.symbol s) rest

/-- What is whole begins with a quote only if it is a quoted name. -/
theorem Whole.eq_quoted_or_apart {l : Lexeme} {rest : List Char} (h : Whole l rest)
    (cs : List Char) : (∃ name, l = .quoted name) ∨ Apart (· == '"') (l.text ++ cs) := by
  cases h with
  | @word w _ hword =>
    refine .inr ?_
    cases w with
    | nil => exact absurd hword (by decide)
    | cons c w =>
      have hstart : isWordStart c = true := (Bool.and_eq_true_iff.1 hword).1
      exact apart_cons _ (beq_eq_false_iff_ne.2
        (ne_quote_of_isWordRest (isWordRest_of_isWordStart hstart)))
  | @quoted name => exact .inl ⟨name, rfl⟩
  | symbol s => exact .inr (apart_cons _ (by cases s <;> rfl))

/-- A quoted name ends where the quote is not doubled. -/
theorem quotedName?_double (name : List Char) {rest : List Char} (h : Apart (· == '"') rest) :
    quotedName? (double '"' name ++ '"' :: rest) = some (name, (double '"' name).length + 1) := by
  induction name with
  | nil =>
    cases rest with
    | nil => rfl
    | cons c cs =>
      have hc : c ≠ '"' := beq_eq_false_iff_ne.1 (h c rfl)
      simp [double, quotedName?, hc]
  | cons c cs ih =>
    by_cases hc : c = '"'
    · subst hc
      simp [double, quotedName?, ih]
    · simp [double, quotedName?, hc, ih]

/-- A word goes on as far as its characters do. -/
theorem lexemeAt?_word {c : Char} {cs rest : List Char} (hword : isWord (c :: cs) = true)
    (hrest : Apart isWordRest rest) :
    lexemeAt? c (cs ++ rest) = some (.word (c :: cs), cs.length) := by
  obtain ⟨hstart, hcs⟩ := Bool.and_eq_true_iff.1 hword
  have hquote : c ≠ '"' := ne_quote_of_isWordRest (isWordRest_of_isWordStart hstart)
  have hmore : (cs ++ rest).takeWhile isWordRest = cs := by
    rw [List.takeWhile_append_of_pos (List.all_eq_true.1 hcs)]
    cases rest with
    | nil => simp
    | cons d ds => simp [hrest d rfl]
  simp [lexemeAt?, hquote, hstart, hmore]

theorem lexemeAt?_symbol (s : Symbol) (rest : List Char) :
    lexemeAt? s.char rest = some (.symbol s, 0) := by
  cases s <;> rfl

/-- A lexeme that is whole is read as it is written. -/
theorem lexemeAt?_of_whole {l : Lexeme} {rest : List Char} (h : Whole l rest) :
    ∃ c cs, l.text = c :: cs ∧ isBlank c = false ∧
      lexemeAt? c (cs ++ rest) = some (l, cs.length) := by
  cases h with
  | @word cs _ hword hrest =>
    cases cs with
    | nil => exact absurd hword (by decide)
    | cons c cs =>
      have hstart : isWordStart c = true := (Bool.and_eq_true_iff.1 hword).1
      exact ⟨c, cs, rfl, isBlank_of_isWordRest (isWordRest_of_isWordStart hstart),
        lexemeAt?_word hword hrest⟩
  | @quoted name _ hrest =>
    refine ⟨'"', double '"' name ++ ['"'], rfl, by decide, ?_⟩
    have hquoted := quotedName?_double name hrest
    simp [lexemeAt?, hquoted]
  | symbol s =>
    exact ⟨s.char, [], rfl, by cases s <;> rfl, lexemeAt?_symbol s rest⟩

/-- A lexeme that is whole is cut off, and what is behind it is cut on its
own. -/
theorem scan_lexeme {l : Lexeme} {rest : List Char} (h : Whole l rest) (position : Nat) :
    scan position 0 (l.text ++ rest) =
      (scan (position + l.text.length) 0 rest).map (⟨l, position⟩ :: ·) := by
  obtain ⟨c, cs, htext, hc, hl⟩ := lexemeAt?_of_whole h
  -- the characters of the lexeme behind its first are passed over
  have hskip := scan_skip (position + 1) cs.length (cs ++ rest) (by simp)
  have hlength : position + (cs.length + 1) = position + 1 + cs.length := by omega
  rw [List.drop_left] at hskip
  simp only [htext, List.cons_append, scan, hc, hl, hskip, List.length_cons, hlength]
  rfl

/-- A quoted name is read as long as there is any quote to end it. -/
theorem quotedName?_eq_none_iff {cs : List Char} : quotedName? cs = none ↔ '"' ∉ cs := by
  fun_induction quotedName? cs with
  | case1 => simp
  | case2 | case3 | case4 => simp
  | case5 c rest hpair hquote ih =>
    have hc : '"' ≠ c := by
      intro h
      subst h
      exact hquote rfl
    rw [Option.map_eq_none_iff, ih, List.mem_cons]
    simp [hc]

/-- What is read of a quoted name is the name with its quotes doubled and the
quote that ends it. -/
theorem take_of_quotedName? {cs name : List Char} {n : Nat} (h : quotedName? cs = some (name, n)) :
    cs.take n = double '"' name ++ ['"'] ∧ n ≤ cs.length := by
  fun_induction quotedName? cs generalizing name n with
  | case1 => cases h
  | case2 rest name' n' hrest ih =>
    cases h
    obtain ⟨htake, hle⟩ := ih hrest
    exact ⟨by simp [double, htake], by simpa using hle⟩
  | case3 rest hrest =>
    cases h
    exact ⟨rfl, by simp⟩
  | case4 rest =>
    cases h
    exact ⟨rfl, by simp⟩
  | case5 c rest hpair hquote ih =>
    obtain ⟨⟨name', n'⟩, hrest, heq⟩ := Option.map_eq_some_iff.1 h
    cases heq
    obtain ⟨htake, hle⟩ := ih hrest
    have hc : c ≠ '"' := by
      intro h
      subst h
      exact hquote rfl
    exact ⟨by simp [double, hc, htake], by simpa using hle⟩

/-- A lexeme is read where its text stands. -/
theorem text_of_lexemeAt? {c : Char} {rest : List Char} {l : Lexeme} {more : Nat}
    (h : lexemeAt? c rest = some (l, more)) :
    l.text = (c :: rest).take (more + 1) ∧ more ≤ rest.length := by
  unfold lexemeAt? at h
  split at h
  · next hquote =>
    -- a quoted name
    obtain ⟨⟨name, n⟩, hname, heq⟩ := Option.map_eq_some_iff.1 h
    cases heq
    obtain ⟨htake, hle⟩ := take_of_quotedName? hname
    exact ⟨by simp [Lexeme.text, hquote, htake], hle⟩
  · split at h
    · -- a word
      cases h
      have hprefix := List.takeWhile_prefix isWordRest (l := rest)
      refine ⟨?_, hprefix.length_le⟩
      show c :: rest.takeWhile isWordRest = c :: rest.take (rest.takeWhile isWordRest).length
      rw [← List.prefix_iff_eq_take.1 hprefix]
    · -- a symbol
      obtain ⟨s, hs, heq⟩ := Option.map_eq_some_iff.1 h
      cases heq
      exact ⟨by simp [Lexeme.text, Symbol.ofChar?_eq_some_iff.1 hs], Nat.zero_le _⟩

/-! ## Laying out tokens -/

/-- The text is laid out as the tokens, from the offset `position` on: each is
whole before the rest of the text, and all else is white space. -/
inductive Laid : Nat → List Char → List Token → Prop
  | nil (position : Nat) : Laid position [] []
  | blank {position : Nat} {c : Char} {cs : List Char} {tokens : List Token}
      (hc : isBlank c = true) (h : Laid (position + 1) cs tokens) : Laid position (c :: cs) tokens
  | token {position : Nat} {l : Lexeme} {rest : List Char} {tokens : List Token}
      (hl : Whole l rest) (h : Laid (position + l.text.length) rest tokens) :
      Laid position (l.text ++ rest) (⟨l, position⟩ :: tokens)

theorem scan_of_laid {position : Nat} {cs : List Char} {tokens : List Token}
    (h : Laid position cs tokens) : scan position 0 cs = .ok tokens := by
  induction h with
  | nil => rfl
  | blank hc h ih => rw [scan, if_pos hc, ih]
  | token hl h ih =>
    rw [scan_lexeme hl, ih]
    rfl

/-- Where a quoted name was cut short, what is behind it opens no name. -/
theorem quotedName?_of_cut_short {cs name rest : List Char} {n : Nat}
    (h : quotedName? cs = some (name, n)) (hrest : cs.drop n = '"' :: rest) :
    quotedName? rest = none := by
  fun_induction quotedName? cs generalizing name n with
  | case1 => cases h
  | case2 more name' n' hmore ih =>
    cases h
    exact ih hmore hrest
  | case3 more hmore =>
    cases h
    obtain rfl : more = rest := (List.cons.inj hrest).2
    exact hmore
  | case4 more hpair =>
    cases h
    exact absurd hrest (hpair rest)
  | case5 c more hpair hquote ih =>
    obtain ⟨⟨name', n'⟩, hmore, heq⟩ := Option.map_eq_some_iff.1 h
    cases heq
    exact ih hmore hrest

theorem ne_quote_of_isBlank {c : Char} (h : isBlank c = true) : c ≠ '"' := by
  intro hc
  rw [hc] at h
  exact absurd h (by decide)

/-- A text that is laid out and begins with a quote has another. -/
theorem Laid.quote_mem {position : Nat} {rest : List Char} {tokens : List Token}
    (h : Laid position ('"' :: rest) tokens) : '"' ∈ rest := by
  generalize hcs : '"' :: rest = cs at h
  cases h with
  | nil => cases hcs
  | blank hc => exact absurd (List.cons.inj hcs).1.symm (ne_quote_of_isBlank hc)
  | @token _ _ after _ hl =>
    rcases hl.eq_quoted_or_apart after with ⟨name, rfl⟩ | happart
    · have hrest : rest = double '"' name ++ '"' :: after := by
        simpa [Lexeme.text] using hcs
      rw [hrest]
      exact List.mem_append_right _ List.mem_cons_self
    · rw [← hcs] at happart
      exact absurd happart not_apart_self

/-- A lexeme that was read is whole before any part of the text behind it that
can be cut as well. -/
theorem whole_of_lexemeAt? {c : Char} {rest before after : List Char} {l : Lexeme}
    {more position : Nat} {tokens : List Token} (h : lexemeAt? c rest = some (l, more))
    (hsplit : rest.drop more = before ++ after) (hbefore : Laid position before tokens) :
    Whole l before := by
  unfold lexemeAt? at h
  split at h
  · obtain ⟨⟨name, n⟩, hname, heq⟩ := Option.map_eq_some_iff.1 h
    cases heq
    refine .quoted ?_
    -- a quote behind the name would have to open another, and it was seen that it does not
    intro d hd
    refine beq_eq_false_iff_ne.2 fun hquote => ?_
    obtain ⟨inside, hinside⟩ := List.head?_eq_some_iff.1 hd
    rw [hquote] at hinside
    have hcut : rest.drop more = '"' :: (inside ++ after) := by rw [hsplit, hinside]; rfl
    have hnone : '"' ∉ inside ++ after :=
      quotedName?_eq_none_iff.1 (quotedName?_of_cut_short hname hcut)
    rw [hinside] at hbefore
    exact hnone (List.mem_append_left _ hbefore.quote_mem)
  · split at h
    · next hstart =>
      cases h
      have hdrop : (rest.takeWhile isWordRest ++ rest.dropWhile isWordRest).drop
          (rest.takeWhile isWordRest).length = rest.dropWhile isWordRest := List.drop_left
      rw [List.takeWhile_append_dropWhile, hsplit] at hdrop
      have hapart : Apart isWordRest (before ++ after) := by
        intro d hd
        have hstop := List.head?_dropWhile_not isWordRest rest
        rw [← hdrop, hd] at hstop
        exact hstop
      exact .word (Bool.and_eq_true_iff.2 ⟨hstart, List.all_takeWhile⟩) hapart.of_append
    · obtain ⟨s, hs, heq⟩ := Option.map_eq_some_iff.1 h
      cases heq
      exact .symbol s _

theorem laid_of_scan {position skip : Nat} {cs : List Char} {tokens : List Token}
    (h : scan position skip cs = .ok tokens) (hskip : skip ≤ cs.length) :
    Laid (position + skip) (cs.drop skip) tokens := by
  fun_induction scan position skip cs generalizing tokens with
  | case1 position skip =>
    cases h
    rw [List.drop_nil]
    exact .nil _
  | case2 position skip c rest ih =>
    have hlaid := ih h (by simpa using hskip)
    rwa [Nat.add_right_comm] at hlaid
  | case3 position c rest hblank ih => exact .blank hblank (ih h (Nat.zero_le _))
  | case4 => cases h
  | case5 position c rest hblank l more hl ih =>
    obtain ⟨tokens', hscan, rfl⟩ := map_eq_ok_iff.1 h
    obtain ⟨htext, hmore⟩ := text_of_lexemeAt? hl
    have hrest := ih hscan hmore
    have hlength : l.text.length = more + 1 := by
      rw [htext, List.length_take, List.length_cons]
      omega
    have hsplit : c :: rest = l.text ++ rest.drop more := by
      rw [htext, ← List.drop_succ_cons, List.take_append_drop]
    show Laid position (c :: rest) _
    rw [hsplit]
    refine .token (whole_of_lexemeAt? hl (List.append_nil _).symm hrest) ?_
    rwa [hlength, Nat.add_comm more 1, ← Nat.add_assoc]

/-- A text is cut into the tokens that it is laid out as. -/
theorem scan_eq_ok_iff {position : Nat} {cs : List Char} {tokens : List Token} :
    scan position 0 cs = .ok tokens ↔ Laid position cs tokens := by
  constructor
  · intro h
    exact laid_of_scan h (Nat.zero_le _)
  · exact scan_of_laid

/-! ## Putting texts together -/

/-- What a text is put together from. -/
inductive Piece : List Char → Prop
  | blank {c : Char} (h : isBlank c = true) : Piece [c]
  | word {cs : List Char} (h : isWord cs = true) : Piece cs
  | symbol (s : Symbol) : Piece [s.char]
  | quoted (name : List Char) : Piece ('"' :: double '"' name ++ ['"'])

/-- The text is put together from pieces. -/
def Concatenated (cs : List Char) : Prop :=
  ∃ pieces : List (List Char), (∀ p ∈ pieces, Piece p) ∧ cs = pieces.flatten

theorem Concatenated.nil : Concatenated [] := ⟨[], by simp, rfl⟩

theorem Concatenated.cons {p cs : List Char} (hp : Piece p) (h : Concatenated cs) :
    Concatenated (p ++ cs) := by
  obtain ⟨pieces, hpieces, rfl⟩ := h
  exact ⟨p :: pieces, List.forall_mem_cons.2 ⟨hp, hpieces⟩, rfl⟩

theorem piece_of_whole {l : Lexeme} {rest : List Char} (h : Whole l rest) : Piece l.text := by
  cases h with
  | word hword => exact .word hword
  | quoted => exact .quoted _
  | symbol s => exact .symbol s

theorem concatenated_of_laid {position : Nat} {cs : List Char} {tokens : List Token}
    (h : Laid position cs tokens) : Concatenated cs := by
  induction h with
  | nil => exact .nil
  | blank hc h ih => exact .cons (.blank hc) ih
  | token hl h ih => exact .cons (piece_of_whole hl) ih

theorem isWordRest_of_isBlank {c : Char} (h : isBlank c = true) : isWordRest c = false := by
  refine Bool.eq_false_iff.2 fun hrest => ?_
  rw [isBlank_of_isWordRest hrest] at h
  cases h

theorem isWordRest_char (s : Symbol) : isWordRest s.char = false := by
  cases s <;> rfl

theorem isWord_append {v w : List Char} (hv : isWord v = true) (hw : isWord w = true) :
    isWord (v ++ w) = true := by
  cases v with
  | nil => exact hw
  | cons c v =>
    cases w with
    | nil => exact absurd hw (by decide)
    | cons d w =>
      obtain ⟨hc, hcs⟩ := Bool.and_eq_true_iff.1 hv
      obtain ⟨hd, hds⟩ := Bool.and_eq_true_iff.1 hw
      have hmore : (v ++ d :: w).all isWordRest = true := by
        rw [List.all_append, hcs, List.all_cons, isWordRest_of_isWordStart hd, hds]
        rfl
      exact Bool.and_eq_true_iff.2 ⟨hc, hmore⟩

/-- A word before a text that can be cut goes into its first token, if that is a
word as well and stands at once, and is a token otherwise. -/
theorem Laid.cons_word {position : Nat} {w cs : List Char} {tokens : List Token}
    (hw : isWord w = true) (h : Laid (position + w.length) cs tokens) :
    ∃ tokens', Laid position (w ++ cs) tokens' := by
  have alone (hcs : Apart isWordRest cs) : ∃ tokens', Laid position (w ++ cs) tokens' :=
    ⟨_, .token (.word hw hcs) h⟩
  generalize hoffset : position + w.length = offset at h
  cases h with
  | nil => exact alone apart_nil
  | blank hc => exact alone (apart_cons _ (isWordRest_of_isBlank hc))
  | @token _ _ rest more hl hrest =>
    cases hl with
    | @word v _ hv hstop =>
      refine ⟨⟨.word (w ++ v), position⟩ :: more, ?_⟩
      have hlength : position + (w ++ v).length = offset + v.length := by
        rw [List.length_append]
        omega
      show Laid position (w ++ (v ++ rest)) _
      rw [← List.append_assoc]
      refine .token (.word (isWord_append hw hv) hstop) ?_
      show Laid (position + (w ++ v).length) rest _
      rw [hlength]
      exact hrest
    | quoted => exact alone (apart_cons _)
    | symbol s => exact alone (apart_cons _ (isWordRest_char s))

/-- A quoted name before a text that can be cut goes into its first token, if
that is a quoted name as well and stands at once, and is a token otherwise. -/
theorem Laid.cons_quoted {position : Nat} {name cs : List Char} {tokens : List Token}
    (h : Laid (position + (Lexeme.quoted name).text.length) cs tokens) :
    ∃ tokens', Laid position ((Lexeme.quoted name).text ++ cs) tokens' := by
  have alone (hcs : Apart (· == '"') cs) :
      ∃ tokens', Laid position ((Lexeme.quoted name).text ++ cs) tokens' :=
    ⟨_, .token (.quoted hcs) h⟩
  generalize hoffset : position + (Lexeme.quoted name).text.length = offset at h
  cases h with
  | nil => exact alone apart_nil
  | blank hc => exact alone (apart_cons _ (beq_eq_false_iff_ne.2 (ne_quote_of_isBlank hc)))
  | @token _ _ rest more hl hrest =>
    rcases hl.eq_quoted_or_apart rest with ⟨next, rfl⟩ | happart
    · cases hl with
      | quoted hstop =>
        -- the quote that ends the one and the quote that opens the other are a pair
        have hjoin : (Lexeme.quoted name).text ++ (Lexeme.quoted next).text =
            (Lexeme.quoted (name ++ '"' :: next)).text := by
          simp [Lexeme.text, double_append, double_cons_self]
        have hlength : position + (Lexeme.quoted (name ++ '"' :: next)).text.length =
            offset + (Lexeme.quoted next).text.length := by
          rw [← hjoin, List.length_append]
          omega
        refine ⟨⟨.quoted (name ++ '"' :: next), position⟩ :: more, ?_⟩
        rw [← List.append_assoc, hjoin]
        refine .token (.quoted hstop) ?_
        rw [hlength]
        exact hrest
    · exact alone happart

/-- What is put together from pieces can be laid out as tokens. -/
theorem exists_laid_of_concatenated {cs : List Char} (h : Concatenated cs) (position : Nat) :
    ∃ tokens, Laid position cs tokens := by
  obtain ⟨pieces, hpieces, rfl⟩ := h
  induction pieces generalizing position with
  | nil => exact ⟨[], .nil position⟩
  | cons p pieces ih =>
    obtain ⟨hp, hmore⟩ := List.forall_mem_cons.1 hpieces
    obtain ⟨tokens, htokens⟩ := ih (position + p.length) hmore
    cases hp with
    | blank hc => exact ⟨tokens, .blank hc htokens⟩
    | word hw => exact htokens.cons_word hw
    | symbol s => exact ⟨_, .token (.symbol s _) htokens⟩
    | quoted name => exact Laid.cons_quoted htokens

/-! ## What can be read off a layout -/

theorem Whole.text_ne_nil {l : Lexeme} {rest : List Char} (h : Whole l rest) : l.text ≠ [] := by
  obtain ⟨c, cs, htext, -, -⟩ := lexemeAt?_of_whole h
  rw [htext]
  exact List.cons_ne_nil c cs

theorem Laid.le_position {position : Nat} {cs : List Char} {tokens : List Token}
    (h : Laid position cs tokens) : ∀ t ∈ tokens, position ≤ t.position := by
  induction h with
  | nil => simp
  | blank hc h ih =>
    intro t ht
    exact Nat.le_of_succ_le (ih t ht)
  | token hl h ih =>
    intro t ht
    rcases List.mem_cons.1 ht with rfl | ht
    · exact Nat.le_refl _
    · exact Nat.le_trans (Nat.le_add_right _ _) (ih t ht)

/-- A token ends before the next one begins. -/
theorem Laid.pairwise {position : Nat} {cs : List Char} {tokens : List Token}
    (h : Laid position cs tokens) :
    tokens.Pairwise fun t u => t.position + t.text.length ≤ u.position := by
  induction h with
  | nil => exact .nil
  | blank hc h ih => exact ih
  | token hl h ih => exact .cons h.le_position ih

/-- The text is what a token is written with, where the token stands, and the
token is whole there. -/
theorem Laid.exists_split {position : Nat} {cs : List Char} {tokens : List Token}
    (h : Laid position cs tokens) : ∀ t ∈ tokens, ∃ before after,
      cs = before ++ (t.text ++ after) ∧ t.position = position + before.length ∧
        Whole t.lexeme after := by
  induction h with
  | nil => simp
  | @blank position c cs tokens hc h ih =>
    intro t ht
    obtain ⟨before, after, rfl, hposition, hwhole⟩ := ih t ht
    refine ⟨c :: before, after, rfl, ?_, hwhole⟩
    rw [hposition, List.length_cons]
    omega
  | @token position l rest tokens hl h ih =>
    intro t ht
    rcases List.mem_cons.1 ht with rfl | ht
    · exact ⟨[], rest, rfl, rfl, hl⟩
    · obtain ⟨before, after, rfl, hposition, hwhole⟩ := ih t ht
      refine ⟨l.text ++ before, after, by rw [List.append_assoc], ?_, hwhole⟩
      rw [hposition, List.length_append, Nat.add_assoc]

/-- Does the token stand in the text `cs`, whose first character is at
`position`? -/
def Token.StandsIn (t : Token) (position : Nat) (cs : List Char) : Prop :=
  position ≤ t.position ∧ t.text <+: cs.drop (t.position - position)

/-- Every token that is read stands in the text. -/
theorem standsIn_of_scan {position : Nat} {cs : List Char} {tokens : List Token}
    (h : scan position 0 cs = .ok tokens) : ∀ t ∈ tokens, t.StandsIn position cs := by
  intro t ht
  obtain ⟨before, after, rfl, hposition, -⟩ := (scan_eq_ok_iff.1 h).exists_split t ht
  refine ⟨by omega, after, ?_⟩
  rw [hposition, Nat.add_sub_cancel_left, List.drop_left]

/-- Does the token stand at the place `i`? -/
def Token.Covers (t : Token) (i : Nat) : Prop := t.position ≤ i ∧ i < t.position + t.text.length

/-- Where no token stands there is white space. -/
theorem Laid.isBlank_of_uncovered {position : Nat} {cs : List Char} {tokens : List Token}
    (h : Laid position cs tokens) {i : Nat} {c : Char} (hc : cs[i]? = some c)
    (huncovered : ∀ t ∈ tokens, ¬ t.Covers (position + i)) : isBlank c = true := by
  induction h generalizing i with
  | nil => cases hc
  | @blank position d cs tokens hd h ih =>
    cases i with
    | zero =>
      obtain rfl : d = c := Option.some.inj hc
      exact hd
    | succ i =>
      refine ih hc ?_
      rwa [Nat.add_right_comm]
  | @token position l rest tokens hl h ih =>
    obtain ⟨hfirst, hmore⟩ := List.forall_mem_cons.1 huncovered
    -- the place is behind the first token
    have hle : l.text.length ≤ i := by
      refine Nat.le_of_not_lt fun hlt => hfirst ⟨Nat.le_add_right _ _, ?_⟩
      exact Nat.add_lt_add_left hlt position
    rw [List.getElem?_append_right hle] at hc
    refine ih hc ?_
    rwa [Nat.add_assoc, Nat.add_sub_cancel' hle]

/-- A list of tokens that is as good as the text: nothing is lost but white
space, nothing is in two tokens, and no token could go on. -/
structure CutInto (cs : List Char) (tokens : List Token) : Prop where
  stands : ∀ t ∈ tokens, t.text <+: cs.drop t.position
  increasing : tokens.Pairwise fun t u => t.position < u.position
  apart : tokens.Pairwise fun t u => t.position + t.text.length ≤ u.position
  blank_between : ∀ i c, cs[i]? = some c → (∀ t ∈ tokens, ¬ t.Covers i) → isBlank c = true
  word_whole : ∀ t ∈ tokens, ∀ w, t.lexeme = .word w →
    isWord w = true ∧ Apart isWordRest (cs.drop (t.position + t.text.length))
  quoted_whole : ∀ t ∈ tokens, ∀ name, t.lexeme = .quoted name →
    Apart (· == '"') (cs.drop (t.position + t.text.length))

theorem cutInto_of_laid {cs : List Char} {tokens : List Token} (h : Laid 0 cs tokens) :
    CutInto cs tokens := by
  -- a token with what is before it and what is behind it
  have hsplit (t : Token) (ht : t ∈ tokens) : ∃ after, cs.drop t.position = t.text ++ after ∧
      cs.drop (t.position + t.text.length) = after ∧ Whole t.lexeme after := by
    obtain ⟨before, after, rfl, hposition, hwhole⟩ := h.exists_split t ht
    rw [Nat.zero_add] at hposition
    refine ⟨after, ?_, ?_, hwhole⟩
    · rw [hposition, List.drop_left]
    · rw [← List.drop_drop, hposition, List.drop_left, List.drop_left]
  refine ⟨?_, ?_, h.pairwise, ?_, ?_, ?_⟩
  · intro t ht
    obtain ⟨after, hdrop, -, -⟩ := hsplit t ht
    exact ⟨after, hdrop.symm⟩
  · refine h.pairwise.imp_of_mem fun {t u} ht _ hle => ?_
    obtain ⟨after, -, -, hwhole⟩ := hsplit t ht
    have hpos : 0 < t.text.length := List.length_pos_iff.2 hwhole.text_ne_nil
    omega
  · intro i c hc huncovered
    exact h.isBlank_of_uncovered hc (by simpa using huncovered)
  · intro t ht w hw
    obtain ⟨after, -, hafter, hwhole⟩ := hsplit t ht
    rw [hw] at hwhole
    rw [hafter]
    cases hwhole with
    | word hword hrest => exact ⟨hword, hrest⟩
  · intro t ht name hname
    obtain ⟨after, -, hafter, hwhole⟩ := hsplit t ht
    rw [hname] at hwhole
    rw [hafter]
    cases hwhole with
    | quoted hrest => exact hrest

/-- A text can be cut exactly if it is put together from white space, words,
symbols and quoted names. What it is cut into is a list of tokens that is as
good as the text, with one end behind them that stands where the text ends. -/
theorem items_exact (cs : List Char) :
    ((∃ found, items cs = .ok found) ↔ Concatenated cs) ∧
      ∀ found, items cs = .ok found → ∃ tokens,
        found = tokens.map .token ++ [.textEnd cs.length] ∧ CutInto cs tokens := by
  refine ⟨⟨?_, ?_⟩, ?_⟩
  · intro h
    obtain ⟨found, hfound⟩ := h
    obtain ⟨tokens, htokens, -⟩ := map_eq_ok_iff.1 hfound
    exact concatenated_of_laid (scan_eq_ok_iff.1 htokens)
  · intro h
    obtain ⟨tokens, hlaid⟩ := exists_laid_of_concatenated h 0
    exact ⟨_, map_eq_ok_iff.2 ⟨tokens, scan_eq_ok_iff.2 hlaid, rfl⟩⟩
  · intro found hfound
    obtain ⟨tokens, htokens, rfl⟩ := map_eq_ok_iff.1 hfound
    exact ⟨tokens, rfl, cutInto_of_laid (scan_eq_ok_iff.1 htokens)⟩

end AuthKeyspace.Cql
