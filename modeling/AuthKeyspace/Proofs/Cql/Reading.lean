import AuthKeyspace.Proofs.Cql.Grammar
import AuthKeyspace.Proofs.Cql.Word
import AuthKeyspace.Proofs.Except

/-!
# Readers accept exactly the grammar

`Statement.ofTokens` gives a statement if and only if the tokens derive it in
the grammar of `Proofs/Cql/Grammar` (`ofTokens_eq_ok_iff`). A reader of one
token gets a lemma that says when it succeeds, any other reader two: what it
has read forms what it gives (`_sound`), and what forms a value is read as that
value (`_complete`).

Two things have to be said besides. A list of further items ends where no comma
follows, so its lemma says that the rest starts with none; this is what makes
the split of the tokens unique. And a scalar may not be followed by an opening
angle, which the readers behind a type never leave there: each of them wants a
comma, a closing angle, a closing parenthesis or a keyword.

The bounds of the recursive readers never cut anything short. A type of at most
`bound` tokens is read with that bound, since each constructor takes a token
before it asks for its arguments; every definition takes a token as well.
-/

namespace AuthKeyspace.Cql

open Reader

theorem missing_ne_ok {α : Type} {what : Expectation} {tokens : List Token} {a : α} :
    (missing what tokens : Except GrammarError α) ≠ .ok a := by
  simp [missing]

/-! ## Words, symbols and names -/

theorem startsWithKeyword_iff {k : String} {tokens : List Token} :
    startsWithKeyword k tokens = true ↔
      ∃ t rest, tokens = t :: rest ∧ KeywordForm k t.lexeme := by
  cases tokens with
  | nil => simp [startsWithKeyword]
  | cons t rest => simp [startsWithKeyword, isKeyword_iff]

theorem startsWithSymbol_iff {s : Symbol} {tokens : List Token} :
    startsWithSymbol s tokens = true ↔ ∃ t rest, tokens = t :: rest ∧ t.lexeme = .symbol s := by
  cases tokens with
  | nil => simp [startsWithSymbol]
  | cons t rest => simp [startsWithSymbol, isSymbol_iff]

theorem keyword_eq_ok_iff {k : String} {tokens rest : List Token} :
    keyword k tokens = .ok rest ↔ ∃ t, tokens = t :: rest ∧ KeywordForm k t.lexeme := by
  unfold keyword
  constructor
  · intro h
    split at h
    · next hs =>
      obtain ⟨t, ts, rfl, hk⟩ := startsWithKeyword_iff.1 hs
      cases h
      exact ⟨t, rfl, hk⟩
    · exact absurd h missing_ne_ok
  · intro h
    obtain ⟨t, rfl, hk⟩ := h
    rw [if_pos (startsWithKeyword_iff.2 ⟨t, rest, rfl, hk⟩)]
    rfl

theorem symbol_eq_ok_iff {s : Symbol} {tokens rest : List Token} :
    symbol s tokens = .ok rest ↔ ∃ t, tokens = t :: rest ∧ t.lexeme = .symbol s := by
  unfold symbol
  constructor
  · intro h
    split at h
    · next hs =>
      obtain ⟨t, ts, rfl, ht⟩ := startsWithSymbol_iff.1 hs
      cases h
      exact ⟨t, rfl, ht⟩
    · exact absurd h missing_ne_ok
  · intro h
    obtain ⟨t, rfl, ht⟩ := h
    rw [if_pos (startsWithSymbol_iff.2 ⟨t, rest, rfl, ht⟩)]
    rfl

theorem name_eq_ok_iff {what : Expectation} {tokens rest : List Token} {n : String} :
    name what tokens = .ok (n, rest) ↔ ∃ t, tokens = t :: rest ∧ NameForm t.lexeme n := by
  unfold name
  constructor
  · intro h
    split at h
    · exact absurd h missing_ne_ok
    · next t ts =>
      split at h
      · next m hm =>
        cases h
        exact ⟨t, rfl, name?_iff.1 hm⟩
      · exact absurd h missing_ne_ok
  · intro h
    obtain ⟨t, rfl, hn⟩ := h
    simp only [name?_iff.2 hn]

theorem keyword_cons {k : String} {t : Token} (ht : KeywordForm k t.lexeme) (rest : List Token) :
    keyword k (t :: rest) = .ok rest :=
  keyword_eq_ok_iff.2 ⟨t, rfl, ht⟩

theorem symbol_cons {s : Symbol} {t : Token} (ht : t.lexeme = .symbol s) (rest : List Token) :
    symbol s (t :: rest) = .ok rest :=
  symbol_eq_ok_iff.2 ⟨t, rfl, ht⟩

theorem name_cons {what : Expectation} {t : Token} {n : String} (ht : NameForm t.lexeme n)
    (rest : List Token) : name what (t :: rest) = .ok (n, rest) :=
  name_eq_ok_iff.2 ⟨t, rfl, ht⟩

theorem startsWithSymbol_cons {s s' : Symbol} {t : Token} (ht : t.lexeme = .symbol s')
    (rest : List Token) : startsWithSymbol s (t :: rest) = (s' == s) := by
  simp [startsWithSymbol, ht, Lexeme.isSymbol]

/-- A name is no symbol. -/
theorem startsWithSymbol_of_nameForm {s : Symbol} {t : Token} {n : String}
    (ht : NameForm t.lexeme n) (rest : List Token) : startsWithSymbol s (t :: rest) = false := by
  obtain ⟨l, position⟩ := t
  cases ht <;> rfl

theorem furtherNames_sound {what : Expectation} {tokens rest : List Token} {ns : List String}
    (h : furtherNames what tokens = .ok (ns, rest)) :
    ∃ used, tokens = used ++ rest ∧ FurtherNamesForm (lexemes used) ns := by
  fun_induction furtherNames what tokens generalizing ns rest with
  | case1 =>
    cases h
    exact ⟨[], rfl, .nil⟩
  | case2 => exact absurd h missing_ne_ok
  | case3 => exact absurd h missing_ne_ok
  | case4 t hcomma u ts n hname ih =>
    obtain ⟨⟨ns', rest'⟩, hmore, hret⟩ := bind_eq_ok_iff.1 h
    cases hret
    obtain ⟨used, rfl, hns⟩ := ih hmore
    refine ⟨t :: u :: used, rfl, ?_⟩
    rw [lexemes_cons, lexemes_cons, isSymbol_iff.1 hcomma]
    exact .cons (name?_iff.1 hname) hns
  | case5 t ts hcomma =>
    cases h
    exact ⟨[], rfl, .nil⟩

/-- Further names are read as long as commas follow. -/
theorem furtherNames_complete (what : Expectation) {ls : List Lexeme} {ns : List String}
    (h : FurtherNamesForm ls ns) {used : List Token} (hused : lexemes used = ls) (rest : List Token)
    (hrest : startsWithSymbol .comma rest = false) :
    furtherNames what (used ++ rest) = .ok (ns, rest) := by
  induction h generalizing used with
  | nil =>
    rw [lexemes_eq_nil_iff.1 hused, List.nil_append]
    cases rest with
    | nil => rfl
    | cons t ts =>
      have hcomma : ¬ t.lexeme.isSymbol .comma = true := by simpa [startsWithSymbol] using hrest
      rw [furtherNames.eq_def]
      exact if_neg hcomma
  | cons hn hns ih =>
    obtain ⟨comma, us, rfl, hcomma, hus⟩ := lexemes_eq_cons_iff.1 hused
    obtain ⟨t, vs, rfl, rfl, hvs⟩ := lexemes_eq_cons_iff.1 hus
    rw [List.cons_append, List.cons_append, furtherNames, if_pos (isSymbol_iff.2 hcomma)]
    simp only [name?_iff.2 hn]
    rw [ih hvs]
    rfl

/-! ## Types -/

/-- A bare word that names a scalar is a type by itself, unless an opening
angle follows. -/
theorem type_scalar {bound : Nat} {t : Token} {rest : List Token} {s : ScalarType}
    (hs : ScalarForm t.lexeme s) (hrest : startsWithSymbol .openAngle rest = false) :
    type (bound + 1) (t :: rest) = .ok (.scalar s, rest) := by
  obtain ⟨l, position⟩ := t
  cases l with
  | quoted | symbol => cases hs
  | word cs =>
    rw [type.eq_def]
    simp only [ofWord?_foldCase_iff.2 hs, hrest]
    rfl

/-- Behind a bare word that names a constructor arguments are read, and the
constructor is applied to them. -/
theorem type_constructor {bound : Nat} {t o : Token} {ts : List Token} {c : TypeConstructor}
    (hc : ConstructorForm t.lexeme c) (ho : o.lexeme = .symbol .openAngle) :
    type (bound + 1) (t :: o :: ts) = (do
      let (first, rest) ← type bound ts
      let (more, rest) ← furtherTypes bound rest
      let rest ← symbol .closeAngle rest
      match c.apply first more with
      | .ok formed => return (formed, rest)
      | .error fault => .error ⟨.unfitType fault, some t⟩) := by
  obtain ⟨l, position⟩ := t
  cases l with
  | quoted | symbol => cases hc
  | word cs =>
    rw [type.eq_def]
    simp only [ofWord?_foldCase_of_constructor hc, constructor_ofWord?_foldCase_iff.2 hc,
      symbol_cons ho]
    rfl

/-- A bare word that names a constructor is a type with the arguments behind
it, if it takes them. -/
theorem type_formed {bound : Nat} {t o e : Token} {ts us rest : List Token} {c : TypeConstructor}
    {first ty : DataType} {more : List DataType} (hc : ConstructorForm t.lexeme c)
    (ho : o.lexeme = .symbol .openAngle) (hfirst : type bound ts = .ok (first, us))
    (hmore : furtherTypes bound us = .ok (more, e :: rest))
    (he : e.lexeme = .symbol .closeAngle) (hty : Formed c (first :: more) ty) :
    type (bound + 1) (t :: o :: ts) = .ok (ty, rest) := by
  rw [type_constructor hc ho]
  simp only [ok_bind, hfirst, hmore, symbol_cons he, apply_eq_ok_iff.2 hty]
  rfl

/-- What `type` and `furtherTypes` read forms what they give, whatever the
bound is. -/
theorem types_sound (bound : Nat) :
    (∀ {tokens rest : List Token} {ty : DataType}, type bound tokens = .ok (ty, rest) →
      ∃ used, tokens = used ++ rest ∧ TypeForm (lexemes used) ty) ∧
    (∀ {tokens rest : List Token} {tys : List DataType},
      furtherTypes bound tokens = .ok (tys, rest) →
      ∃ used, tokens = used ++ rest ∧ FurtherTypesForm (lexemes used) tys) := by
  induction bound with
  | zero =>
    constructor
    · intro tokens rest ty h
      cases tokens <;> exact absurd h (by simp [type, missing])
    · intro tokens rest tys h
      refine ⟨[], ?_, ?_⟩ <;> cases tokens <;> cases h
      · rfl
      · rfl
      · exact .nil
      · exact .nil
  | succ bound ih =>
    -- both halves at once, since a constructor reads its arguments with the bound below
    obtain ⟨ihType, ihFurther⟩ := ih
    constructor
    · intro tokens rest ty h
      cases tokens with
      | nil => exact absurd h (by simp [type, missing])
      | cons t ts =>
        rw [type.eq_def] at h
        cases hl : t.lexeme with
        | quoted | symbol => simp [hl, missing] at h
        | word cs =>
          simp only [hl] at h
          split at h
          · next s hs =>
            -- a scalar, refused only before an opening angle
            split at h
            · cases h
            · cases h
              have hform := TypeForm.scalar (ofWord?_foldCase_iff.1 hs)
              rw [← hl] at hform
              exact ⟨[t], rfl, hform⟩
          · cases h
          · next c hs hc =>
            -- a constructor: angle, first argument, further ones, angle
            obtain ⟨ts₁, hopen, h₁⟩ := bind_eq_ok_iff.1 h
            obtain ⟨⟨first, ts₂⟩, hfirst, h₂⟩ := bind_eq_ok_iff.1 h₁
            obtain ⟨⟨more, ts₃⟩, hmore, h₃⟩ := bind_eq_ok_iff.1 h₂
            obtain ⟨ts₄, hclose, h₄⟩ := bind_eq_ok_iff.1 h₃
            obtain ⟨o, rfl, ho⟩ := symbol_eq_ok_iff.1 hopen
            obtain ⟨us, rfl, hus⟩ := ihType hfirst
            obtain ⟨vs, rfl, hvs⟩ := ihFurther hmore
            obtain ⟨e, rfl, he⟩ := symbol_eq_ok_iff.1 hclose
            split at h₄
            · next formed hformed =>
              cases h₄
              refine ⟨t :: o :: (us ++ (vs ++ [e])), by simp, ?_⟩
              have hform := TypeForm.formed (constructor_ofWord?_foldCase_iff.1 hc) hus hvs
                (apply_eq_ok_iff.1 hformed)
              simpa [hl, ho, he] using hform
            · cases h₄
    · intro tokens rest tys h
      cases tokens with
      | nil =>
        cases h
        exact ⟨[], rfl, .nil⟩
      | cons t ts =>
        rw [furtherTypes] at h
        split at h
        · next hcomma =>
          obtain ⟨⟨first, ts₁⟩, hfirst, h₁⟩ := bind_eq_ok_iff.1 h
          obtain ⟨⟨more, ts₂⟩, hmore, h₂⟩ := bind_eq_ok_iff.1 h₁
          cases h₂
          obtain ⟨us, rfl, hus⟩ := ihType hfirst
          obtain ⟨vs, rfl, hvs⟩ := ihFurther hmore
          refine ⟨t :: (us ++ vs), by simp, ?_⟩
          rw [lexemes_cons, lexemes_append, isSymbol_iff.1 hcomma]
          exact .cons hus hvs
        · cases h
          exact ⟨[], rfl, .nil⟩

/-- The tokens of a constructor with arguments: its word, the angles, and between
them those of the first argument and those of the others. -/
theorem exists_enclosed {used : List Token} {l : Lexeme} {ls ms : List Lexeme}
    (hused : lexemes used =
      l :: .symbol .openAngle :: (ls ++ (ms ++ [.symbol .closeAngle]))) :
    ∃ t o xs ys e, used = t :: o :: (xs ++ (ys ++ [e])) ∧ t.lexeme = l ∧
      o.lexeme = .symbol .openAngle ∧ lexemes xs = ls ∧ lexemes ys = ms ∧
      e.lexeme = .symbol .closeAngle := by
  obtain ⟨t, us, rfl, ht, hus⟩ := lexemes_eq_cons_iff.1 hused
  obtain ⟨o, vs, rfl, ho, hvs⟩ := lexemes_eq_cons_iff.1 hus
  obtain ⟨xs, ws, rfl, hxs, hws⟩ := lexemes_eq_append_iff.1 hvs
  obtain ⟨ys, zs, rfl, hys, hzs⟩ := lexemes_eq_append_iff.1 hws
  obtain ⟨e, es, rfl, he, hes⟩ := lexemes_eq_cons_iff.1 hzs
  obtain rfl := lexemes_eq_nil_iff.1 hes
  exact ⟨t, o, xs, ys, e, rfl, ht, ho, hxs, hys, he⟩

/-- Behind a type in a list of arguments there is a comma or what follows the
list. -/
theorem openAngle_of_comma {vs rest : List Token}
    (hcomma : ∀ l ∈ (lexemes vs).head?, l = .symbol .comma)
    (hrest : startsWithSymbol .openAngle rest = false) :
    startsWithSymbol .openAngle (vs ++ rest) = false := by
  cases vs with
  | nil => exact hrest
  | cons v vs => exact startsWithSymbol_cons (hcomma v.lexeme rfl) _

theorem comma_of_furtherTypesForm {ms : List Lexeme} {ts : List DataType}
    (h : FurtherTypesForm ms ts) : ∀ l ∈ ms.head?, l = .symbol .comma := by
  cases h <;> simp

/-- Types of the grammar are read, with any bound that is no less than their
number of tokens. -/
theorem types_complete (bound : Nat) :
    (∀ {ls : List Lexeme} {ty : DataType}, TypeForm ls ty → ∀ {used rest : List Token},
      lexemes used = ls → used.length ≤ bound → startsWithSymbol .openAngle rest = false →
      type bound (used ++ rest) = .ok (ty, rest)) ∧
    (∀ {ls : List Lexeme} {tys : List DataType}, FurtherTypesForm ls tys →
      ∀ {used rest : List Token}, lexemes used = ls → used.length ≤ bound →
      startsWithSymbol .openAngle rest = false → startsWithSymbol .comma rest = false →
      furtherTypes bound (used ++ rest) = .ok (tys, rest)) := by
  induction bound with
  | zero =>
    constructor
    · intro ls ty h used rest hused hbound hrest
      have hnil : used = [] := List.eq_nil_of_length_eq_zero (by omega)
      subst hnil
      cases h <;> cases hused
    · intro ls tys h used rest hused hbound hrest hcomma
      have hnil : used = [] := List.eq_nil_of_length_eq_zero (by omega)
      subst hnil
      cases h with
      | cons => cases hused
      | nil => cases rest <;> rfl
  | succ bound ih =>
    obtain ⟨ihType, ihFurther⟩ := ih
    constructor
    · intro ls ty h used rest hused hbound hrest
      cases h with
      | scalar hs =>
        obtain ⟨t, us, rfl, rfl, hus⟩ := lexemes_eq_cons_iff.1 hused
        rw [lexemes_eq_nil_iff.1 hus]
        exact type_scalar hs hrest
      | formed hc ht hts hty =>
        obtain ⟨t, o, xs, ys, e, rfl, rfl, ho, hxs, hys, he⟩ := exists_enclosed hused
        simp only [List.length_cons, List.length_append, List.length_nil] at hbound
        -- the word and the opening angle are used up, so the bound below is enough for the rest
        have hangle : startsWithSymbol .openAngle (e :: rest) = false :=
          startsWithSymbol_cons he rest
        have hcomma := comma_of_furtherTypesForm hts
        rw [← hys] at hcomma
        have hfirst := ihType ht hxs (by omega) (openAngle_of_comma hcomma hangle)
        have hmore := ihFurther hts hys (by omega) hangle (startsWithSymbol_cons he rest)
        simpa using type_formed hc ho hfirst hmore he hty
    · intro ls tys h used rest hused hbound hrest hcomma
      cases h with
      | nil =>
        rw [lexemes_eq_nil_iff.1 hused, List.nil_append]
        cases rest with
        | nil => rfl
        | cons t ts => rw [furtherTypes, if_neg (by simpa [startsWithSymbol] using hcomma)]
      | cons ht hts =>
        obtain ⟨comma, us, rfl, hc, hus⟩ := lexemes_eq_cons_iff.1 hused
        obtain ⟨xs, ys, rfl, hxs, hys⟩ := lexemes_eq_append_iff.1 hus
        simp only [List.length_cons, List.length_append] at hbound
        have hcomma' := comma_of_furtherTypesForm hts
        rw [← hys] at hcomma'
        rw [List.cons_append, List.append_assoc, furtherTypes, if_pos (isSymbol_iff.2 hc),
          ihType ht hxs (by omega) (openAngle_of_comma hcomma' hrest)]
        simp only [ok_bind, ihFurther hts hys (by omega) hrest hcomma]
        rfl

/-! ## Keys -/

theorem keyColumns_sound {tokens rest : List Token} {key : PrimaryKey}
    (h : keyColumns tokens = .ok (key, rest)) :
    ∃ used, tokens = used ++ rest ∧ KeyForm (lexemes used) key := by
  obtain ⟨ts, hopen, h₁⟩ := bind_eq_ok_iff.1 h
  obtain ⟨o, rfl, ho⟩ := symbol_eq_ok_iff.1 hopen
  split at h₁
  · next hcomposite =>
    -- a second parenthesis: the partition has its own
    obtain ⟨p, us, rfl, hp⟩ := startsWithSymbol_iff.1 hcomposite
    obtain ⟨⟨n, ts₁⟩, hname, h₂⟩ := bind_eq_ok_iff.1 h₁
    obtain ⟨⟨ns, ts₂⟩, hmore, h₃⟩ := bind_eq_ok_iff.1 h₂
    obtain ⟨ts₃, hclose, h₄⟩ := bind_eq_ok_iff.1 h₃
    obtain ⟨⟨clustering, ts₄⟩, hclustering, h₅⟩ := bind_eq_ok_iff.1 h₄
    obtain ⟨ts₅, hend, h₆⟩ := bind_eq_ok_iff.1 h₅
    cases h₆
    obtain ⟨t, rfl, hn⟩ := name_eq_ok_iff.1 hname
    obtain ⟨vs, rfl, hvs⟩ := furtherNames_sound hmore
    obtain ⟨c, rfl, hc⟩ := symbol_eq_ok_iff.1 hclose
    obtain ⟨ws, rfl, hws⟩ := furtherNames_sound hclustering
    obtain ⟨e, rfl, he⟩ := symbol_eq_ok_iff.1 hend
    refine ⟨o :: p :: t :: (vs ++ c :: (ws ++ [e])), by simp, ?_⟩
    have hform := KeyForm.composite hn hvs hws
    simpa [ho, hp, hc, he] using hform
  · obtain ⟨⟨n, ts₁⟩, hname, h₂⟩ := bind_eq_ok_iff.1 h₁
    obtain ⟨⟨clustering, ts₂⟩, hclustering, h₃⟩ := bind_eq_ok_iff.1 h₂
    obtain ⟨ts₃, hend, h₄⟩ := bind_eq_ok_iff.1 h₃
    cases h₄
    obtain ⟨t, rfl, hn⟩ := name_eq_ok_iff.1 hname
    obtain ⟨ws, rfl, hws⟩ := furtherNames_sound hclustering
    obtain ⟨e, rfl, he⟩ := symbol_eq_ok_iff.1 hend
    refine ⟨o :: t :: (ws ++ [e]), by simp, ?_⟩
    have hform := KeyForm.simple hn hws
    simpa [ho, he] using hform

theorem keyColumns_complete {used : List Token} {key : PrimaryKey}
    (h : KeyForm (lexemes used) key) (rest : List Token) :
    keyColumns (used ++ rest) = .ok (key, rest) := by
  generalize hls : lexemes used = ls at h
  cases h with
  | simple hn hc =>
    obtain ⟨o, us, rfl, ho, hus⟩ := lexemes_eq_cons_iff.1 hls
    obtain ⟨t, vs, rfl, rfl, hvs⟩ := lexemes_eq_cons_iff.1 hus
    obtain ⟨ws, es, rfl, hws, hes⟩ := lexemes_eq_append_iff.1 hvs
    obtain ⟨e, es', rfl, he, hes'⟩ := lexemes_eq_cons_iff.1 hes
    obtain rfl := lexemes_eq_nil_iff.1 hes'
    have hmore := furtherNames_complete .clusteringColumn hc hws (e :: rest)
      (startsWithSymbol_cons he rest)
    simp only [keyColumns, List.cons_append, List.append_assoc, List.nil_append, symbol_cons ho,
      ok_bind, startsWithSymbol_of_nameForm hn, name_cons hn, hmore, symbol_cons he]
    rfl
  | composite hn hns hc =>
    obtain ⟨o, us, rfl, ho, hus⟩ := lexemes_eq_cons_iff.1 hls
    obtain ⟨p, us', rfl, hp, hus'⟩ := lexemes_eq_cons_iff.1 hus
    obtain ⟨t, vs, rfl, rfl, hvs⟩ := lexemes_eq_cons_iff.1 hus'
    obtain ⟨ws, cs, rfl, hws, hcs⟩ := lexemes_eq_append_iff.1 hvs
    obtain ⟨c, cs', rfl, hc', hcs'⟩ := lexemes_eq_cons_iff.1 hcs
    obtain ⟨xs, es, rfl, hxs, hes⟩ := lexemes_eq_append_iff.1 hcs'
    obtain ⟨e, es', rfl, he, hes'⟩ := lexemes_eq_cons_iff.1 hes
    obtain rfl := lexemes_eq_nil_iff.1 hes'
    have hpartition := furtherNames_complete .partitionColumn hns hws
      (c :: (xs ++ e :: rest)) (startsWithSymbol_cons hc' _)
    have hclustering := furtherNames_complete .clusteringColumn hc hxs (e :: rest)
      (startsWithSymbol_cons he rest)
    simp only [keyColumns, List.cons_append, List.append_assoc, List.nil_append, symbol_cons ho,
      ok_bind, startsWithSymbol_cons hp, List.tail_cons, name_cons hn, hpartition, symbol_cons hc',
      hclustering, symbol_cons he]
    rfl

/-! ## Definitions -/

/-- No type begins with the word KEY, so the words PRIMARY KEY never open a
column. -/
theorem not_key_of_typeForm {l : Lexeme} {ls : List Lexeme} {ty : DataType}
    (h : TypeForm (l :: ls) ty) : ¬ KeywordForm "KEY" l := by
  intro hkey
  cases hkey with
  | @word cs hupper =>
    have hlower : cs.map Char.toLower = "key".toList := by
      rw [← map_toLower_map_toUpper, hupper]
      decide
    cases h with
    | @scalar _ s hs =>
      cases hs with
      | word hs =>
        rw [hs] at hlower
        cases s <;> exact absurd hlower (by decide)
      | varchar hs =>
        rw [hs] at hlower
        exact absurd hlower (by decide)
    | @formed _ _ _ c _ _ _ hc =>
      cases hc with
      | word hc =>
        rw [hc] at hlower
        cases c <;> exact absurd hlower (by decide)

theorem columnDefinition_sound {tokens rest : List Token} {d : Definition}
    (h : columnDefinition tokens = .ok (d, rest)) :
    ∃ used, tokens = used ++ rest ∧ DefinitionForm used d := by
  obtain ⟨⟨n, ts⟩, hname, h₁⟩ := bind_eq_ok_iff.1 h
  obtain ⟨t, rfl, hn⟩ := name_eq_ok_iff.1 hname
  obtain ⟨⟨ty, us⟩, htype, h₂⟩ := bind_eq_ok_iff.1 h₁
  obtain ⟨vs, rfl, hty⟩ := (types_sound _).1 htype
  dsimp only at h₂
  split at h₂
  · next hprimary =>
    -- the column is the key by itself
    obtain ⟨p, ws, rfl, hp⟩ := startsWithKeyword_iff.1 hprimary
    obtain ⟨ws', hkey, h₃⟩ := bind_eq_ok_iff.1 h₂
    obtain ⟨k, rfl, hk⟩ := keyword_eq_ok_iff.1 hkey
    cases h₃
    exact ⟨t :: (vs ++ [p, k]), by simp, .keyColumn hn hty hp hk⟩
  · cases h₂
    exact ⟨t :: vs, rfl, .column hn hty⟩

theorem definition_sound {tokens rest : List Token} {d : Definition}
    (h : definition tokens = .ok (d, rest)) :
    ∃ used, tokens = used ++ rest ∧ DefinitionForm used d := by
  unfold definition at h
  split at h
  · next hboth =>
    obtain ⟨hprimary, hkey⟩ := Bool.and_eq_true_iff.1 hboth
    obtain ⟨p, ts, rfl, hp⟩ := startsWithKeyword_iff.1 hprimary
    obtain ⟨k, us, rfl, hk⟩ := startsWithKeyword_iff.1 hkey
    obtain ⟨⟨key, vs⟩, hcolumns, h₁⟩ := bind_eq_ok_iff.1 h
    cases h₁
    obtain ⟨ws, rfl, hform⟩ := keyColumns_sound hcolumns
    exact ⟨p :: k :: ws, rfl, .key hp hk hform⟩
  · exact columnDefinition_sound h

/-- A name with a type behind it does not open a key clause. -/
theorem definition_of_column {t : Token} {ts rest : List Token} {ty : DataType}
    (hty : TypeForm (lexemes ts) ty) :
    definition (t :: (ts ++ rest)) = columnDefinition (t :: (ts ++ rest)) := by
  obtain ⟨u, us, rfl⟩ : ∃ u us, ts = u :: us := by
    cases ts with
    | nil => cases hty
    | cons u us => exact ⟨u, us, rfl⟩
  -- the column may be called primary, but its type is not the word KEY
  have hkey : ¬ startsWithKeyword "KEY" (u :: us ++ rest) = true := fun h =>
    not_key_of_typeForm hty (isKeyword_iff.1 h)
  unfold definition
  rw [if_neg]
  intro h
  exact hkey (Bool.and_eq_true_iff.1 h).2

/-- A definition is read if what is behind it neither goes on with its type nor
makes it the key. -/
theorem definition_complete {used rest : List Token} {d : Definition} (h : DefinitionForm used d)
    (hangle : startsWithSymbol .openAngle rest = false)
    (hprimary : startsWithKeyword "PRIMARY" rest = false) :
    definition (used ++ rest) = .ok (d, rest) := by
  cases h with
  | @key p k ts key hp hk hkey =>
    have hboth : (startsWithKeyword "PRIMARY" (p :: k :: (ts ++ rest)) &&
        startsWithKeyword "KEY" (k :: (ts ++ rest))) = true :=
      Bool.and_eq_true_iff.2 ⟨isKeyword_iff.2 hp, isKeyword_iff.2 hk⟩
    show definition (p :: k :: (ts ++ rest)) = _
    rw [definition, List.tail_cons, if_pos hboth, List.tail_cons, keyColumns_complete hkey]
    rfl
  | @column t ts n ty hn hty =>
    have htype : type (ts ++ rest).length (ts ++ rest) = .ok (ty, rest) :=
      (types_complete _).1 hty rfl (by simp) hangle
    show definition (t :: (ts ++ rest)) = _
    rw [definition_of_column hty]
    simp only [columnDefinition, name_cons hn, ok_bind, htype, hprimary]
    rfl
  | @keyColumn t p k ts n ty hn hty hp hk =>
    -- what ends the type is the word PRIMARY
    have hafter : startsWithSymbol .openAngle (p :: k :: rest) = false := by
      obtain ⟨l, position⟩ := p
      cases hp
      rfl
    have htype : type (ts ++ p :: k :: rest).length (ts ++ p :: k :: rest) =
        .ok (ty, p :: k :: rest) :=
      (types_complete _).1 hty rfl (by simp) hafter
    have hstart : startsWithKeyword "PRIMARY" (p :: k :: rest) = true := isKeyword_iff.2 hp
    have hsplit : t :: (ts ++ [p, k]) ++ rest = t :: (ts ++ p :: k :: rest) := by simp
    rw [hsplit, definition_of_column hty]
    simp only [columnDefinition, name_cons hn, ok_bind, htype, hstart, List.tail_cons,
      keyword_cons hk]
    rfl

/-! ## Lists of definitions -/

theorem definitions_sound {bound : Nat} {tokens rest : List Token} {ds : List Definition}
    (h : definitions bound tokens = .ok (ds, rest)) :
    ∃ used, tokens = used ++ rest ∧ DefinitionsForm used ds := by
  induction bound generalizing tokens ds with
  | zero =>
    obtain ⟨⟨d, ts⟩, hd, h₁⟩ := bind_eq_ok_iff.1 h
    cases h₁
    obtain ⟨us, rfl, hform⟩ := definition_sound hd
    exact ⟨us, rfl, .one hform⟩
  | succ bound ih =>
    obtain ⟨⟨d, ts⟩, hd, h₁⟩ := bind_eq_ok_iff.1 h
    obtain ⟨us, rfl, hform⟩ := definition_sound hd
    dsimp only at h₁
    split at h₁
    · next hcomma =>
      -- a comma promises another definition
      obtain ⟨comma, vs, rfl, hc⟩ := startsWithSymbol_iff.1 hcomma
      obtain ⟨⟨more, ws⟩, hmore, h₂⟩ := bind_eq_ok_iff.1 h₁
      cases h₂
      obtain ⟨xs, hxs, hforms⟩ := ih hmore
      obtain rfl : vs = xs ++ _ := hxs
      exact ⟨us ++ comma :: xs, by simp, .cons hform hc hforms⟩
    · cases h₁
      exact ⟨us, rfl, .one hform⟩

/-- Behind a definition stands a symbol, and that ends it. -/
theorem definition_before_symbol {used : List Token} {d : Definition} {t : Token} {s : Symbol}
    (h : DefinitionForm used d) (ht : t.lexeme = .symbol s) (hs : s ≠ .openAngle)
    (rest : List Token) :
    definition (used ++ t :: rest) = .ok (d, t :: rest) := by
  refine definition_complete h ?_ ?_
  · rw [startsWithSymbol_cons ht]
    simpa using hs
  · show t.lexeme.isKeyword "PRIMARY" = false
    rw [ht]
    rfl

theorem definitions_complete {used : List Token} {ds : List Definition}
    (h : DefinitionsForm used ds) {t : Token} (ht : t.lexeme = .symbol .closeParen)
    (rest : List Token) {bound : Nat} (hbound : used.length ≤ bound) :
    definitions bound (used ++ t :: rest) = .ok (ds, t :: rest) := by
  induction h generalizing bound with
  | @one ts d hd =>
    have hfirst := definition_before_symbol hd ht (by decide) rest
    cases bound with
    | zero => simp only [definitions, hfirst, ok_bind]; rfl
    | succ bound =>
      simp only [definitions, hfirst, ok_bind, startsWithSymbol_cons ht]
      rfl
  | @cons ts us comma d ds hd hcomma hds ih =>
    have hfirst := definition_before_symbol hd hcomma (by decide) (us ++ t :: rest)
    have hsplit : ts ++ comma :: us ++ t :: rest = ts ++ comma :: (us ++ t :: rest) := by simp
    simp only [List.length_append, List.length_cons] at hbound
    cases bound with
    | zero => omega
    | succ bound =>
      rw [hsplit]
      simp only [definitions, hfirst, ok_bind, startsWithSymbol_cons hcomma, List.tail_cons,
        ih (show us.length ≤ bound by omega)]
      rfl

/-! ## Statements -/

theorem guard_sound {tokens rest : List Token} {guarded : Bool}
    (h : Reader.guard tokens = .ok (guarded, rest)) :
    ∃ used, tokens = used ++ rest ∧ GuardForm used guarded ∧
      (guarded = false → startsWithKeyword "IF" rest = false) := by
  unfold Reader.guard at h
  split at h
  · next hif =>
    obtain ⟨i, ts, rfl, hi⟩ := startsWithKeyword_iff.1 hif
    obtain ⟨us, hnot, h₁⟩ := bind_eq_ok_iff.1 h
    obtain ⟨vs, hexists, h₂⟩ := bind_eq_ok_iff.1 h₁
    obtain ⟨n, rfl, hn⟩ := keyword_eq_ok_iff.1 hnot
    obtain ⟨e, rfl, he⟩ := keyword_eq_ok_iff.1 hexists
    cases h₂
    exact ⟨[i, n, e], rfl, .present hi hn he, fun h => absurd h (by decide)⟩
  · next hif =>
    cases h
    exact ⟨[], rfl, .absent, fun _ => Bool.eq_false_iff.2 hif⟩

theorem guard_complete {used rest : List Token} {guarded : Bool} (h : GuardForm used guarded)
    (hif : guarded = false → startsWithKeyword "IF" rest = false) :
    Reader.guard (used ++ rest) = .ok (guarded, rest) := by
  cases h with
  | absent => simp only [Reader.guard, List.nil_append, hif rfl]; rfl
  | @present i n e hi hn he =>
    have hstart : startsWithKeyword "IF" (i :: n :: e :: rest) = true := isKeyword_iff.2 hi
    show Reader.guard (i :: n :: e :: rest) = _
    simp only [Reader.guard, hstart, List.tail_cons, keyword_cons hn, keyword_cons he, ok_bind]
    rfl

theorem qualifiedName_sound {tokens rest : List Token} {keyspace? : Option String} {n : String}
    (h : qualifiedName tokens = .ok ((keyspace?, n), rest)) :
    ∃ used, tokens = used ++ rest ∧ QualifiedForm used keyspace? n := by
  obtain ⟨⟨first, ts⟩, hfirst, h₁⟩ := bind_eq_ok_iff.1 h
  obtain ⟨t, rfl, ht⟩ := name_eq_ok_iff.1 hfirst
  dsimp only at h₁
  split at h₁
  · next hdot =>
    obtain ⟨dot, us, rfl, hd⟩ := startsWithSymbol_iff.1 hdot
    obtain ⟨⟨second, vs⟩, hsecond, h₂⟩ := bind_eq_ok_iff.1 h₁
    obtain ⟨u, rfl, hu⟩ := name_eq_ok_iff.1 hsecond
    cases h₂
    exact ⟨[t, dot, u], rfl, .qualified ht hd hu⟩
  · cases h₁
    exact ⟨[t], rfl, .plain ht⟩

theorem qualifiedName_complete {used rest : List Token} {keyspace? : Option String} {n : String}
    (h : QualifiedForm used keyspace? n) (hdot : startsWithSymbol .dot rest = false) :
    qualifiedName (used ++ rest) = .ok ((keyspace?, n), rest) := by
  cases h with
  | @plain t n hn =>
    show qualifiedName (t :: rest) = _
    simp only [qualifiedName, name_cons hn, ok_bind, hdot]
    rfl
  | @qualified t dot u k n hk hd hn =>
    show qualifiedName (t :: dot :: u :: rest) = _
    simp only [qualifiedName, name_cons hk, ok_bind, startsWithSymbol_cons hd, List.tail_cons,
      name_cons hn]
    rfl

theorem endOfStatement_eq_ok_iff {tokens : List Token} :
    endOfStatement tokens = .ok () ↔ EndForm tokens := by
  constructor
  · intro h
    unfold endOfStatement at h
    split at h
    · cases h
    · dsimp only at h
      split at h
      · next hsemicolon =>
        obtain ⟨t, ts, rfl, ht⟩ := startsWithSymbol_iff.1 hsemicolon
        split at h
        · next hend =>
          obtain rfl : ts = [] := List.isEmpty_iff.1 hend
          exact .semicolon ht
        · exact absurd h missing_ne_ok
      · split at h
        · next hend =>
          obtain rfl := List.isEmpty_iff.1 hend
          exact .none
        · exact absurd h missing_ne_ok
  · intro h
    cases h with
    | none => rfl
    | @semicolon t ht =>
      obtain ⟨l, position⟩ := t
      obtain rfl : l = .symbol .semicolon := ht
      rfl

/-- A statement is read from exactly the tokens that derive it. -/
theorem ofTokens_eq_ok_iff {tokens : List Token} {s : Statement} :
    Statement.ofTokens tokens = .ok s ↔ StatementForm tokens s := by
  constructor
  · intro h
    obtain ⟨ts₁, hcreate, h₁⟩ := bind_eq_ok_iff.1 h
    obtain ⟨ts₂, htable, h₂⟩ := bind_eq_ok_iff.1 h₁
    obtain ⟨⟨guarded, ts₃⟩, hguard, h₃⟩ := bind_eq_ok_iff.1 h₂
    obtain ⟨⟨⟨keyspace?, n⟩, ts₄⟩, hname, h₄⟩ := bind_eq_ok_iff.1 h₃
    obtain ⟨ts₅, hopen, h₅⟩ := bind_eq_ok_iff.1 h₄
    obtain ⟨⟨ds, ts₆⟩, hds, h₆⟩ := bind_eq_ok_iff.1 h₅
    obtain ⟨ts₇, hclose, h₇⟩ := bind_eq_ok_iff.1 h₆
    obtain ⟨_, hend, h₈⟩ := bind_eq_ok_iff.1 h₇
    cases h₈
    -- from the front, each step says what it took off the tokens
    obtain ⟨create, rfl, hc⟩ := keyword_eq_ok_iff.1 hcreate
    obtain ⟨table, rfl, ht⟩ := keyword_eq_ok_iff.1 htable
    obtain ⟨gs, rfl, hg, hif⟩ := guard_sound hguard
    obtain ⟨qs, rfl, hq⟩ := qualifiedName_sound hname
    obtain ⟨o, rfl, ho⟩ := symbol_eq_ok_iff.1 hopen
    obtain ⟨us, rfl, hd⟩ := definitions_sound hds
    obtain ⟨e, rfl, he⟩ := symbol_eq_ok_iff.1 hclose
    refine .mk hc ht hg hq ?_ ho hd he (endOfStatement_eq_ok_iff.1 hend)
    intro hunguarded q hmem hkeyword
    -- the reader saw that no IF follows, and the first name is what follows
    have hno := hif hunguarded
    cases hq with
    | plain | qualified =>
      obtain rfl := Option.some.inj hmem
      exact absurd (isKeyword_iff.2 hkeyword) (Bool.eq_false_iff.1 hno)
  · intro h
    cases h with
    | @mk create table o c gs qs ds es guarded keyspace? n definitions hcreate htable hguard hname
        hif hopen hds hclose hend =>
      have hnoGuard : guarded = false →
          startsWithKeyword "IF" (qs ++ o :: (ds ++ c :: es)) = false := by
        intro hunguarded
        cases hname with
        | plain | qualified =>
          exact Bool.eq_false_iff.2 fun h => hif hunguarded _ rfl (isKeyword_iff.1 h)
      have hdefinitions := definitions_complete hds hclose es
        (show ds.length ≤ (ds ++ c :: es).length by simp)
      simp only [Statement.ofTokens, keyword_cons hcreate, keyword_cons htable, ok_bind,
        guard_complete hguard hnoGuard,
        qualifiedName_complete hname (startsWithSymbol_cons hopen _), symbol_cons hopen,
        hdefinitions, symbol_cons hclose, endOfStatement_eq_ok_iff.2 hend]
      rfl

end AuthKeyspace.Cql
