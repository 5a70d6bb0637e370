import AuthKeyspace.Proofs.Cql.Alike
import AuthKeyspace.Proofs.Cql.Reading

/-!
# Where readers see faults

A reader that fails names a token, or says that none was left. Whatever it was
given to read is the end of a list of tokens, and so is whatever it leaves; hence
every token that is named is one of the list (`located_ofTokens`).

Most faults are seen at the token to be read next, and tell what was found there.
Two are about a word that was read before: one that names no type is `SeenIn` the
tokens as it is, and one that names a constructor is reported only when all of
its arguments have been read and turn out not to be what it takes (`Misfit`).

`Located` is what one reader keeps, and `Located.bind` carries it along a chain of
them. There is one lemma for each reader, and those that call themselves go by
the induction that shows what they read to be sound.
-/

namespace AuthKeyspace.Cql

open Reader

/-! ## What is seen where -/

/-- Does a fault tell what was found where something else could have stood? -/
def GrammarFault.tellsFound : GrammarFault → Bool
  | .expected _ | .optionsNotSupported | .takesNoParameters _ => true
  | .unknownType | .unfitType _ => false

/-- The tokens begin with the word of a constructor and arguments of which it makes
no type, for the reason `fault`. -/
inductive Misfit : List Token → TypeFault → Prop
  | mk {w o e : Token} {xs ys rest : List Token} {c : TypeConstructor} {first : DataType}
      {more : List DataType} {fault : TypeFault} (hc : ConstructorForm w.lexeme c)
      (ho : o.lexeme = .symbol .openAngle) (hfirst : TypeForm (lexemes xs) first)
      (hmore : FurtherTypesForm (lexemes ys) more) (he : e.lexeme = .symbol .closeAngle)
      (hfault : Unformed c (first :: more) fault) :
      Misfit (w :: o :: (xs ++ (ys ++ e :: rest))) fault

/-- The error is about one of the tokens, or about there being no more. -/
inductive SeenIn (tokens : List Token) : GrammarError → Prop
  | next {fault : GrammarFault} {token? : Option Token} (hfault : fault.tellsFound = true)
      (htoken : ∀ t ∈ token?, t ∈ tokens) : SeenIn tokens ⟨fault, token?⟩
  | unknownType {t : Token} {cs : List Char} (ht : t ∈ tokens) (hword : t.lexeme = .word cs)
      (hscalar : ∀ s, ¬ ScalarForm t.lexeme s) (hconstructor : ∀ c, ¬ ConstructorForm t.lexeme c) :
      SeenIn tokens ⟨.unknownType, some t⟩
  | unfitType {w : Token} {rest : List Token} {fault : TypeFault} (hrest : w :: rest <:+ tokens)
      (hfault : Misfit (w :: rest) fault) : SeenIn tokens ⟨.unfitType fault, some w⟩

/-- What a run gives satisfies `P`, and if it fails the fault is seen in the
tokens. -/
inductive Located {α : Type} (tokens : List Token) (P : α → Prop) : Except GrammarError α → Prop
  | ok {a : α} (h : P a) : Located tokens P (.ok a)
  | error {e : GrammarError} (h : SeenIn tokens e) : Located tokens P (.error e)

/-- What is left when something has been read is the end of the tokens. -/
def LeavesEnd {α : Type} (tokens : List Token) (x : α × List Token) : Prop := x.2 <:+ tokens

section

variable {α β : Type} {tokens ts : List Token}

theorem Located.bind {P : α → Prop} {Q : β → Prop} {x : Except GrammarError α}
    {f : α → Except GrammarError β} (h : Located tokens P x)
    (hf : ∀ a, x = .ok a → P a → Located tokens Q (f a)) : Located tokens Q (x >>= f) := by
  cases h with
  | ok ha => exact hf _ rfl ha
  | error he => exact .error he

theorem Located.seenIn {P : α → Prop} {e : GrammarError} (h : Located tokens P (.error e)) :
    SeenIn tokens e := by
  cases h with
  | error he => exact he

/-! ## Words, symbols and names -/

theorem head_mem_of_suffix (h : ts <:+ tokens) : ∀ t ∈ ts.head?, t ∈ tokens := by
  intro t ht
  exact h.subset (List.mem_of_mem_head? ht)

theorem located_missing {P : α → Prop} (what : Expectation) (h : ts <:+ tokens) :
    Located tokens P (missing what ts) := .error (.next rfl (head_mem_of_suffix h))

theorem located_keyword (k : String) (h : ts <:+ tokens) :
    Located tokens (· <:+ tokens) (keyword k ts) := by
  unfold keyword
  split
  · exact .ok ((List.tail_suffix ts).trans h)
  · exact located_missing _ h

theorem located_symbol (s : Symbol) (h : ts <:+ tokens) :
    Located tokens (· <:+ tokens) (symbol s ts) := by
  unfold symbol
  split
  · exact .ok ((List.tail_suffix ts).trans h)
  · exact located_missing _ h

theorem located_name (what : Expectation) (h : ts <:+ tokens) :
    Located tokens (LeavesEnd tokens) (name what ts) := by
  unfold name
  split
  · exact located_missing _ h
  · split
    · exact .ok ((List.suffix_cons _ _).trans h)
    · exact located_missing _ h

theorem located_furtherNames (what : Expectation) (h : ts <:+ tokens) :
    Located tokens (LeavesEnd tokens) (furtherNames what ts) := by
  fun_induction furtherNames what ts with
  | case1 => exact .ok h
  | case2 t => exact located_missing _ ((List.suffix_cons t _).trans h)
  | case3 t => exact located_missing _ ((List.suffix_cons t _).trans h)
  | case4 t hcomma u ts n hname ih =>
    have hrest : ts <:+ tokens := ((List.suffix_cons u ts).trans (List.suffix_cons t _)).trans h
    exact (ih hrest).bind fun _ _ hleft => .ok hleft
  | case5 => exact .ok h

/-! ## Types -/

/-- Arguments that a constructor does not take are reported at its word. -/
theorem located_apply {bound : Nat} {t : Token} {c : TypeConstructor}
    (hc : ConstructorForm t.lexeme c) (h : t :: ts <:+ tokens)
    (ihType : ∀ {us}, us <:+ tokens → Located tokens (LeavesEnd tokens) (type bound us))
    (ihFurther : ∀ {us}, us <:+ tokens →
      Located tokens (LeavesEnd tokens) (furtherTypes bound us)) :
    Located tokens (LeavesEnd tokens) (do
      let rest ← symbol .openAngle ts
      let (first, rest) ← type bound rest
      let (more, rest) ← furtherTypes bound rest
      let rest ← symbol .closeAngle rest
      match c.apply first more with
      | .ok formed => return (formed, rest)
      | .error fault => .error ⟨.unfitType fault, some t⟩ :
        Except GrammarError (DataType × List Token)) := by
  refine (located_symbol _ ((List.suffix_cons t ts).trans h)).bind fun ts₁ hopen h₁ => ?_
  refine (ihType h₁).bind fun ⟨first, ts₂⟩ hfirst h₂ => ?_
  refine (ihFurther h₂).bind fun ⟨more, ts₃⟩ hmore h₃ => ?_
  refine (located_symbol _ h₃).bind fun ts₄ hclose h₄ => ?_
  split
  · exact .ok h₄
  · next fault hfault =>
    -- by now everything behind the word has been read, so its tokens are known
    obtain ⟨o, rfl, ho⟩ := symbol_eq_ok_iff.1 hopen
    obtain ⟨xs, rfl, hxs⟩ := (types_sound bound).1 hfirst
    obtain ⟨ys, rfl, hys⟩ := (types_sound bound).2 hmore
    obtain ⟨e, rfl, he⟩ := symbol_eq_ok_iff.1 hclose
    exact .error (.unfitType h (.mk hc ho hxs hys he (unformed_of_apply hfault)))

theorem located_types (bound : Nat) :
    (∀ {ts}, ts <:+ tokens → Located tokens (LeavesEnd tokens) (type bound ts)) ∧
      ∀ {ts}, ts <:+ tokens → Located tokens (LeavesEnd tokens) (furtherTypes bound ts) := by
  induction bound with
  | zero =>
    constructor
    · intro ts h
      cases ts with
      | nil => exact located_missing .type h
      | cons t ts => exact located_missing .type h
    · intro ts h
      cases ts with
      | nil => exact .ok h
      | cons t ts => exact .ok h
  | succ bound ih =>
    obtain ⟨ihType, ihFurther⟩ := ih
    constructor
    · intro ts h
      cases ts with
      | nil => exact located_missing .type h
      | cons t ts =>
        have hrest : ts <:+ tokens := (List.suffix_cons t ts).trans h
        by_cases hword : ∃ cs, t.lexeme = .word cs
        · obtain ⟨cs, hl⟩ := hword
          rw [type.eq_def]
          simp only [hl]
          split
          · -- a scalar: an opening angle behind it is what is reported
            split
            · exact .error (.next rfl (head_mem_of_suffix hrest))
            · exact .ok hrest
          · next hs hc =>
            refine .error (.unknownType (h.subset List.mem_cons_self) hl ?_ ?_)
            · intro s hform
              rw [hl, ← ofWord?_foldCase_iff, hs] at hform
              cases hform
            · intro c hform
              rw [hl, ← constructor_ofWord?_foldCase_iff, hc] at hform
              cases hform
          · next c hs hc =>
            have hform : ConstructorForm t.lexeme c := by
              rw [hl]
              exact constructor_ofWord?_foldCase_iff.1 hc
            exact located_apply hform h ihType ihFurther
        · rw [type_of_not_word (by simpa using hword)]
          exact located_missing .type h
    · intro ts h
      cases ts with
      | nil => exact .ok h
      | cons t ts =>
        rw [furtherTypes]
        split
        · refine (ihType ((List.suffix_cons t ts).trans h)).bind ?_
          rintro ⟨first, ts₁⟩ - h₁
          refine (ihFurther h₁).bind ?_
          rintro ⟨more, ts₂⟩ - h₂
          exact .ok h₂
        · exact .ok h

/-! ## Definitions -/

theorem located_keyColumns (h : ts <:+ tokens) :
    Located tokens (LeavesEnd tokens) (keyColumns ts) := by
  refine (located_symbol _ h).bind fun ts₁ _ h₁ => ?_
  split
  · refine (located_name _ ((List.tail_suffix ts₁).trans h₁)).bind fun ⟨first, ts₂⟩ _ h₂ => ?_
    refine (located_furtherNames _ h₂).bind fun ⟨more, ts₃⟩ _ h₃ => ?_
    refine (located_symbol _ h₃).bind fun ts₄ _ h₄ => ?_
    refine (located_furtherNames _ h₄).bind fun ⟨clustering, ts₅⟩ _ h₅ => ?_
    exact (located_symbol _ h₅).bind fun ts₆ _ h₆ => .ok h₆
  · refine (located_name _ h₁).bind fun ⟨first, ts₂⟩ _ h₂ => ?_
    refine (located_furtherNames _ h₂).bind fun ⟨clustering, ts₃⟩ _ h₃ => ?_
    exact (located_symbol _ h₃).bind fun ts₄ _ h₄ => .ok h₄

theorem located_columnDefinition (h : ts <:+ tokens) :
    Located tokens (LeavesEnd tokens) (columnDefinition ts) := by
  refine (located_name _ h).bind fun ⟨n, ts₁⟩ _ h₁ => ?_
  refine ((located_types _).1 h₁).bind fun ⟨ty, ts₂⟩ _ h₂ => ?_
  dsimp only
  split
  · exact (located_keyword _ ((List.tail_suffix ts₂).trans h₂)).bind fun ts₃ _ h₃ => .ok h₃
  · exact .ok h₂

theorem located_definition (h : ts <:+ tokens) :
    Located tokens (LeavesEnd tokens) (definition ts) := by
  unfold definition
  split
  · have hrest : ts.tail.tail <:+ tokens :=
      ((List.tail_suffix ts.tail).trans (List.tail_suffix ts)).trans h
    exact (located_keyColumns hrest).bind fun ⟨key, ts₁⟩ _ h₁ => .ok h₁
  · exact located_columnDefinition h

theorem located_definitions (bound : Nat) (h : ts <:+ tokens) :
    Located tokens (LeavesEnd tokens) (definitions bound ts) := by
  induction bound generalizing ts with
  | zero => exact (located_definition h).bind fun ⟨only, ts₁⟩ _ h₁ => .ok h₁
  | succ bound ih =>
    refine (located_definition h).bind fun ⟨first, ts₁⟩ _ h₁ => ?_
    dsimp only
    split
    · exact (ih ((List.tail_suffix ts₁).trans h₁)).bind fun ⟨more, ts₂⟩ _ h₂ => .ok h₂
    · exact .ok h₁

/-! ## The statement -/

theorem located_guard (h : ts <:+ tokens) :
    Located tokens (LeavesEnd tokens) (Reader.guard ts) := by
  unfold Reader.guard
  split
  · refine (located_keyword _ ((List.tail_suffix ts).trans h)).bind fun ts₁ _ h₁ => ?_
    exact (located_keyword _ h₁).bind fun ts₂ _ h₂ => .ok h₂
  · exact .ok h

theorem located_qualifiedName (h : ts <:+ tokens) :
    Located tokens (LeavesEnd tokens) (qualifiedName ts) := by
  refine (located_name _ h).bind fun ⟨first, ts₁⟩ _ h₁ => ?_
  dsimp only
  split
  · refine (located_name _ ((List.tail_suffix ts₁).trans h₁)).bind fun ⟨second, ts₂⟩ _ h₂ => ?_
    exact .ok h₂
  · exact .ok h₁

theorem located_endOfStatement (h : ts <:+ tokens) :
    Located tokens (fun _ => True) (endOfStatement ts) := by
  unfold endOfStatement
  split
  · exact .error (.next rfl (head_mem_of_suffix h))
  · have hrest : (if startsWithSymbol .semicolon ts then ts.tail else ts) <:+ tokens := by
      split
      · exact (List.tail_suffix ts).trans h
      · exact h
    dsimp only
    generalize (if startsWithSymbol .semicolon ts then ts.tail else ts) = us at hrest
    split
    · exact .ok trivial
    · exact located_missing _ hrest

end

/-- Reading a statement fails with what is seen in its tokens. -/
theorem located_ofTokens (tokens : List Token) :
    Located tokens (fun _ => True) (Statement.ofTokens tokens) := by
  refine (located_keyword _ List.suffix_rfl).bind fun ts₁ _ h₁ => ?_
  refine (located_keyword _ h₁).bind fun ts₂ _ h₂ => ?_
  refine (located_guard h₂).bind fun ⟨guarded, ts₃⟩ _ h₃ => ?_
  refine (located_qualifiedName h₃).bind fun ⟨⟨keyspace?, n⟩, ts₄⟩ _ h₄ => ?_
  refine (located_symbol _ h₄).bind fun ts₅ _ h₅ => ?_
  refine (located_definitions _ h₅).bind fun ⟨ds, ts₆⟩ _ h₆ => ?_
  refine (located_symbol _ h₆).bind fun ts₇ _ h₇ => ?_
  exact (located_endOfStatement h₇).bind fun _ _ _ => .ok trivial

theorem seenIn_of_ofTokens {tokens : List Token} {e : GrammarError}
    (h : Statement.ofTokens tokens = .error e) : SeenIn tokens e := by
  have hlocated := located_ofTokens tokens
  rw [h] at hlocated
  exact hlocated.seenIn

end AuthKeyspace.Cql
