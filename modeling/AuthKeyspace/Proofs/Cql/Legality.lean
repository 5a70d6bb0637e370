import AuthKeyspace.Proofs.Cql.Printing
import AuthKeyspace.Proofs.Cql.RoundTrip

/-!
# Legal types are those that are read back

Any type can be written, also one that no statement can declare. A type is
`Legal` if no part of it, at whatever depth, freezes a scalar or is a
collection that holds a collection directly. What is written for a type is read
as that type if it is legal, and refused if it is not (`type_cql_exact`).

A part is looked at when its arguments have been read. So if any argument is
not legal, the reader has failed before (`type_refused`), with an error that is
about a part of that argument; and if all arguments are legal, the type itself
is what the reader fails at, if at all. Either way the error stands at the word
of a part that is `Unfit` (`RefusedAt`).

Both halves go by induction on the parts of a type, which is what
`DataType.induction_arguments` is for: it leaves one case instead of one for
each constructor and one for each list of elements.
-/

namespace AuthKeyspace.Cql

open Reader

/-! ## Parts of a type -/

namespace DataType

/-- The types of which a type is made. -/
def arguments : DataType → List DataType
  | .scalar _ => []
  | .set e | .list e | .frozen e => [e]
  | .map k v => [k, v]
  | .tuple t ts => t :: ts

/-- The type `s` stands in another one at some depth, or is that type. -/
inductive PartOf (s : DataType) : DataType → Prop
  | self : PartOf s s
  | inside {a t : DataType} (ha : a ∈ t.arguments) (h : PartOf s a) : PartOf s t

mutual
/-- What holds of a type whenever it holds of its arguments holds of all
types. -/
theorem induction_arguments {P : DataType → Prop}
    (step : ∀ t, (∀ a ∈ t.arguments, P a) → P t) : ∀ t, P t
  | .scalar s => step _ (by simp [arguments])
  | .set e => step _ (List.forall_mem_singleton.2 (induction_arguments step e))
  | .list e => step _ (List.forall_mem_singleton.2 (induction_arguments step e))
  | .map k v => step _ (List.forall_mem_cons.2
      ⟨induction_arguments step k, List.forall_mem_singleton.2 (induction_arguments step v)⟩)
  | .tuple t ts => step _ (List.forall_mem_cons.2
      ⟨induction_arguments step t, induction_elements step ts⟩)
  | .frozen e => step _ (List.forall_mem_singleton.2 (induction_arguments step e))
theorem induction_elements {P : DataType → Prop}
    (step : ∀ t, (∀ a ∈ t.arguments, P a) → P t) : ∀ ts : List DataType, ∀ a ∈ ts, P a
  | [] => by simp
  | t :: ts => List.forall_mem_cons.2 ⟨induction_arguments step t, induction_elements step ts⟩
end

/-- The type does not freeze a scalar, and if it is a collection it holds no
collection directly. -/
structure Fits (t : DataType) : Prop where
  frozen : ∀ s, t ≠ .frozen (.scalar s)
  cells : t.isMultiCell = true → ∀ a ∈ t.arguments, a.isMultiCell = false

/-- All parts of the type fit. -/
def Legal (t : DataType) : Prop := ∀ s, PartOf s t → s.Fits

theorem legal_iff {t : DataType} : t.Legal ↔ t.Fits ∧ ∀ a ∈ t.arguments, a.Legal := by
  constructor
  · intro h
    exact ⟨h t .self, fun a ha s hs => h s (.inside ha hs)⟩
  · rintro ⟨hfits, harguments⟩ s hs
    cases hs with
    | self => exact hfits
    | inside ha hs => exact harguments _ ha s hs

theorem legal_scalar (s : ScalarType) : (DataType.scalar s).Legal := by
  refine legal_iff.2 ⟨⟨?_, ?_⟩, ?_⟩
  · intro x hx
    cases hx
  · intro hcells
    cases hcells
  · intro a ha
    cases ha

/-- The part `t`, made by the constructor `c`, does not fit, and this is what is
wrong with it. -/
inductive Unfit : DataType → TypeConstructor → TypeFault → Prop
  | frozenScalar (s : ScalarType) : Unfit (.frozen (.scalar s)) .frozen (.frozenScalar s)
  | nested {t a : DataType} {c : TypeConstructor} (hhead : t.head = .inr c)
      (ht : t.isMultiCell = true) (ha : a ∈ t.arguments) (hcells : a.isMultiCell = true) :
      Unfit t c (.nestedCollection c)

/-- A type that is no scalar has a first argument, and is written as its
constructor with all of them. -/
theorem exists_arguments {t : DataType} {c : TypeConstructor} (h : t.head = .inr c) :
    ∃ first more, t.arguments = first :: more ∧
      t.lexemes = formedLexemes c (first.lexemes ++ furtherLexemes more) := by
  cases t with
  | scalar => cases h
  | set e | list e | frozen e =>
    cases h
    exact ⟨e, [], rfl, by simp [lexemes, furtherLexemes]⟩
  | map k v =>
    cases h
    exact ⟨k, [v], rfl, by simp [lexemes, furtherLexemes]⟩
  | tuple t ts =>
    cases h
    exact ⟨t, ts, rfl, by rw [lexemes]⟩

/-- A type that fits is formed of its arguments. -/
theorem formed_of_fits {t : DataType} {c : TypeConstructor} (h : t.head = .inr c)
    (hfits : t.Fits) : Formed c t.arguments t := by
  have hcells := hfits.cells
  cases t with
  | scalar => cases h
  | set e =>
    cases h
    exact .set (hcells rfl e (by simp [arguments]))
  | list e =>
    cases h
    exact .list (hcells rfl e (by simp [arguments]))
  | map k v =>
    cases h
    exact .map (hcells rfl k (by simp [arguments])) (hcells rfl v (by simp [arguments]))
  | tuple t ts =>
    cases h
    exact .tuple t ts
  | frozen e =>
    cases h
    exact .frozen fun s hs => hfits.frozen s (by rw [hs])

/-- Something is wrong with a type that does not fit. -/
theorem exists_unfit {t : DataType} {c : TypeConstructor} (h : t.head = .inr c)
    (hfits : ¬ t.Fits) : ∃ fault, Unfit t c fault := by
  by_cases hfrozen : ∃ s, t = .frozen (.scalar s)
  · obtain ⟨s, rfl⟩ := hfrozen
    cases h
    exact ⟨_, .frozenScalar s⟩
  · by_cases hcells : t.isMultiCell = true ∧ ∃ a ∈ t.arguments, a.isMultiCell = true
    · obtain ⟨ht, a, ha, hnested⟩ := hcells
      exact ⟨_, .nested h ht ha hnested⟩
    · refine absurd ⟨fun s hs => hfrozen ⟨s, hs⟩, fun ht a ha => ?_⟩ hfits
      exact Bool.eq_false_iff.2 fun hnested => hcells ⟨ht, a, ha, hnested⟩

/-- The constructor refuses the arguments of a type that does not fit, and says
what is wrong. -/
theorem apply_of_unfit {t first : DataType} {more : List DataType} {c : TypeConstructor}
    {fault : TypeFault} (h : Unfit t c fault) (harguments : t.arguments = first :: more) :
    c.apply first more = .error fault := by
  cases h with
  | frozenScalar s =>
    cases harguments
    rfl
  | @nested _ a c hhead ht ha hcells =>
    cases t with
    | set e | list e =>
      cases hhead
      cases harguments
      obtain rfl := List.mem_singleton.1 ha
      simp [TypeConstructor.apply, hcells]
    | map k v =>
      cases hhead
      cases harguments
      rcases List.mem_cons.1 ha with rfl | hv
      · simp [TypeConstructor.apply, hcells]
      · obtain rfl := List.mem_singleton.1 hv
        simp [TypeConstructor.apply, hcells]
    | scalar | tuple | frozen => cases ht

end DataType

open DataType

/-! ## Legal types are read -/

theorem furtherTypesForm_of_forall {ts : List DataType} (h : ∀ t ∈ ts, TypeForm t.lexemes t) :
    FurtherTypesForm (furtherLexemes ts) ts := by
  induction ts with
  | nil => exact .nil
  | cons t ts ih =>
    obtain ⟨ht, hts⟩ := List.forall_mem_cons.1 h
    exact .cons ht (ih hts)

/-- A legal type is written as a phrase of the grammar. -/
theorem typeForm_of_legal : ∀ t : DataType, t.Legal → TypeForm t.lexemes t := by
  refine induction_arguments fun t ih hlegal => ?_
  obtain ⟨hfits, hlegals⟩ := legal_iff.1 hlegal
  cases hhead : t.head with
  | inl s =>
    cases t with
    | scalar => exact .scalar (.word (by cases s <;> cases hhead <;> rfl))
    | set | list | map | tuple | frozen => cases hhead
  | inr c =>
    have hformed := formed_of_fits hhead hfits
    obtain ⟨first, more, harguments, -⟩ := exists_arguments hhead
    rw [harguments] at hformed ih hlegals
    have hforms : ∀ a ∈ first :: more, TypeForm a.lexemes a := fun a ha => ih a ha (hlegals a ha)
    obtain ⟨hfirst, hmore⟩ := List.forall_mem_cons.1 hforms
    exact typeForm_of_formed hfirst (furtherTypesForm_of_forall hmore) hformed

/-- A legal type is read, unless an opening angle follows. -/
theorem type_of_legal {t : DataType} (h : t.Legal) {used rest : List Token} {bound : Nat}
    (hused : lexemes used = t.lexemes) (hbound : used.length ≤ bound)
    (hrest : startsWithSymbol .openAngle rest = false) :
    type bound (used ++ rest) = .ok (t, rest) :=
  (types_complete bound).1 (typeForm_of_legal t h) hused hbound hrest

theorem furtherTypes_of_legal {ts : List DataType} (h : ∀ t ∈ ts, t.Legal) {used rest : List Token}
    {bound : Nat} (hused : lexemes used = furtherLexemes ts) (hbound : used.length ≤ bound)
    (hangle : startsWithSymbol .openAngle rest = false)
    (hcomma : startsWithSymbol .comma rest = false) :
    furtherTypes bound (used ++ rest) = .ok (ts, rest) :=
  (types_complete bound).2 (furtherTypesForm_of_forall fun t ht => typeForm_of_legal t (h t ht))
    hused hbound hangle hcomma

/-! ## Other types are refused -/

/-- The error is about a part of the type that does not fit, and stands at a token
that is the word of that part. -/
def RefusedAt (t : DataType) (tokens : List Token) (e : GrammarError) : Prop :=
  ∃ s c fault token, PartOf s t ∧ Unfit s c fault ∧ token ∈ tokens ∧
    token.lexeme = .word c.word.toList ∧ e = ⟨.unfitType fault, some token⟩

theorem RefusedAt.mono {t : DataType} {used tokens : List Token} {e : GrammarError}
    (h : RefusedAt t used e) (hused : used ⊆ tokens) : RefusedAt t tokens e := by
  obtain ⟨s, c, fault, token, hs, hunfit, htoken, hword, he⟩ := h
  exact ⟨s, c, fault, token, hs, hunfit, hused htoken, hword, he⟩

/-- An error about an argument is about a part of the type. -/
theorem RefusedAt.inside {a t : DataType} {tokens : List Token} {e : GrammarError}
    (h : RefusedAt a tokens e) (ha : a ∈ t.arguments) : RefusedAt t tokens e := by
  obtain ⟨s, c, fault, token, hs, hrefused⟩ := h
  exact ⟨s, c, fault, token, .inside ha hs, hrefused⟩

/-- Whatever the bound and whatever stands behind it, the type is refused. -/
def IsRefused (t : DataType) : Prop :=
  ∀ {used : List Token} (rest : List Token) {bound : Nat}, lexemes used = t.lexemes →
    used.length ≤ bound → ∃ e, type bound (used ++ rest) = .error e ∧ RefusedAt t used e

theorem openAngle_of_furtherLexemes {ts : List DataType} {used rest : List Token}
    (hused : lexemes used = furtherLexemes ts)
    (hrest : startsWithSymbol .openAngle rest = false) :
    startsWithSymbol .openAngle (used ++ rest) = false := by
  refine openAngle_of_comma ?_ hrest
  rw [hused]
  cases ts <;> simp [furtherLexemes]

/-- A constructor with a first argument that is refused is refused. -/
theorem type_of_first_refused {bound : Nat} {w o : Token} {ts : List Token} {c : TypeConstructor}
    {e : GrammarError} (hc : ConstructorForm w.lexeme c) (ho : o.lexeme = .symbol .openAngle)
    (hfirst : type bound ts = .error e) : type (bound + 1) (w :: o :: ts) = .error e := by
  rw [type_constructor hc ho, hfirst]
  rfl

/-- A constructor with a further argument that is refused is refused. -/
theorem type_of_more_refused {bound : Nat} {w o : Token} {ts us : List Token}
    {c : TypeConstructor} {first : DataType} {e : GrammarError} (hc : ConstructorForm w.lexeme c)
    (ho : o.lexeme = .symbol .openAngle) (hfirst : type bound ts = .ok (first, us))
    (hmore : furtherTypes bound us = .error e) : type (bound + 1) (w :: o :: ts) = .error e := by
  rw [type_constructor hc ho]
  simp only [hfirst, ok_bind, hmore]
  rfl

/-- A constructor that does not take its arguments is refused at its word. -/
theorem type_of_unfit {bound : Nat} {w o a : Token} {ts us rest : List Token}
    {c : TypeConstructor} {first : DataType} {more : List DataType} {fault : TypeFault}
    (hc : ConstructorForm w.lexeme c) (ho : o.lexeme = .symbol .openAngle)
    (hfirst : type bound ts = .ok (first, us))
    (hmore : furtherTypes bound us = .ok (more, a :: rest)) (ha : a.lexeme = .symbol .closeAngle)
    (hfault : c.apply first more = .error fault) :
    type (bound + 1) (w :: o :: ts) = .error ⟨.unfitType fault, some w⟩ := by
  rw [type_constructor hc ho]
  simp only [hfirst, ok_bind, hmore, symbol_cons ha, hfault]

/-- A list of types is refused at the first that is. -/
theorem furtherTypes_refused {ts : List DataType} (h : ∀ t ∈ ts, ¬ t.Legal → IsRefused t)
    (hts : ∃ t ∈ ts, ¬ t.Legal) {used rest : List Token} {bound : Nat}
    (hused : lexemes used = furtherLexemes ts) (hbound : used.length ≤ bound)
    (hrest : startsWithSymbol .openAngle rest = false) :
    ∃ e, furtherTypes bound (used ++ rest) = .error e ∧ ∃ t ∈ ts, RefusedAt t used e := by
  induction ts generalizing used bound with
  | nil =>
    obtain ⟨t, ht, -⟩ := hts
    cases ht
  | cons t ts ih =>
    obtain ⟨hfirst, hmore⟩ := List.forall_mem_cons.1 h
    obtain ⟨comma, us, rfl, hcomma, hus⟩ := lexemes_eq_cons_iff.1 hused
    obtain ⟨xs, ys, rfl, hxs, hys⟩ := lexemes_eq_append_iff.1 hus
    simp only [List.length_cons, List.length_append] at hbound
    cases bound with
    | zero => omega
    | succ bound =>
      rw [List.cons_append, List.append_assoc, furtherTypes, if_pos (isSymbol_iff.2 hcomma)]
      by_cases ht : t.Legal
      · have hts' : ∃ t ∈ ts, ¬ t.Legal := by
          obtain ⟨s, hs, hnot⟩ := hts
          rcases List.mem_cons.1 hs with rfl | hs
          · exact absurd ht hnot
          · exact ⟨s, hs, hnot⟩
        have hread : type bound (xs ++ (ys ++ rest)) = .ok (t, ys ++ rest) :=
          type_of_legal ht hxs (by omega) (openAngle_of_furtherLexemes hys hrest)
        obtain ⟨e, he, s, hs, hrefused⟩ := ih hmore hts' hys (show ys.length ≤ bound by omega)
        refine ⟨e, ?_, s, List.mem_cons_of_mem _ hs, hrefused.mono (by simp)⟩
        simp only [hread, ok_bind, he]
        rfl
      · obtain ⟨e, he, hrefused⟩ := hfirst ht (ys ++ rest) hxs (show xs.length ≤ bound by omega)
        refine ⟨e, ?_, t, List.mem_cons_self, hrefused.mono (by simp)⟩
        rw [he]
        rfl

/-- Why a type is not legal: an argument is not, and it is the first or one behind
it, or all arguments are and the type does not fit. -/
theorem cases_of_not_legal {t first : DataType} {more : List DataType}
    (harguments : t.arguments = first :: more) (h : ¬ t.Legal) :
    ¬ first.Legal ∨ (first.Legal ∧ ∃ s ∈ more, ¬ s.Legal) ∨
      (first.Legal ∧ (∀ s ∈ more, s.Legal) ∧ ¬ t.Fits) := by
  rw [legal_iff, harguments, List.forall_mem_cons] at h
  by_cases hfirst : first.Legal
  · by_cases hmore : ∀ s ∈ more, s.Legal
    · exact .inr (.inr ⟨hfirst, hmore, fun hfits => h ⟨hfits, hfirst, hmore⟩⟩)
    · exact .inr (.inl ⟨hfirst, by simpa using hmore⟩)
  · exact .inl hfirst

/-- A type that is not legal is refused: at an argument, if one is not legal, and
at its own word otherwise. -/
theorem type_refused : ∀ t : DataType, ¬ t.Legal → IsRefused t := by
  refine induction_arguments fun t ih hlegal => ?_
  cases hhead : t.head with
  | inl s =>
    cases t with
    | scalar x => exact absurd (legal_scalar x) hlegal
    | set | list | map | tuple | frozen => cases hhead
  | inr c =>
    obtain ⟨first, more, harguments, hlexemes⟩ := exists_arguments hhead
    have hmembers : ∀ s ∈ first :: more, s ∈ t.arguments := fun s hs => by rwa [harguments]
    obtain ⟨hfirstMember, hmoreMembers⟩ := List.forall_mem_cons.1 hmembers
    intro used rest bound hused hbound
    rw [hlexemes, formedLexemes, List.append_assoc] at hused
    obtain ⟨w, o, xs, ys, a, rfl, hw, ho, hxs, hys, ha⟩ := exists_enclosed hused
    have hform : ConstructorForm w.lexeme c := by
      rw [hw]
      exact constructorForm_word c
    have hsplit : w :: o :: (xs ++ (ys ++ [a])) ++ rest = w :: o :: (xs ++ (ys ++ a :: rest)) := by
      simp
    rw [hsplit]
    simp only [List.length_cons, List.length_append, List.length_nil] at hbound
    obtain ⟨bound, rfl⟩ : ∃ b, bound = b + 1 := ⟨bound - 1, by omega⟩
    have hxsBound : xs.length ≤ bound := by omega
    have hysBound : ys.length ≤ bound := by omega
    have hclose : startsWithSymbol .openAngle (a :: rest) = false := startsWithSymbol_cons ha rest
    have hread (hfirst : first.Legal) :
        type bound (xs ++ (ys ++ a :: rest)) = .ok (first, ys ++ a :: rest) :=
      type_of_legal hfirst hxs hxsBound (openAngle_of_furtherLexemes hys hclose)
    rcases cases_of_not_legal harguments hlegal with
      hfirst | ⟨hfirst, hmore⟩ | ⟨hfirst, hmore, hfits⟩
    · -- the reader does not come to the other arguments
      obtain ⟨e, he, hrefused⟩ := ih first hfirstMember hfirst (ys ++ a :: rest) hxs hxsBound
      exact ⟨e, type_of_first_refused hform ho he,
        (hrefused.inside hfirstMember).mono fun u hu => by simp [hu]⟩
    · have hrefusals : ∀ s ∈ more, ¬ s.Legal → IsRefused s := fun s hs => ih s (hmoreMembers s hs)
      obtain ⟨e, he, s, hs, hrefused⟩ := furtherTypes_refused hrefusals hmore hys hysBound hclose
      exact ⟨e, type_of_more_refused hform ho (hread hfirst) he,
        (hrefused.inside (hmoreMembers s hs)).mono fun u hu => by simp [hu]⟩
    · -- all arguments are read, and then it is seen that the type does not fit
      have hreadMore : furtherTypes bound (ys ++ a :: rest) = .ok (more, a :: rest) :=
        furtherTypes_of_legal hmore hys hysBound hclose (startsWithSymbol_cons ha rest)
      obtain ⟨fault, hunfit⟩ := exists_unfit hhead hfits
      have happly := apply_of_unfit hunfit harguments
      exact ⟨_, type_of_unfit hform ho (hread hfirst) hreadMore ha happly,
        t, c, fault, w, .self, hunfit, List.mem_cons_self, hw, rfl⟩

/-! ## The result -/

/-- What is written for a type is read as the type with nothing left, if the type
is legal, and is refused for one of its parts otherwise. Any bound that the
tokens keep to will do. -/
theorem type_cql_exact (t : DataType) :
    ∃ tokens, tokenize t.cql.toList = .ok tokens ∧ ∀ bound, tokens.length ≤ bound →
      (t.Legal → type bound tokens = .ok (t, [])) ∧
        (¬ t.Legal → ∃ e, type bound tokens = .error e ∧ RefusedAt t tokens e) := by
  have hlexes : Lexes (t.cql.toList ++ []) (t.lexemes ++ []) := reads_cql t Text.apart_nil .nil
  rw [List.append_nil, List.append_nil] at hlexes
  obtain ⟨tokens, htokens, hlexemes⟩ := hlexes 0
  refine ⟨tokens, htokens, fun bound hbound => ⟨?_, ?_⟩⟩
  · intro hlegal
    have hread : type bound (tokens ++ []) = .ok (t, []) :=
      type_of_legal hlegal hlexemes hbound rfl
    rwa [List.append_nil] at hread
  · intro hlegal
    have hrefused := type_refused t hlegal [] hlexemes hbound
    rwa [List.append_nil] at hrefused

/-- A frozen set may be a value of a map. A set may not be one, and a tuple around
the map does not help. -/
theorem type_cql_exact_nested :
    (∃ tokens, tokenize "map<int, frozen<set<text>>>".toList = .ok tokens ∧
      type tokens.length tokens =
        .ok (.map (.scalar .int) (.frozen (.set (.scalar .text))), [])) ∧
      ∃ tokens e, tokenize "tuple<date, map<int, set<text>>>".toList = .ok tokens ∧
        type tokens.length tokens = .error e ∧
          RefusedAt (.tuple (.scalar .date) [.map (.scalar .int) (.set (.scalar .text))])
            tokens e := by
  have hset : (DataType.set (.scalar .text)).Legal :=
    legal_iff.2 ⟨⟨nofun, by simp [arguments, isMultiCell]⟩, by simp [arguments, legal_scalar]⟩
  have hfrozen : (DataType.frozen (.set (.scalar .text))).Legal :=
    legal_iff.2 ⟨⟨nofun, by simp [arguments, isMultiCell]⟩, by simp [arguments, hset]⟩
  have hmap : (DataType.map (.scalar .int) (.frozen (.set (.scalar .text)))).Legal :=
    legal_iff.2 ⟨⟨nofun, by simp [arguments, isMultiCell]⟩,
      by simp [arguments, hfrozen, legal_scalar]⟩
  have hillegal : ¬ (DataType.tuple (.scalar .date)
      [.map (.scalar .int) (.set (.scalar .text))]).Legal := by
    intro h
    have hpart := (h _ (.inside (by simp [arguments]) .self)).cells
      (show isMultiCell (.map (.scalar .int) (.set (.scalar .text))) = true from rfl)
      (.set (.scalar .text)) (by simp [arguments])
    cases hpart
  obtain ⟨tokens, htokens, hread⟩ :=
    type_cql_exact (.map (.scalar .int) (.frozen (.set (.scalar .text))))
  obtain ⟨tokens', htokens', hrefused⟩ :=
    type_cql_exact (.tuple (.scalar .date) [.map (.scalar .int) (.set (.scalar .text))])
  obtain ⟨e, he, hat⟩ := (hrefused tokens'.length (Nat.le_refl _)).2 hillegal
  exact ⟨⟨tokens, htokens, (hread tokens.length (Nat.le_refl _)).1 hmap⟩, tokens', e, htokens', he,
    hat⟩

end AuthKeyspace.Cql
