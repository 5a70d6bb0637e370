import AuthKeyspace.Proofs.Table.Outcomes
import AuthKeyspace.Proofs.Text.Pairs

/-!
# The text that a table keeps

A table keeps the text it was read from, with its name in place of the first
`%s`. That text can still have a place for a name: a second one of the template,
which stays as it is, or one that comes about where the name begins, with the
percent sign before the place and an `s` that the name begins with. There is no
third way, since a name has no percent sign in it (`infix_around_word_iff`).

Without a place a text is filled with itself. So a table can be built again from
the text it keeps, and it is the same table (`build_stored`).
-/

namespace AuthKeyspace.Table

open AuthKeyspace.Cql AuthKeyspace.Text

/-! ## Places in a text -/

/-- The first place for a name has `before` before it and `after` behind it. -/
structure FirstPlace (template before after : List Char) : Prop where
  split : template = before ++ '%' :: 's' :: after
  first : ¬ ['%', 's'] <:+: before

theorem fillChars_of_firstPlace {template before after : List Char}
    (h : FirstPlace template before after) (name : List Char) :
    fillChars name template = before ++ (name ++ after) := by
  obtain ⟨rfl, hfirst⟩ := h
  induction before with
  | nil => rfl
  | cons c before ih =>
    rw [pair_infix_cons_iff, not_or] at hfirst
    rw [List.cons_append, List.cons_append, fillChars, ih hfirst.1]
    -- the place does not begin with `c`
    rintro more rfl heq
    cases before with
    | nil => cases heq
    | cons d before =>
      obtain ⟨rfl, -⟩ := List.cons.inj heq
      exact hfirst.2 ⟨rfl, rfl⟩

/-- Where a place can be in a text that has a word in it. -/
theorem infix_around_word_iff {before word after : List Char} (hword : isWord word = true)
    (hbefore : ¬ ['%', 's'] <:+: before) :
    ['%', 's'] <:+: before ++ (word ++ after) ↔
      ['%', 's'] <:+: after ∨ before.getLast? = some '%' ∧ word.head? = some 's' := by
  have hpercent : '%' ∉ word := not_mem_of_isWord (by decide) hword
  have hwithin : ¬ ['%', 's'] <:+: word := fun h => hpercent (h.subset (List.mem_cons_self ..))
  have hlast : word.getLast? ≠ some '%' := fun h => hpercent (List.mem_of_getLast? h)
  have hhead : (word ++ after).head? = word.head? := by
    cases word with
    | nil => cases hword
    | cons => rfl
  rw [pair_infix_append_iff, pair_infix_append_iff, hhead]
  simp [hbefore, hwithin, hlast]

theorem hasPlace_eq_true_iff {cs : List Char} : hasPlace cs = true ↔ ['%', 's'] <:+: cs := by
  fun_induction hasPlace cs with
  | case1 => simp
  | case2 rest => simp [List.infix_cons_iff]
  | case3 c rest hne ih =>
    rw [ih, pair_infix_cons_iff, or_iff_left]
    rintro ⟨rfl, hhead⟩
    obtain ⟨more, rfl⟩ := List.head?_eq_some_iff.1 hhead
    exact hne more rfl rfl

/-- A text without a place is filled with itself. -/
theorem fill_of_free {text : String} (h : ¬ ['%', 's'] <:+: text.toList) (name : String) :
    fill text name = text := by
  have hplace : hasPlace text.toList = false := by
    rw [← Bool.not_eq_true, hasPlace_eq_true_iff]
    exact h
  rw [fill, fillChars_of_free hplace, String.ofList_toList]

/-! ## Building again -/

namespace Descriptor

variable {keyspace : String} {d : Declaration} {t : Descriptor}

theorem isWord_of_build (h : build keyspace d = .ok t) : isWord d.name.toList = true := by
  obtain ⟨hname, -⟩ := build_eq_ok_iff.1 h
  exact (isBare_iff.1 (tableNameFault?_eq_none_iff.1 hname).1).1

/-- The text of a table has a place exactly where that of its declaration has a
second one, or where the name makes one with the percent sign before the first. -/
theorem infix_schemaText_iff (h : build keyspace d = .ok t) :
    ['%', 's'] <:+: t.schemaText.toList ↔
      ∃ before after, FirstPlace d.schemaText.toList before after ∧
        (['%', 's'] <:+: after ∨
          before.getLast? = some '%' ∧ d.name.toList.head? = some 's') := by
  have hword := isWord_of_build h
  have htext : t.schemaText.toList = fillChars d.name.toList d.schemaText.toList := by
    rw [(isTableOf_of_build h).schemaText_eq, Declaration.text, fill, String.toList_ofList]
  constructor
  · intro hpair
    have hsubstituted := substituted_fillChars d.name.toList d.schemaText.toList
    rw [← htext] at hsubstituted
    generalize d.schemaText.toList = template at hsubstituted ⊢
    generalize t.schemaText.toList = text at hpair hsubstituted
    cases hsubstituted with
    | unchanged hfree => exact absurd hpair hfree
    | @first before after hfree =>
      exact ⟨before, after, ⟨rfl, hfree⟩, (infix_around_word_iff hword hfree).1 hpair⟩
  · rintro ⟨before, after, hplace, hsecond⟩
    rw [htext, fillChars_of_firstPlace hplace, infix_around_word_iff hword hplace.first]
    exact hsecond

/-- The text that a table keeps is complete, unless its template had a second
place for the name, or one that the name makes anew. From a text that is
complete the same table can be built again. -/
theorem build_stored (h : build keyspace d = .ok t) :
    (['%', 's'] <:+: t.schemaText.toList ↔
      ∃ before after, FirstPlace d.schemaText.toList before after ∧
        (['%', 's'] <:+: after ∨
          before.getLast? = some '%' ∧ d.name.toList.head? = some 's')) ∧
      (¬ ['%', 's'] <:+: t.schemaText.toList →
        build keyspace ⟨d.name, d.description, t.schemaText⟩ = .ok t) := by
  refine ⟨infix_schemaText_iff h, fun hfree => ?_⟩
  obtain ⟨hname, -, s, hs, hsame, rfl⟩ := build_eq_ok_iff.1 h
  have hfill : fill (fill d.schemaText d.name) d.name = fill d.schemaText d.name :=
    fill_of_free hfree d.name
  -- a text that is read is not blank
  obtain ⟨hblank, -⟩ := ofText_eq_ok_iff.1 hs
  refine build_eq_ok_iff.2 ⟨hname, hblank, s, ?_, hsame, ?_⟩
  · rw [← hs]
    exact congrArg (Structure.ofText keyspace) hfill
  · simp only [Declaration.descriptor, hfill]

/-- A name that begins with `s` makes a place out of two percent signs; a table
whose text is complete is built again from it. -/
theorem build_stored_percent :
    (∃ t, build "auth" ⟨"sx", "", "CREATE TABLE sx (\"%%s\" int PRIMARY KEY)"⟩ = .ok t ∧
        ['%', 's'] <:+: t.schemaText.toList) ∧
      ∃ t, build "auth" ⟨"roles", "who may", "CREATE TABLE %s (a int PRIMARY KEY)"⟩ = .ok t ∧
        ¬ ['%', 's'] <:+: t.schemaText.toList ∧
          build "auth" ⟨"roles", "who may", t.schemaText⟩ = .ok t := by
  obtain ⟨t, ht⟩ : ∃ t, build "auth"
      ⟨"sx", "", "CREATE TABLE sx (\"%%s\" int PRIMARY KEY)"⟩ = .ok t :=
    exists_build_of_declaresItself String.toList_ofList String.toList_ofList (by decide +kernel)
  obtain ⟨u, hu⟩ : ∃ t, build "auth"
      ⟨"roles", "who may", "CREATE TABLE %s (a int PRIMARY KEY)"⟩ = .ok t :=
    exists_build_of_declaresItself String.toList_ofList String.toList_ofList (by decide +kernel)
  have hplace : FirstPlace "CREATE TABLE sx (\"%%s\" int PRIMARY KEY)".toList
      "CREATE TABLE sx (\"%".toList "\" int PRIMARY KEY)".toList := ⟨by decide, by decide⟩
  have hfree : ¬ ['%', 's'] <:+: u.schemaText.toList := by
    rw [(isTableOf_of_build hu).schemaText_eq]
    decide
  exact ⟨⟨t, ht, (build_stored ht).1.2 ⟨_, _, hplace, .inr ⟨by decide, by decide⟩⟩⟩,
    u, hu, hfree, (build_stored hu).2 hfree⟩

end Descriptor

end AuthKeyspace.Table
