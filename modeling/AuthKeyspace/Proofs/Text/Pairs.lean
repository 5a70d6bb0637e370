import AuthKeyspace.Proofs.Text.Delimited
import Mathlib.Data.List.Infix

/-!
# Two characters in a row

Whether two characters stand next to each other somewhere in a text that is put
together from parts depends on the parts and on the seams, where the one can end
a part and the other begin the next (`pair_infix_append_iff`).

`splitOnPair` cuts a text wherever it has the two characters, from the left. The
parts are those that the text was joined from if none of them has the two
characters in it, or ends in the first of them and so moves the cut
(`splitOnPair_intercalate_iff`).
-/

namespace AuthKeyspace.Text

variable {a b c : Char} {xs ys cs rest part : List Char} {parts : List (List Char)}

/-! ## Pairs in a text -/

theorem pair_infix_append_iff :
    [a, b] <:+: xs ++ ys ↔
      [a, b] <:+: xs ∨ [a, b] <:+: ys ∨ xs.getLast? = some a ∧ ys.head? = some b := by
  rw [List.infix_append_iff]
  constructor
  · rintro (h | h | ⟨l, m, heq, hl, hm⟩)
    · exact .inl h
    · exact .inr (.inl h)
    · -- the seam is before, between or behind the two
      rcases List.cons_eq_append_iff.1 heq with ⟨-, rfl⟩ | ⟨l, rfl, htail⟩
      · exact .inr (.inl hm.isInfix)
      · rcases List.cons_eq_append_iff.1 htail with ⟨rfl, rfl⟩ | ⟨l, rfl, hnil⟩
        · obtain ⟨before, rfl⟩ := hl
          obtain ⟨after, rfl⟩ := hm
          exact .inr (.inr ⟨by simp, rfl⟩)
        · obtain ⟨rfl, rfl⟩ := List.append_eq_nil_iff.1 hnil.symm
          exact .inl hl.isInfix
  · rintro (h | h | ⟨hlast, hhead⟩)
    · exact .inl h
    · exact .inr (.inl h)
    · obtain ⟨before, rfl⟩ := List.getLast?_eq_some_iff.1 hlast
      obtain ⟨after, rfl⟩ := List.head?_eq_some_iff.1 hhead
      exact .inr (.inr ⟨[a], [b], rfl, List.suffix_append .., List.prefix_append [b] after⟩)

theorem pair_infix_cons_iff :
    [a, b] <:+: c :: cs ↔ [a, b] <:+: cs ∨ c = a ∧ cs.head? = some b := by
  have hsingle : ¬ [a, b] <:+: [c] := fun h => absurd h.length_le (by simp)
  rw [show c :: cs = [c] ++ cs from rfl, pair_infix_append_iff]
  simp [hsingle]

/-! ## Cutting at a pair -/

/-- The parts of a text between occurrences of two characters in a row, cut from
the left. -/
def splitOnPair (a b : Char) : List Char → List (List Char)
  | [] => [[]]
  | [c] => [[c]]
  | c :: d :: rest =>
    if c = a ∧ d = b then [] :: splitOnPair a b rest
    else (splitOnPair a b (d :: rest)).modifyHead (c :: ·)

theorem splitOnPair_pair (a b : Char) (rest : List Char) :
    splitOnPair a b (a :: b :: rest) = [] :: splitOnPair a b rest := if_pos ⟨rfl, rfl⟩

theorem splitOnPair_cons (h : ¬ (c = a ∧ cs.head? = some b)) :
    splitOnPair a b (c :: cs) = (splitOnPair a b cs).modifyHead (c :: ·) := by
  cases cs with
  | nil => rfl
  | cons d rest =>
    have hd : ¬ (c = a ∧ d = b) := fun hcd => h ⟨hcd.1, congrArg some hcd.2⟩
    exact if_neg hd

theorem splitOnPair_of_free (h : ¬ [a, b] <:+: cs) : splitOnPair a b cs = [cs] := by
  induction cs with
  | nil => rfl
  | cons c cs ih =>
    rw [pair_infix_cons_iff, not_or] at h
    rw [splitOnPair_cons h.2, ih h.1]
    rfl

/-- A part is cut off whole if no cut falls within it or at its last character. -/
theorem splitOnPair_append (h : ¬ [a, b] <:+: part ++ [a]) (rest : List Char) :
    splitOnPair a b (part ++ a :: b :: rest) = part :: splitOnPair a b rest := by
  induction part with
  | nil => exact splitOnPair_pair a b rest
  | cons c part ih =>
    rw [List.cons_append, pair_infix_cons_iff, not_or] at h
    have hhead : (part ++ a :: b :: rest).head? = (part ++ [a]).head? := by
      cases part <;> rfl
    rw [List.cons_append, splitOnPair_cons (by rw [hhead]; exact h.2), ih h.1]
    rfl

/-- The first part is what the text begins with. -/
theorem exists_splitOnPair_eq_cons (a b : Char) (cs : List Char) :
    ∃ part parts, splitOnPair a b cs = part :: parts ∧ part <+: cs := by
  fun_induction splitOnPair a b cs with
  | case1 => exact ⟨[], [], rfl, List.nil_prefix⟩
  | case2 c => exact ⟨[c], [], rfl, List.prefix_refl _⟩
  | case3 c d rest _ => exact ⟨[], _, rfl, List.nil_prefix⟩
  | case4 c d rest _ ih =>
    obtain ⟨part, parts, hparts, hpart⟩ := ih
    exact ⟨c :: part, parts, by rw [hparts]; rfl, List.prefix_cons_iff.2 (.inr ⟨part, rfl, hpart⟩)⟩

theorem not_infix_of_mem_splitOnPair (h : part ∈ splitOnPair a b cs) : ¬ [a, b] <:+: part := by
  induction cs using splitOnPair.induct a b generalizing part with
  | case1 =>
    rw [List.mem_singleton.1 h]
    simp
  | case2 c =>
    rw [List.mem_singleton.1 h]
    exact fun hpair => absurd hpair.length_le (by simp)
  | case3 c d rest heq ih =>
    rw [splitOnPair, if_pos heq] at h
    rcases List.mem_cons.1 h with rfl | h
    · simp
    · exact ih h
  | case4 c d rest hne ih =>
    obtain ⟨first, parts, hparts, hprefix⟩ := exists_splitOnPair_eq_cons a b (d :: rest)
    rw [splitOnPair, if_neg hne, hparts] at h
    rw [hparts] at ih
    rcases List.mem_cons.1 h with rfl | h
    · rw [pair_infix_cons_iff]
      rintro (hpair | ⟨hc, hhead⟩)
      · exact ih (List.mem_cons_self ..) hpair
      · obtain ⟨more, rfl⟩ := List.head?_eq_some_iff.1 hhead
        exact hne ⟨hc, (List.cons_prefix_cons.1 hprefix).1.symm⟩
    · exact ih (List.mem_cons_of_mem _ h)

/-- Cutting undoes joining, for parts that do not end in the first of the two
characters, exactly if no part has the two in it. -/
theorem splitOnPair_intercalate_iff (hends : ∀ p ∈ part :: parts, p.getLast? ≠ some a) :
    splitOnPair a b ([a, b].intercalate (part :: parts)) = part :: parts ↔
      ∀ p ∈ part :: parts, ¬ [a, b] <:+: p := by
  constructor
  · intro heq p hp
    rw [← heq] at hp
    exact not_infix_of_mem_splitOnPair hp
  · intro hfree
    rw [intercalate_cons_eq_flatMap]
    induction parts generalizing part with
    | nil =>
      rw [List.flatMap_nil, List.append_nil]
      exact splitOnPair_of_free (hfree part (List.mem_cons_self ..))
    | cons next parts ih =>
      have hpart : ¬ [a, b] <:+: part ++ [a] := by
        rw [pair_infix_append_iff]
        rintro (h | h | ⟨hlast, -⟩)
        · exact hfree part (List.mem_cons_self ..) h
        · exact absurd h.length_le (by simp)
        · exact hends part (List.mem_cons_self ..) hlast
      have hmore := ih (fun p hp => hends p (List.mem_cons_of_mem _ hp))
        fun p hp => hfree p (List.mem_cons_of_mem _ hp)
      rw [List.flatMap_cons, List.append_assoc]
      show splitOnPair a b (part ++ a :: b :: _) = _
      rw [splitOnPair_append hpart]
      exact congrArg (part :: ·) hmore

/-- Of three line ends in a row the first two are cut at, so a part that ends in
one does not come back. -/
example : splitOnPair '\n' '\n' "a\n\n\nb".toList = ["a".toList, "\nb".toList] := by decide

end AuthKeyspace.Text
