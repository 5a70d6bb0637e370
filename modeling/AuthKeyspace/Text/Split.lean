/-!
# Parts between marks

A list is cut at each occurrence of one member, the mark. The parts are one more than the
occurrences, so that an empty list has one empty part, and two marks in a row have an empty part
between them. Paths are cut at slashes, dates at hyphens, and numbers in base sixty at colons.

Main statements: `not_mem_of_mem_splitOn` and `intercalate_splitOn`: no part holds the mark, and the
mark joins the parts to the list again.
-/

namespace AuthKeyspace.Text

variable {α : Type} [DecidableEq α]

/-- The parts of a list between occurrences of the mark. -/
def splitOn (mark : α) : List α → List (List α)
  | [] => [[]]
  | c :: rest =>
    if c = mark then [] :: splitOn mark rest
    else
      match splitOn mark rest with
      | part :: parts => (c :: part) :: parts
      | [] => [[c]]

theorem splitOn_ne_nil (mark : α) (cs : List α) : splitOn mark cs ≠ [] := by
  cases cs with
  | nil => simp [splitOn]
  | cons c rest =>
    simp only [splitOn]
    repeat' split
    all_goals simp

theorem splitOn_cons_of_ne {mark c : α} (h : c ≠ mark) {rest part : List α}
    {parts : List (List α)} (hs : splitOn mark rest = part :: parts) :
    splitOn mark (c :: rest) = (c :: part) :: parts := by
  simp [splitOn, h, hs]

theorem not_mem_of_mem_splitOn {mark : α} {cs part : List α}
    (h : part ∈ splitOn mark cs) : mark ∉ part := by
  induction cs generalizing part with
  | nil => simp_all [splitOn]
  | cons c rest ih =>
    by_cases hc : c = mark
    · rw [splitOn, if_pos hc] at h
      rcases List.mem_cons.1 h with rfl | h
      · simp
      · exact ih h
    · obtain ⟨first, parts, hs⟩ := List.exists_cons_of_ne_nil (splitOn_ne_nil mark rest)
      rw [splitOn_cons_of_ne hc hs] at h
      rw [hs] at ih
      rcases List.mem_cons.1 h with rfl | h
      · have hfirst : mark ∉ first := ih List.mem_cons_self
        simpa [Ne.symm hc] using hfirst
      · exact ih (List.mem_cons_of_mem _ h)

theorem intercalate_splitOn (mark : α) (cs : List α) :
    [mark].intercalate (splitOn mark cs) = cs := by
  induction cs with
  | nil => rfl
  | cons c rest ih =>
    obtain ⟨first, parts, hs⟩ := List.exists_cons_of_ne_nil (splitOn_ne_nil mark rest)
    rw [hs] at ih
    by_cases hc : c = mark
    · rw [splitOn, if_pos hc, hs, hc, ← ih]
      simp [List.intercalate]
    · rw [splitOn_cons_of_ne hc hs, ← ih]
      cases parts <;> simp [List.intercalate]

end AuthKeyspace.Text
