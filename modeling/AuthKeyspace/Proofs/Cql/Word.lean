import AuthKeyspace.Cql.Token
import AuthKeyspace.Proofs.Text.Delimited

/-!
# Words and their case

Keywords are compared in capitals while names and types are compared in lower
case. Both tests look at the same letters: putting a letter in lower case
forgets whether it was put in capitals before (`toLower_toUpper`), so a word is
a keyword only if it is that keyword in lower case as well.

`Stops` says of the text behind a token that it does not go on with it: it
begins neither with a character of words nor with a double quote. Everything
the printers put behind a name or a type stops it.
-/

namespace AuthKeyspace.Cql

open AuthKeyspace.Text

/-! ## Case -/

theorem toNat_toLower (c : Char) :
    c.toLower.toNat = if 65 ≤ c.toNat ∧ c.toNat ≤ 90 then c.toNat + 32 else c.toNat := by
  unfold Char.toLower
  by_cases h : 65 ≤ c.toNat ∧ c.toNat ≤ 90
  · have hc : c.val ≥ 'A'.val ∧ c.val ≤ 'Z'.val := h
    rw [dif_pos hc, if_pos h]
    show (c.val + 32).toNat = c.val.toNat + 32
    rw [UInt32.toNat_add]
    have : c.val.toNat ≤ 90 := h.2
    show (c.val.toNat + 32) % 2 ^ 32 = _
    omega
  · have hc : ¬ (c.val ≥ 'A'.val ∧ c.val ≤ 'Z'.val) := h
    rw [dif_neg hc, if_neg h]

theorem toNat_toUpper (c : Char) :
    c.toUpper.toNat = if 97 ≤ c.toNat ∧ c.toNat ≤ 122 then c.toNat - 32 else c.toNat := by
  unfold Char.toUpper
  by_cases h : 97 ≤ c.toNat ∧ c.toNat ≤ 122
  · have hc : 'a'.val ≤ c.val ∧ c.val ≤ 'z'.val := h
    rw [dif_pos hc, if_pos h]
    -- 4294967264 is -32 in 32 bits
    show (c.val + 4294967264).toNat = c.val.toNat - 32
    rw [UInt32.toNat_add]
    have h1 : 97 ≤ c.val.toNat := h.1
    have h2 : c.val.toNat ≤ 122 := h.2
    show (c.val.toNat + 4294967264) % 2 ^ 32 = _
    omega
  · have hc : ¬ ('a'.val ≤ c.val ∧ c.val ≤ 'z'.val) := h
    rw [dif_neg hc, if_neg h]

theorem toLower_toUpper (c : Char) : c.toUpper.toLower = c.toLower := by
  have h : c.toUpper.toLower.toNat = c.toLower.toNat := by
    simp only [toNat_toLower, toNat_toUpper]
    repeat' split
    all_goals omega
  exact Char.toNat_inj.mp h

theorem map_toLower_map_toUpper (cs : List Char) :
    (cs.map Char.toUpper).map Char.toLower = cs.map Char.toLower := by
  rw [List.map_map]
  exact List.map_congr_left fun c _ => toLower_toUpper c

/-- A bare word is a word in lower case. -/
theorem isBare_iff {cs : List Char} :
    isBare cs = true ↔ isWord cs = true ∧ cs.map Char.toLower = cs := by
  simp [isBare, foldCase]

/-! ## What ends a token -/

/-- A character between two others has a code between theirs. -/
theorem toNat_of_between (lo hi : Char) {c : Char}
    (h : (decide (lo.val ≤ c.val) && decide (c.val ≤ hi.val)) = true) :
    lo.toNat ≤ c.toNat ∧ c.toNat ≤ hi.toNat := by
  obtain ⟨hlo, hhi⟩ := Bool.and_eq_true_iff.1 h
  exact ⟨of_decide_eq_true hlo, of_decide_eq_true hhi⟩

/-- Characters of words lie between the digits and the small letters. -/
theorem toNat_of_isWordRest {c : Char} (h : isWordRest c = true) :
    48 ≤ c.toNat ∧ c.toNat ≤ 122 := by
  rcases Bool.or_eq_true_iff.1 h with h | h
  · rcases Bool.or_eq_true_iff.1 h with h | h
    · rcases Bool.or_eq_true_iff.1 h with h | h
      · have hbetween : 'A'.val ≤ c.val ∧ c.val ≤ 'Z'.val := of_decide_eq_true h
        have hupper : 65 ≤ c.toNat ∧ c.toNat ≤ 90 := hbetween
        omega
      · have hlower : 97 ≤ c.toNat ∧ c.toNat ≤ 122 := toNat_of_between 'a' 'z' h
        omega
    · have hdigit : 48 ≤ c.toNat ∧ c.toNat ≤ 57 := toNat_of_between '0' '9' h
      omega
  · obtain rfl : c = '_' := of_decide_eq_true h
    decide

theorem isWordRest_of_isWordStart {c : Char} (h : isWordStart c = true) : isWordRest c = true := by
  simp only [isWordStart, isWordRest, Char.isAlphanum, Bool.or_eq_true] at h ⊢
  rcases h with h | h
  · exact .inl (.inl h)
  · exact .inr h

theorem isBlank_of_isWordRest {c : Char} (h : isWordRest c = true) : isBlank c = false := by
  obtain ⟨hlo, hhi⟩ := toNat_of_isWordRest h
  simp only [isBlank, Bool.or_eq_false_iff, Bool.and_eq_false_iff, decide_eq_false_iff_not,
    beq_eq_false_iff_ne]
  omega

theorem ne_quote_of_isWordRest {c : Char} (h : isWordRest c = true) : c ≠ '"' := by
  intro hc
  rw [hc] at h
  exact absurd h (by decide)

theorem not_mem_of_isWord {c : Char} (hc : isWordRest c = false) {cs : List Char}
    (h : isWord cs = true) : c ∉ cs := by
  intro hmem
  cases cs with
  | nil => cases hmem
  | cons d rest =>
    obtain ⟨hstart, hrest⟩ := Bool.and_eq_true_iff.1 h
    have hword : isWordRest c = true := by
      rcases List.mem_cons.1 hmem with rfl | hmem
      · exact isWordRest_of_isWordStart hstart
      · exact List.all_eq_true.1 hrest c hmem
    rw [hc] at hword
    cases hword

/-- The text goes on with no token before it: it begins with neither a
character of words nor a double quote. -/
abbrev Stops : List Char → Prop := Apart fun c => isWordRest c || c == '"'

theorem Stops.apart_word {cs : List Char} (h : Stops cs) : Apart isWordRest cs := fun c hc =>
  (Bool.or_eq_false_iff.1 (h c hc)).1

theorem Stops.apart_quote {cs : List Char} (h : Stops cs) : Apart (· == '"') cs := fun c hc =>
  (Bool.or_eq_false_iff.1 (h c hc)).2

end AuthKeyspace.Cql
