import AuthKeyspace.Cql.Literal

/-!
# Texts that show where they end

A text made of pieces can be taken apart again if each piece shows where it
ends. `Delimited stop write` says so of what `write` writes: from the written
text with something behind it both can be told, as long as what is behind
satisfies `stop`. A comma ends a number but not a literal, whose quotes do
that, so `stop` differs from piece to piece; `Apart p` is the usual one, that
no character which passes `p` comes first.

Pieces in a row are delimited if each of them is (`Delimited.flatMap`).
Literals are delimited by their quotes, whatever is in them
(`delimited_literal`), and numbers by the end of their digits
(`delimited_int`).
-/

namespace AuthKeyspace.Text

open AuthKeyspace.Cql

/-- What `write` writes can be told from what is behind it, if that satisfies
`stop`. -/
def Delimited {α : Type} (stop : List Char → Prop) (write : α → List Char) : Prop :=
  ∀ ⦃a b : α⦄ ⦃r s : List Char⦄, stop r → stop s → write a ++ r = write b ++ s → a = b ∧ r = s

/-- The text does not begin with a character that passes `p`. -/
def Apart (p : Char → Bool) (cs : List Char) : Prop := ∀ c ∈ cs.head?, p c = false

theorem apart_nil {p : Char → Bool} : Apart p [] := fun c hc => by cases hc

theorem apart_cons {p : Char → Bool} {c : Char} (cs : List Char) (h : p c = false := by decide) :
    Apart p (c :: cs) := by
  intro d hd
  obtain rfl : c = d := Option.some.inj hd
  exact h

/-- A text that does not begin so still does not with something behind it,
unless it is empty. -/
theorem apart_append {p : Char → Bool} {cs : List Char} (rest : List Char)
    (h : (cs.head?.any (!p ·)) = true := by decide) : Apart p (cs ++ rest) := by
  cases cs with
  | nil => cases h
  | cons c cs =>
    have hc : (!p c) = true := h
    exact apart_cons _ (Bool.not_eq_true' _ |>.mp hc)

/-- What a text does not begin with, no part of it at the front does. -/
theorem Apart.of_append {p : Char → Bool} {cs rest : List Char} (h : Apart p (cs ++ rest)) :
    Apart p cs := by
  cases cs with
  | nil => exact apart_nil
  | cons c cs => exact h

theorem not_apart_self {c : Char} {cs : List Char} : ¬ Apart (· == c) (c :: cs) := by
  intro h
  exact absurd (h c rfl) (by simp)

/-- Anything may be behind. -/
abbrev Anything : List Char → Prop := fun _ => True

variable {α : Type} {stop : List Char → Prop} {write : α → List Char}

/-- With nothing behind it, what was written can be told. -/
theorem Delimited.injective (h : Delimited stop write) (hnil : stop []) :
    Function.Injective write := by
  intro a b hab
  have happend : write a ++ [] = write b ++ [] := by rw [hab]
  exact (h hnil hnil happend).1

/-- Pieces with the same text before each, as long as that text begins with a
character that does not begin what is behind the last piece. -/
theorem Delimited.flatMap (h : Delimited stop write) {c : Char} {separator : List Char}
    (hc : ∀ cs, stop (c :: cs)) :
    Delimited (fun r => stop r ∧ Apart (· == c) r)
      (fun as : List α => as.flatMap fun a => c :: (separator ++ write a)) := by
  intro as
  induction as with
  | nil =>
    intro bs r s hr hs heq
    cases bs with
    | nil => exact ⟨rfl, heq⟩
    | cons b bs =>
      obtain rfl : r = c :: _ := heq
      exact absurd hr.2 not_apart_self
  | cons a as ih =>
    intro bs r s hr hs heq
    cases bs with
    | nil =>
      obtain rfl : c :: _ = s := heq
      exact absurd hs.2 not_apart_self
    | cons b bs =>
      -- what is behind a piece is the separator of the next one or what is behind them all
      have hstop : ∀ (cs : List α) (r : List Char), stop r ∧ Apart (· == c) r →
          stop (cs.flatMap (fun a => c :: (separator ++ write a)) ++ r) := by
        intro cs r hr
        cases cs with
        | nil => exact hr.1
        | cons d ds => exact hc _
      simp only [List.flatMap_cons, List.cons_append, List.append_assoc, List.cons.injEq, true_and,
        List.append_cancel_left_eq] at heq
      obtain ⟨rfl, hrest⟩ := h (hstop as r hr) (hstop bs s hs) heq
      obtain ⟨rfl, rfl⟩ := ih hr hs hrest
      exact ⟨rfl, rfl⟩

/-- Pieces with a separator between them are the first piece and, with the
separator before each, the others. -/
theorem intercalate_cons_eq_flatMap {β : Type} (separator piece : List β) (pieces : List (List β)) :
    separator.intercalate (piece :: pieces) = piece ++ pieces.flatMap (separator ++ ·) := by
  induction pieces generalizing piece with
  | nil => simp
  | cons next pieces ih =>
    rw [List.intercalate_cons_cons, ih next]
    simp only [List.flatMap_cons, List.append_assoc]

/-! ## Doubled delimiters -/

theorem double_cons_self (q : Char) (cs : List Char) : double q (q :: cs) = q :: q :: double q cs :=
  if_pos rfl

theorem double_cons_of_ne {q c : Char} (h : c ≠ q) (cs : List Char) :
    double q (c :: cs) = c :: double q cs := if_neg h

theorem mem_double {q c : Char} {cs : List Char} : c ∈ double q cs ↔ c ∈ cs := by
  induction cs with
  | nil => rfl
  | cons d cs ih =>
    by_cases hd : d = q
    · rw [hd, double_cons_self, List.mem_cons, List.mem_cons, List.mem_cons, ih, ← or_assoc,
        or_self]
    · rw [double_cons_of_ne hd, List.mem_cons, List.mem_cons, ih]

/-- The end of a text and a text that goes on cannot be the same: where the
first has one delimiter, the second has two, or something else. -/
theorem double_append_ne {q b : Char} {bs r s : List Char} (hr : Apart (· == q) r) :
    q :: r ≠ double q (b :: bs) ++ [q] ++ s := by
  intro heq
  by_cases hb : b = q
  · rw [hb, double_cons_self] at heq
    obtain rfl : r = q :: _ := (List.cons.inj heq).2
    exact not_apart_self hr
  · rw [double_cons_of_ne hb] at heq
    exact hb (List.cons.inj heq).1.symm

/-- A text in which `q` is doubled ends at the first `q` that is not. -/
theorem delimited_double (q : Char) :
    Delimited (Apart (· == q)) (fun cs : List Char => double q cs ++ [q]) := by
  intro as
  induction as with
  | nil =>
    intro bs r s hr hs heq
    cases bs with
    | nil => exact ⟨rfl, (List.cons.inj heq).2⟩
    | cons b bs => exact absurd heq (double_append_ne hr)
  | cons a as ih =>
    intro bs r s hr hs heq
    cases bs with
    | nil => exact absurd heq.symm (double_append_ne hs)
    | cons b bs =>
      -- both begin with a delimiter, neither does, or the first characters differ
      dsimp only at heq
      by_cases ha : a = q
      · by_cases hb : b = q
        · rw [ha, hb, double_cons_self, double_cons_self] at heq
          obtain ⟨rfl, rfl⟩ := ih hr hs (List.cons.inj (List.cons.inj heq).2).2
          exact ⟨by rw [ha, hb], rfl⟩
        · rw [ha, double_cons_self, double_cons_of_ne hb] at heq
          exact absurd (List.cons.inj heq).1.symm hb
      · by_cases hb : b = q
        · rw [hb, double_cons_self, double_cons_of_ne ha] at heq
          exact absurd (List.cons.inj heq).1 ha
        · rw [double_cons_of_ne ha, double_cons_of_ne hb] at heq
          obtain ⟨rfl, htail⟩ := List.cons.inj heq
          obtain ⟨rfl, rfl⟩ := ih hr hs htail
          exact ⟨rfl, rfl⟩

theorem toList_literal (text : String) :
    (literal text).toList = '\'' :: (double '\'' text.toList ++ ['\'']) := by
  simp [literal, literalBody]

/-- A literal ends at the quote that is not doubled. -/
theorem delimited_literal :
    Delimited (Apart (· == '\'')) (fun text : String => (literal text).toList) := by
  intro a b r s hr hs heq
  simp only [toList_literal, List.cons_append, List.cons.injEq, true_and] at heq
  obtain ⟨hab, rfl⟩ := delimited_double '\'' hr hs heq
  exact ⟨String.toList_inj.1 hab, rfl⟩

/-! ## Numbers -/

theorem isDigit_of_mem_repr {n : Nat} {c : Char} (h : c ∈ n.repr.toList) : c.isDigit = true := by
  rw [Nat.toList_repr] at h
  exact Nat.isDigit_of_mem_toDigits (by decide) (by decide) h

theorem delimited_nat : Delimited (Apart (·.isDigit)) (fun n : Nat => n.repr.toList) := by
  intro m n r s hr hs heq
  have hdigits : ∀ (k : Nat) (t : List Char), Apart (·.isDigit) t →
      (k.repr.toList ++ t).takeWhile Char.isDigit = k.repr.toList := by
    intro k t ht
    rw [List.takeWhile_append_of_pos fun c hc => isDigit_of_mem_repr hc]
    cases t with
    | nil => simp
    | cons c cs => simp [ht c rfl]
  have hsame : m.repr.toList = n.repr.toList := by
    rw [← hdigits m r hr, heq, hdigits n s hs]
  -- a number is the value of its digits
  refine ⟨?_, ?_⟩
  · have hvalue := congrArg (Nat.ofDigitChars 10 · 0) hsame
    simpa [Nat.toList_repr, Nat.ofDigitChars_ten_toDigits] using hvalue
  · dsimp only at heq
    rw [hsame] at heq
    exact List.append_cancel_left heq

/-- A number that begins with a sign is not one that begins with a digit. -/
theorem sign_ne_repr {n : Nat} {r s : List Char} : '-' :: r ≠ n.repr.toList ++ s := by
  intro heq
  cases hn : n.repr.toList with
  | nil =>
    rw [Nat.toList_repr] at hn
    exact Nat.toDigits_ne_nil hn
  | cons c cs =>
    rw [hn] at heq
    have hc : c.isDigit = true := isDigit_of_mem_repr (by rw [hn]; exact List.mem_cons_self)
    rw [← (List.cons.inj heq).1] at hc
    exact absurd hc (by decide)

theorem delimited_int : Delimited (Apart (·.isDigit)) (fun n : Int => (toString n).toList) := by
  intro a b r s hr hs heq
  have hneg : ∀ n : Nat, (toString (Int.negSucc n)).toList = '-' :: (n + 1).repr.toList := by
    intro n
    simp [Int.toString_eq_repr, Int.repr]
  have hnat : ∀ n : Nat, (toString (Int.ofNat n)).toList = n.repr.toList := by
    intro n
    simp [Int.repr]
  cases a with
  | ofNat m =>
    cases b with
    | ofNat n =>
      simp only [hnat] at heq
      obtain ⟨rfl, rfl⟩ := delimited_nat hr hs heq
      exact ⟨rfl, rfl⟩
    | negSucc n =>
      simp only [hnat, hneg] at heq
      exact absurd heq.symm sign_ne_repr
  | negSucc m =>
    cases b with
    | ofNat n =>
      simp only [hnat, hneg] at heq
      exact absurd heq sign_ne_repr
    | negSucc n =>
      simp only [hneg, List.cons_append, List.cons.injEq, true_and] at heq
      obtain ⟨hsucc, rfl⟩ := delimited_nat hr hs heq
      exact ⟨by rw [Nat.succ.inj hsucc], rfl⟩

end AuthKeyspace.Text
