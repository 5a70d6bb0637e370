import AuthKeyspace.Yaml.Character
import AuthKeyspace.Yaml.Fault

/-!
# Texts in quotes

Between single quotes only the quote itself is special, and is doubled. Between double quotes a
backslash begins an escape: a letter for a control, the code of a character in hexadecimal digits,
or the end of a line, which is then left out. A line end with the blanks around it counts as one
space; where empty lines follow, they count instead. A line that separates documents may not stand
in quotes. What is wrong with a text that ends before its quotes do is for the caller to say.

Main statements: `foldedBreaks_length` and `escape_length`, reading takes characters away.
-/

namespace AuthKeyspace.Yaml

/-- The characters of escapes with one letter. -/
def escapeValue? : Char → Option Char
  | '0' => some '\x00' | 'a' => some '\x07' | 'b' => some '\x08' | 't' => some '\t'
  | '\t' => some '\t' | 'n' => some '\n' | 'v' => some '\x0b' | 'f' => some '\x0c'
  | 'r' => some '\r' | 'e' => some '\x1b' | ' ' => some ' ' | '"' => some '"'
  | '\\' => some '\\' | '/' => some '/' | 'N' => some '\x85' | '_' => some '\xa0'
  | 'L' => some '\u2028' | 'P' => some '\u2029'
  | _ => none

/-- How many hexadecimal digits follow the letter of an escape. -/
def escapeWidth? : Char → Option Nat
  | 'x' => some 2
  | 'u' => some 4
  | 'U' => some 8
  | _ => none

/-- The number that hexadecimal digits show. -/
def hexNumber (digits : List Char) : Nat :=
  digits.foldl (fun n c => 16 * n + ((Text.digitIn? 16 c).getD 0)) 0

/-- The code point with a code. -/
def pointOfCode (code : Nat) : Except Fault Text.Point :=
  match Text.Point.ofCode? code with
  | some p => .ok p
  | none => .error (.codePoint code)

/-- Line ends behind a first one, without the blanks before and between them; `atStart` tells that a
line begins here. -/
def foldedBreaks (atStart : Bool) : List Char → Except Fault (List Char × List Char)
  | [] => .ok ([], [])
  | c :: rest =>
    if atStart && isSeparator (c :: rest) then .error .malformed
    else if isBlank c then foldedBreaks false rest
    else if isBreak c then do
      let (breaks, left) ← foldedBreaks true rest
      return (breakValue c :: breaks, left)
    else .ok ([], c :: rest)

/-- What a line end counts as, given the line ends that follow it. -/
def foldValue (first : Char) (more : List Char) : List Char :=
  if first ≠ '\n' then first :: more else if more.isEmpty then [' '] else more

/-- An escape behind a backslash: what it stands for, and what is left; `ending` is the fault if the
text ends in it. -/
def escape (ending : Fault) (cs : List Char) : Except Fault (List Text.Point × List Char) :=
  match cs with
  | [] => .error ending
  | c :: rest =>
    match escapeValue? c, escapeWidth? c with
    | some value, _ => .ok ([.char value], rest)
    | none, some width =>
      let digits := rest.take width
      if digits.length = width ∧ digits.all isHexDigit then do
        return ([← pointOfCode (hexNumber digits)], rest.drop width)
      else .error (if digits.all isHexDigit then ending else .malformed)
    | none, none =>
      if isBreak c then do
        let (breaks, left) ← foldedBreaks true rest
        return (Text.pointsOf breaks, left)
      else .error .malformed

theorem foldedBreaks_length {atStart : Bool} {cs breaks left : List Char}
    (h : foldedBreaks atStart cs = .ok (breaks, left)) : left.length ≤ cs.length := by
  induction cs generalizing atStart breaks left with
  | nil => simp only [foldedBreaks, Except.ok.injEq, Prod.mk.injEq] at h; simp [h.2.symm]
  | cons c rest ih =>
    simp only [foldedBreaks] at h
    split at h
    · cases h
    · split at h
      · exact Nat.le_succ_of_le (ih h)
      · split at h
        · cases hr : foldedBreaks true rest with
          | error e => simp [hr, bind, Except.bind] at h
          | ok p =>
            simp only [hr, bind, Except.bind, pure, Except.pure, Except.ok.injEq,
              Prod.mk.injEq] at h
            rw [← h.2]
            exact Nat.le_succ_of_le (@ih true p.1 p.2 hr)
        · simp only [Except.ok.injEq, Prod.mk.injEq] at h
          simp [h.2.symm]

theorem escape_length {ending : Fault} {cs left : List Char} {value : List Text.Point}
    (h : escape ending cs = .ok (value, left)) : left.length ≤ cs.length := by
  unfold escape at h
  split at h
  · cases h
  · rename_i c rest
    split at h
    · simp only [Except.ok.injEq, Prod.mk.injEq] at h; simp [h.2.symm]
    · dsimp only at h
      split at h
      · rename_i width _ _ _
        cases hc : pointOfCode (hexNumber (rest.take width)) with
        | error e => simp [hc, bind, Except.bind] at h
        | ok x =>
          simp only [hc, bind, Except.bind, pure, Except.pure, Except.ok.injEq,
            Prod.mk.injEq] at h
          rw [← h.2]
          simp only [List.length_drop, List.length_cons]
          omega
      · cases h
    · split at h
      · cases hb : foldedBreaks true rest with
        | error e => simp [hb, bind, Except.bind] at h
        | ok p =>
          simp only [hb, bind, Except.bind, pure, Except.pure, Except.ok.injEq, Prod.mk.injEq] at h
          rw [← h.2]
          exact Nat.le_succ_of_le (@foldedBreaks_length true rest p.1 p.2 hb)
      · cases h

/-- The text up to the closing quote, and what is left behind the quote; `ending` is the fault if
there is no closing quote. -/
def quotedBody (ending : Fault) (isDouble : Bool) :
    List Char → Except Fault (List Text.Point × List Char)
  | [] => .error ending
  | c :: rest =>
    let quote := if isDouble then '"' else '\''
    let before (piece : List Text.Point) (body : List Text.Point × List Char) :=
      (piece ++ body.1, body.2)
    if isBlank c then
      -- Blanks at the end of a line are dropped.
      let left := rest.dropWhile isBlank
      let blanks := if (left.head?.map isBreak).getD false then [] else c :: rest.takeWhile isBlank
      before (Text.pointsOf blanks) <$> quotedBody ending isDouble left
    else if isBreak c then
      match _h : foldedBreaks true rest with
      | .error e => .error e
      | .ok (breaks, left) =>
        before (Text.pointsOf (foldValue (breakValue c) breaks)) <$> quotedBody ending isDouble left
    else if c = quote then
      match isDouble, rest with
      | false, '\'' :: rest => before [.char '\''] <$> quotedBody ending isDouble rest
      | _, rest => .ok ([], rest)
    else if isDouble && c = '\\' then
      match _h : escape ending rest with
      | .error e => .error e
      | .ok (value, left) => before value <$> quotedBody ending isDouble left
    else before [.char c] <$> quotedBody ending isDouble rest
termination_by cs => cs.length
decreasing_by
  · have := (List.dropWhile_suffix isBlank (l := rest)).length_le
    simp only [List.length_cons]
    omega
  · have := foldedBreaks_length _h
    simp only [List.length_cons]
    omega
  · simp only [List.length_cons]
    omega
  · have := escape_length _h
    simp only [List.length_cons]
    omega
  · simp

end AuthKeyspace.Yaml
