/-!
# Code points

A document can give a character by its code, and the code can be one of those that stand for half of
a surrogate pair. Such a half is no character, but it is a code point, and a text of a document can
have it.

Main statements: `Point.code_ofCode?` (a code point has the code it was made from),
`chars?_pointsOf` and `chars?_eq_none` (a text with a half is no list of characters).
-/

namespace AuthKeyspace.Text

/-- A code point: a character, or half of a surrogate pair. -/
inductive Point
  | char (char : Char)
  | half (index : Fin 0x800)
deriving DecidableEq, Repr

namespace Point

/-- The code of a code point. -/
def code : Point → Nat
  | .char c => c.toNat
  | .half n => 0xd800 + n.val

/-- The code point with a code; there are none from 0x110000 on. -/
def ofCode? (n : Nat) : Option Point :=
  if h : 0xd800 ≤ n ∧ n < 0xe000 then some (.half ⟨n - 0xd800, by omega⟩)
  else if n < 0x110000 then some (.char (Char.ofNat n))
  else none

/-- The character that a code point is, or the given one in place of a half. -/
def charOr (other : Char) : Point → Char
  | .char c => c
  | .half _ => other

theorem code_ofCode? {n : Nat} {p : Point} (h : ofCode? n = some p) : p.code = n := by
  unfold ofCode? at h
  split at h
  · rename_i hn
    cases h
    simp only [code]
    omega
  · rename_i hn
    split at h
    · rename_i high
      cases h
      have valid : n.isValidChar := by
        unfold Nat.isValidChar
        omega
      show (Char.ofNat n).toNat = n
      have hchar : Char.ofNat n = Char.ofNatAux n valid := dif_pos valid
      rw [hchar]
      rfl
    · cases h

end Point

/-- The code points of some characters. -/
def pointsOf (cs : List Char) : List Point := cs.map .char

/-- The code points of a text. -/
def points (text : String) : List Point := pointsOf text.toList

/-- The characters that some code points are, if none of them is a half. -/
def chars? : List Point → Option (List Char)
  | [] => some []
  | .char c :: rest => (chars? rest).map (c :: ·)
  | .half _ :: _ => none

theorem chars?_pointsOf (cs : List Char) : chars? (pointsOf cs) = some cs := by
  induction cs with
  | nil => rfl
  | cons c rest ih =>
    rw [pointsOf] at ih ⊢
    rw [List.map_cons, chars?, ih, Option.map_some]

theorem chars?_eq_none {ps : List Point} {n : Fin 0x800} (h : Point.half n ∈ ps) :
    chars? ps = none := by
  induction ps with
  | nil => cases h
  | cons p rest ih =>
    cases p with
    | half m => rfl
    | char c =>
      rcases List.mem_cons.1 h with h | h
      · cases h
      · rw [chars?, ih h, Option.map_none]

end AuthKeyspace.Text
