/-!
# Bytes as letters

Four letters of an alphabet of 64 stand for three bytes. At the end two or three letters stand for
one or two bytes, and equals signs fill them up to four. Characters that are not in the alphabet are
passed over, and what comes behind the equals signs is not read.
-/

namespace AuthKeyspace.Text.Base64

/-- The value of a letter. -/
def value? (c : Char) : Option Nat :=
  if 'A' ≤ c ∧ c ≤ 'Z' then some (c.toNat - 65)
  else if 'a' ≤ c ∧ c ≤ 'z' then some (c.toNat - 71)
  else if '0' ≤ c ∧ c ≤ '9' then some (c.toNat + 4)
  else if c = '+' then some 62
  else if c = '/' then some 63
  else none

/-- The bytes that some letters stand for; the bits that fill the last byte are left out. A single
letter is not enough for a byte. -/
def bytes? : List Nat → Option (List UInt8)
  | [] => some []
  | [_] => none
  | [a, b] => some [UInt8.ofNat (a * 4 + b / 16)]
  | [a, b, c] => some [UInt8.ofNat (a * 4 + b / 16), UInt8.ofNat (b % 16 * 16 + c / 4)]
  | a :: b :: c :: d :: rest => do
    let more ← bytes? rest
    return UInt8.ofNat (a * 4 + b / 16) :: UInt8.ofNat (b % 16 * 16 + c / 4) ::
      UInt8.ofNat (c % 4 * 64 + d) :: more

/-- The values of the letters, up to the equals signs that fill them up. `place` letters of four
have been read, with `signs` equals signs behind the last. -/
def values? : Nat → Nat → List Char → Option (List Nat)
  | place, _, [] => if place = 0 then some [] else none
  | place, signs, c :: rest =>
    if c = '=' then
      if place < 2 then values? place signs rest
      else if 4 ≤ place + (signs + 1) then some []
      else values? place (signs + 1) rest
    else
      match value? c with
      | some v => (values? ((place + 1) % 4) 0 rest).map (v :: ·)
      | none => values? place signs rest

/-- The bytes of a text. -/
def decode? (cs : List Char) : Option (List UInt8) := do bytes? (← values? 0 0 cs)

end AuthKeyspace.Text.Base64
