import AuthKeyspace.Digest.Md5
import AuthKeyspace.Text.Integer

/-!
# Identifiers made from names

A UUID is sixteen bytes. One that is made from a name is the digest of the name's bytes with the
version, three, in the high half of the seventh byte and the variant in the top two bits of the
ninth. It is written as hexadecimal digits in lower case with four hyphens between them.

A name is a text, so every character of it has its bytes. Half of a surrogate pair that stands alone
has none; a name with one, for which there is no identifier, is left out here.

`Uuid.ofName` makes one; `Uuid.text` writes it and `Uuid.ofText` reads it. Main statement:
`Uuid.ofName_append`, only the joined name counts.
-/

namespace AuthKeyspace.Digest

/-- Sixteen bytes that identify something. -/
structure Uuid where
  bytes : List UInt8
  length_bytes : bytes.length = 16
deriving DecidableEq, Repr

namespace Uuid

/-- Set version and variant in sixteen bytes. -/
def stamp (digest : List UInt8) : List UInt8 :=
  (digest.modify 6 fun b => b &&& 0x0f ||| 0x30).modify 8 fun b => b &&& 0x3f ||| 0x80

@[simp] theorem length_stamp (digest : List UInt8) : (stamp digest).length = digest.length := by
  simp [stamp]

/-- The identifier made of a sequence of bytes. -/
def ofBytes (name : List UInt8) : Uuid := ⟨stamp (md5 name), by simp⟩

/-- The bytes of a text. -/
def nameBytes (text : String) : List UInt8 := text.toUTF8.data.toList

/-- The identifier made of two names, one written right behind the other. -/
def ofName (first second : String) : Uuid := ofBytes (nameBytes first ++ nameBytes second)

/-- The byte at a place. -/
def byte (u : Uuid) (i : Nat) : UInt8 := u.bytes.getD i 0

/-- How the identifier was made. -/
def version (u : Uuid) : Nat := (u.byte 6).toNat / 16

/-- Is the variant the one of RFC 4122? -/
def isRfc4122 (u : Uuid) : Bool := u.byte 8 &&& 0xc0 == 0x80

/-- The two hexadecimal digits of a byte. -/
def byteDigits (b : UInt8) : List Char :=
  [Nat.digitChar (b.toNat / 16), Nat.digitChar (b.toNat % 16)]

/-- Some bytes in hexadecimal digits. -/
def digits (bs : List UInt8) : List Char := bs.flatMap byteDigits

/-- The identifier in hexadecimal digits, with hyphens behind the bytes 4, 6, 8 and 10. -/
def text (u : Uuid) : String :=
  let part (start stop : Nat) := digits ((u.bytes.take stop).drop start)
  String.ofList <| part 0 4 ++ '-' :: part 4 6 ++ '-' :: part 6 8 ++ '-' :: part 8 10 ++
    '-' :: part 10 16

/-! ## Reading -/

/-- The identifier with a number, whose highest byte comes first. -/
def ofNat (n : Nat) : Uuid :=
  ⟨(List.range 16).map fun i => UInt8.ofNat (n / Nat.pow 256 (15 - i)), by simp⟩

/-- A text without the occurrences of a pattern, found from left to right; `inside` characters of
one are still to come. -/
def without (pattern : List Char) : Nat → List Char → List Char
  | _, [] => []
  | inside + 1, _ :: rest => without pattern inside rest
  | 0, c :: rest =>
    if pattern.isPrefixOf (c :: rest) then without pattern (pattern.length - 1) rest
    else c :: without pattern 0 rest

/-- Is `c` a brace? -/
def isBrace (c : Char) : Bool := c = '\x7b' || c = '\x7d'

/-- The digits of an identifier, without what may be written about them: words that say what it is,
braces around it, and hyphens anywhere. -/
def bareDigits (text : String) : List Char :=
  let cs := without "uuid:".toList 0 (without "urn:".toList 0 text.toList)
  let cs := ((cs.dropWhile isBrace).reverse.dropWhile isBrace).reverse
  cs.filter (· != '-')

/-- How many digits an identifier has. -/
def digitCount : Nat := 32

/-- Why a text is no identifier. -/
inductive Fault
  | malformed
  | notANumber (fault : Text.IntegerFault)
deriving DecidableEq, Repr

/-- What is said of a text that is no identifier. -/
def Fault.message : Fault → String
  | .malformed => "badly formed hexadecimal UUID string"
  | .notANumber fault => fault.message

/-- Read an identifier; what is left of its text has to be a number of the right length. -/
def ofText (text : String) : Except Fault Uuid :=
  let digits := bareDigits text
  if digits.length = digitCount then
    match Text.readIntegerIn 16 (Text.pointsOf digits) with
    | .ok n => .ok (ofNat n.toNat)
    | .error fault => .error (.notANumber fault)
  else .error .malformed

theorem nameBytes_append (s t : String) : nameBytes (s ++ t) = nameBytes s ++ nameBytes t := by
  simp [nameBytes]

theorem ofName_append (s t : String) : ofName s t = ofName (s ++ t) "" := by
  have : nameBytes "" = [] := rfl
  simp [ofName, nameBytes_append, this]

end Uuid

end AuthKeyspace.Digest
