import AuthKeyspace.Text.Utf8

/-!
# Text files in portions

A file is read in blocks of bytes. Each block is turned into characters, and the characters are
handed out in portions, so that the beginning of a file is there although a later part of it is
wrong. A line can end with a carriage return, a line feed or both; all become line feeds, and a
carriage return at the end of a block waits for what comes behind it.

A block has 8192 bytes, or more if so many are expected to be missing: as many for each character as
the characters of the block before had.

Main statement: `unifyBreaks_eq_self`, a text without carriage returns is not changed.
-/

namespace AuthKeyspace.Text

open AuthKeyspace.Text.Utf8

/-- Write every carriage return, with the line feed behind it if there is one, as a line feed. -/
def unifyBreaks : List Char → List Char
  | [] => []
  | '\r' :: '\n' :: rest => '\n' :: unifyBreaks rest
  | '\r' :: rest => '\n' :: unifyBreaks rest
  | c :: rest => c :: unifyBreaks rest

theorem unifyBreaks_eq_self {cs : List Char} (h : '\r' ∉ cs) : unifyBreaks cs = cs := by
  fun_induction unifyBreaks cs with
  | case1 => rfl
  | case2 => simp at h
  | case3 => simp at h
  | case4 c rest _ _ ih =>
    simp only [List.mem_cons, not_or] at h
    rw [ih h.2]

/-! ## Blocks -/

/-- A file that is being read: the bytes to come, the bytes of a character that is not complete,
whether a carriage return waits, the characters that are ready, and how many bytes made how many
characters in the block before. -/
structure Stream where
  bytes : List UInt8
  left : List UInt8 := []
  returnWaits : Bool := false
  chars : List Char := []
  blockBytes : Nat := 1
  blockChars : Nat := 1
deriving DecidableEq, Repr

namespace Stream

/-- The smallest number of bytes in a block. -/
def minBlock : Nat := 8192

/-- The number of bytes in the next block when some characters are missing. -/
def blockSize (s : Stream) (missing : Nat) : Nat :=
  max minBlock (max missing (s.blockBytes * missing / s.blockChars))

/-- Read one block more. Behind the last byte the block is empty, and nothing waits any longer. -/
def fill (s : Stream) (missing : Nat) : Except DecodeError Stream := do
  let size := s.blockSize missing
  let block := s.bytes.take size
  let isLast := block.isEmpty
  let (fresh, left) ← decodeBlock isLast (s.left ++ block)
  let joins := s.returnWaits && (isLast || !fresh.isEmpty)
  let fresh := if joins then '\r' :: fresh else fresh
  let cut := !isLast && fresh.getLast? == some '\r'
  let fresh := unifyBreaks (if cut then fresh.dropLast else fresh)
  return {
    bytes := s.bytes.drop size
    left
    returnWaits := cut || (s.returnWaits && !joins)
    chars := s.chars ++ fresh
    blockBytes := if fresh.isEmpty then 1 else block.length
    blockChars := max 1 fresh.length }

/-- The number of characters in a portion. -/
def portionSize : Nat := 4096

/-- Read on until the next portion is ready or the file has ended; each step but the last takes one
byte at least. -/
def ready : Nat → Stream → Except DecodeError Stream
  | 0, s => .ok s
  | fuel + 1, s =>
    if portionSize ≤ s.chars.length then .ok s
    else do
      let next ← s.fill (portionSize - s.chars.length)
      if s.bytes.isEmpty then return next else next.ready fuel

end Stream

/-! ## Portions -/

/-- The characters of a file in portions, and what is wrong behind them. -/
structure Portions where
  portions : List (List Char)
  stop? : Option DecodeError
deriving DecidableEq, Repr

/-- Read portions; each of them has one character at least. -/
def Stream.portions : Nat → Stream → Portions
  | 0, _ => ⟨[], none⟩
  | fuel + 1, s =>
    match s.ready (s.bytes.length + 1) with
    | .error e => ⟨[], some e⟩
    | .ok s =>
      if s.chars.isEmpty then ⟨[], none⟩
      else
        let more := portions fuel { s with chars := s.chars.drop portionSize }
        { more with portions := s.chars.take portionSize :: more.portions }

/-- Read a file in portions. -/
def portionsOf (bytes : List UInt8) : Portions := Stream.portions (bytes.length + 1) { bytes }

end AuthKeyspace.Text
