/-!
# The MD5 digest

The digest of a sequence of bytes is sixteen bytes. The message is padded to whole blocks of 64
bytes, the last eight of which hold its length in bits; each block is sixteen words of 32 bits,
least byte first, and stirs a state of four words in 64 steps.

Main statement: `length_md5`, a digest has sixteen bytes.
-/

namespace AuthKeyspace.Digest

/-- The state that blocks stir. -/
structure State where
  a : UInt32
  b : UInt32
  c : UInt32
  d : UInt32

/-- The constants that are added in the 64 steps: the fractions of the sines of 1, 2, 3 and so
on. -/
def sines : List UInt32 := [
  0xd76aa478, 0xe8c7b756, 0x242070db, 0xc1bdceee, 0xf57c0faf, 0x4787c62a, 0xa8304613, 0xfd469501,
  0x698098d8, 0x8b44f7af, 0xffff5bb1, 0x895cd7be, 0x6b901122, 0xfd987193, 0xa679438e, 0x49b40821,
  0xf61e2562, 0xc040b340, 0x265e5a51, 0xe9b6c7aa, 0xd62f105d, 0x02441453, 0xd8a1e681, 0xe7d3fbc8,
  0x21e1cde6, 0xc33707d6, 0xf4d50d87, 0x455a14ed, 0xa9e3e905, 0xfcefa3f8, 0x676f02d9, 0x8d2a4c8a,
  0xfffa3942, 0x8771f681, 0x6d9d6122, 0xfde5380c, 0xa4beea44, 0x4bdecfa9, 0xf6bb4b60, 0xbebfbc70,
  0x289b7ec6, 0xeaa127fa, 0xd4ef3085, 0x04881d05, 0xd9d4d039, 0xe6db99e5, 0x1fa27cf8, 0xc4ac5665,
  0xf4292244, 0x432aff97, 0xab9423a7, 0xfc93a039, 0x655b59c3, 0x8f0ccc92, 0xffeff47d, 0x85845dd1,
  0x6fa87e4f, 0xfe2ce6e0, 0xa3014314, 0x4e0811a1, 0xf7537e82, 0xbd3af235, 0x2ad7d2bb, 0xeb86d391]

/-- How far the words are turned in the four steps of each kind. -/
def turns : List (List UInt32) :=
  [[7, 12, 17, 22], [5, 9, 14, 20], [4, 11, 16, 23], [6, 10, 15, 21]]

/-- Turn a word to the left. -/
def rotate (x n : UInt32) : UInt32 := (x <<< n) ||| (x >>> (32 - n))

/-- One step: `i` is its number, `sine` its constant. -/
def step (block : List UInt32) (s : State) (i : Nat) (sine : UInt32) : State :=
  let kind := i / 16
  let mixed : UInt32 :=
    match kind with
    | 0 => (s.b &&& s.c) ||| (~~~s.b &&& s.d)
    | 1 => (s.d &&& s.b) ||| (~~~s.d &&& s.c)
    | 2 => s.b ^^^ s.c ^^^ s.d
    | _ => s.c ^^^ (s.b ||| ~~~s.d)
  -- Each kind of step takes the words of the block in an order of its own.
  let index : Nat :=
    match kind with
    | 0 => i
    | 1 => 5 * i + 1
    | 2 => 3 * i + 5
    | _ => 7 * i
  let turn := ((turns.getD kind []).getD (i % 4) 0)
  let sum := s.a + mixed + sine + block.getD (index % 16) 0
  ⟨s.d, s.b + rotate sum turn, s.b, s.c⟩

/-- Stir the state with one block. -/
def stir (s : State) (block : List UInt32) : State :=
  let t := sines.zipIdx.foldl (fun t (sine, i) => step block t i sine) s
  ⟨s.a + t.a, s.b + t.b, s.c + t.c, s.d + t.d⟩

/-- The words of a sequence of bytes, least byte first. -/
def words : List UInt8 → List UInt32
  | a :: b :: c :: d :: rest =>
    (a.toUInt32 ||| b.toUInt32 <<< 8 ||| c.toUInt32 <<< 16 ||| d.toUInt32 <<< 24) :: words rest
  | _ => []

/-- The bytes of a word, least byte first. -/
def bytes (w : UInt32) : List UInt8 :=
  [w.toUInt8, (w >>> 8).toUInt8, (w >>> 16).toUInt8, (w >>> 24).toUInt8]

/-- What follows a message of `n` bytes: a one bit, zeros up to the last eight bytes of a block, and
the number of bits. -/
def padding (n : Nat) : List UInt8 :=
  0x80 :: List.replicate ((119 - n % 64) % 64) 0 ++
    (List.range 8).map fun i => UInt8.ofNat (8 * n / Nat.pow 256 i % 256)

/-- Cut words into blocks of sixteen. -/
def blocks (ws : List UInt32) : List (List UInt32) :=
  if ws.length < 16 then []
  else ws.take 16 :: blocks (ws.drop 16)
termination_by ws.length
decreasing_by simp only [List.length_drop]; omega

/-- The digest of a message. -/
def md5 (message : List UInt8) : List UInt8 :=
  let start : State := ⟨0x67452301, 0xefcdab89, 0x98badcfe, 0x10325476⟩
  let s := (blocks (words (message ++ padding message.length))).foldl stir start
  bytes s.a ++ bytes s.b ++ bytes s.c ++ bytes s.d

@[simp] theorem length_md5 (message : List UInt8) : (md5 message).length = 16 := by
  simp [md5, bytes]

end AuthKeyspace.Digest
