import AuthKeyspace.Text.Quoted

/-!
# Characters from bytes

A file is read in blocks, and each block is turned into characters together with the bytes that the
block before left over: those of a character that was not complete yet. A sequence of bytes that
begins no character is an error; its place is counted from the first byte of what is looked at, so
from the left-over bytes. What is left over at the end of the file is an error too.

A first byte says how many bytes follow and which values the second may have, so that no character
is written in more bytes than it needs and none is a surrogate.

Main statement: `head_rest_length`, a character takes bytes away.
-/

namespace AuthKeyspace.Text.Utf8

/-- Why bytes are not characters. -/
inductive Fault
  | startByte
  | continuationByte
  | endOfData
deriving DecidableEq, Repr

/-- The reason as it is told. -/
def Fault.text : Fault → String
  | .startByte => "invalid start byte"
  | .continuationByte => "invalid continuation byte"
  | .endOfData => "unexpected end of data"

/-- Bytes that are not characters, and the place of the first of them. -/
structure DecodeError where
  fault : Fault
  position : Nat
  bytes : List UInt8
deriving DecidableEq, Repr

/-- What is said of bytes that are not characters. -/
def DecodeError.message (e : DecodeError) : String :=
  let place :=
    match e.bytes with
    | [b] =>
      "byte 0x" ++ String.ofList (hexDigits 2 b.toNat) ++ " in position " ++ toString e.position
    | bs =>
      "bytes in position " ++ toString e.position ++ "-" ++ toString (e.position + bs.length - 1)
  "'utf-8' codec can't decode " ++ place ++ ": " ++ e.fault.text

/-! ## One character -/

/-- What some bytes begin with: a character and the bytes behind it, the first bytes of a character
that goes on behind the end, or so many bytes that are wrong. -/
inductive Head
  | char (c : Char) (rest : List UInt8)
  | unfinished
  | wrong (fault : Fault) (length : Nat)

/-- Does a byte go on with a character? -/
def isContinuation (b : UInt8) : Bool := 0x80 ≤ b && b ≤ 0xbf

/-- How many bytes follow a first byte, and the values between which the second has to be. -/
def shape? (b : UInt8) : Option (Nat × UInt8 × UInt8) :=
  if 0xc2 ≤ b ∧ b ≤ 0xdf then some (1, 0x80, 0xbf)
  else if b = 0xe0 then some (2, 0xa0, 0xbf)
  else if b = 0xed then some (2, 0x80, 0x9f)
  else if 0xe1 ≤ b ∧ b ≤ 0xef then some (2, 0x80, 0xbf)
  else if b = 0xf0 then some (3, 0x90, 0xbf)
  else if 0xf1 ≤ b ∧ b ≤ 0xf3 then some (3, 0x80, 0xbf)
  else if b = 0xf4 then some (3, 0x80, 0x8f)
  else none

/-- Read `count` more bytes of a character; `value` is what the bytes before say, `done` is their
number. -/
def continued (value done : Nat) : Nat → List UInt8 → Head
  | 0, rest => .char (Char.ofNat value) rest
  | _ + 1, [] => .unfinished
  | count + 1, b :: rest =>
    if isContinuation b then continued (value * 64 + b.toNat % 64) (done + 1) count rest
    else .wrong .continuationByte done

/-- Look at the first bytes. -/
def head (b : UInt8) (rest : List UInt8) : Head :=
  if b < 0x80 then .char (Char.ofNat b.toNat) rest
  else
    match shape? b with
    | none => .wrong .startByte 1
    | some (count, low, high) =>
      let value := b.toNat % (if count = 1 then 32 else if count = 2 then 16 else 8)
      match rest with
      | [] => .unfinished
      | second :: _ =>
        if low ≤ second ∧ second ≤ high then continued value 1 count rest
        else .wrong .continuationByte 1

theorem continued_rest_length {value done count : Nat} {bs rest : List UInt8} {c : Char}
    (h : continued value done count bs = .char c rest) : rest.length ≤ bs.length := by
  induction count generalizing value done bs with
  | zero => simp only [continued, Head.char.injEq] at h; simp [h.2]
  | succ count ih =>
    cases bs with
    | nil => simp [continued] at h
    | cons b bs =>
      simp only [continued] at h
      split at h
      · have := ih h
        simp only [List.length_cons]
        omega
      · cases h

theorem head_rest_length {b : UInt8} {bs rest : List UInt8} {c : Char}
    (h : head b bs = .char c rest) : rest.length ≤ bs.length := by
  unfold head at h
  split at h
  · simp only [Head.char.injEq] at h; simp [h.2]
  · split at h
    · cases h
    · dsimp only at h
      split at h
      · cases h
      · split at h
        · exact continued_rest_length h
        · cases h

/-! ## Blocks -/

/-- The characters of a run of bytes, with the bytes behind the last of them and the fault, if any,
that stopped the run; the fault comes with the number of wrong bytes. -/
structure Decoded where
  chars : List Char
  left : List UInt8
  stop? : Option (Fault × Nat)

/-- Turn bytes into characters as far as it goes. -/
def decodeRun : List UInt8 → Decoded
  | [] => ⟨[], [], none⟩
  | b :: bs =>
    match _h : head b bs with
    | .char c rest =>
      let more := decodeRun rest
      { more with chars := c :: more.chars }
    | .unfinished => ⟨[], b :: bs, none⟩
    | .wrong fault length => ⟨[], b :: bs, some (fault, length)⟩
termination_by bs => bs.length
decreasing_by
  have := head_rest_length _h
  simp only [List.length_cons]
  omega

/-- Is this the beginning of a surrogate at the end of a block? It waits for the next block,
although no third byte makes it a character. -/
def isCutSurrogate : List UInt8 → Bool
  | [b, second] => b == 0xed && 0xa0 ≤ second && second ≤ 0xbf
  | _ => false

/-- The characters of a block and the bytes left over. -/
def decodeBlock (isLast : Bool) (bs : List UInt8) : Except DecodeError (List Char × List UInt8) :=
  let run := decodeRun bs
  let position := bs.length - run.left.length
  match run.stop? with
  | some (fault, length) =>
    if !isLast && isCutSurrogate run.left then .ok (run.chars, run.left)
    else .error ⟨fault, position, run.left.take length⟩
  | none =>
    if isLast && !run.left.isEmpty then .error ⟨.endOfData, position, run.left⟩
    else .ok (run.chars, run.left)

end AuthKeyspace.Text.Utf8
