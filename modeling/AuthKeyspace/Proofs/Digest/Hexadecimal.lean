import AuthKeyspace.Digest.Uuid
import Mathlib.Tactic.Ring

/-!
# Bytes in hexadecimal digits

A byte is written as two digits, the higher one first, so the digits of some bytes
are those of one number whose highest byte comes first. Read as a number of base
sixteen they give it back (`readIntegerIn_digits`), since there is nothing in them
that the reader of numbers takes for anything else: no sign, no margin, no
underscore and no mark of the base. And the number has each of the bytes at its
place (`ofNat_number`), so nothing is lost on the way.
-/

namespace AuthKeyspace.Digest.Uuid

open AuthKeyspace.Text

/-! ## The digits -/

/-- The hexadecimal digits in lower case. -/
def hexadecimal : List Char := "0123456789abcdef".toList

theorem digitChar_mem {d : Nat} (h : d < 16) : Nat.digitChar d ∈ hexadecimal := by
  have hall : ∀ d ∈ List.range 16, Nat.digitChar d ∈ hexadecimal := by decide
  exact hall d (List.mem_range.2 h)

theorem digitIn?_digitChar {d : Nat} (h : d < 16) : digitIn? 16 (Nat.digitChar d) = some d := by
  have hall : ∀ d ∈ List.range 16, digitIn? 16 (Nat.digitChar d) = some d := by decide
  exact hall d (List.mem_range.2 h)

theorem not_mem_hexadecimal {c : Char} (h : c ∉ hexadecimal) {cs : List Char}
    (hcs : ∀ d ∈ cs, d ∈ hexadecimal) : c ∉ cs := fun hc => h (hcs c hc)

@[simp] theorem digits_nil : digits [] = [] := rfl

theorem digits_cons (b : UInt8) (bs : List UInt8) :
    digits (b :: bs) =
      Nat.digitChar (b.toNat / 16) :: Nat.digitChar (b.toNat % 16) :: digits bs := rfl

theorem mem_hexadecimal_of_digits (bs : List UInt8) : ∀ c ∈ digits bs, c ∈ hexadecimal := by
  induction bs with
  | nil => simp
  | cons b bs ih =>
    have hbyte : b.toNat < 256 := b.toNat_lt
    rw [digits_cons]
    exact List.forall_mem_cons.2 ⟨digitChar_mem (by omega),
      List.forall_mem_cons.2 ⟨digitChar_mem (by omega), ih⟩⟩

theorem length_digits (bs : List UInt8) : (digits bs).length = 2 * bs.length := by
  induction bs with
  | nil => rfl
  | cons b bs ih =>
    simp only [digits_cons, List.length_cons, ih]
    omega

/-! ## Reading them -/

/-- The number that some bytes are, the highest one first. -/
def number (bs : List UInt8) : Nat := bs.foldl (fun n b => 256 * n + b.toNat) 0

/-- Nothing is cut off where nothing is looked for. -/
theorem trim_eq_self {p : Char → Bool} {cs : List Char} (h : ∀ c ∈ cs, p c = false) :
    ((cs.dropWhile p).reverse.dropWhile p).reverse = cs := by
  have hkept {ds : List Char} (hds : ∀ c ∈ ds, p c = false) : ds.dropWhile p = ds := by
    cases ds with
    | nil => rfl
    | cons d ds => exact List.dropWhile_cons_of_neg (by simp [hds d])
  have hreverse : ∀ c ∈ cs.reverse, p c = false := fun c hc => h c (List.mem_reverse.1 hc)
  rw [hkept h, hkept hreverse, List.reverse_reverse]

theorem moreDigits?_cons {base value : Nat} {c : Char} (h : c ≠ '_') (rest : List Char) :
    moreDigits? base value (c :: rest) =
      (digitIn? base c).bind fun d => moreDigits? base (base * value + d) rest := by
  rw [moreDigits?]
  · rfl
  · exact fun _ _ hc => absurd hc h

theorem moreDigits?_digits (bs : List UInt8) (value : Nat) :
    moreDigits? 16 value (digits bs) = some (bs.foldl (fun n b => 256 * n + b.toNat) value) := by
  have hplain {d : Nat} (hd : d < 16) : Nat.digitChar d ≠ '_' := fun h =>
    absurd (h ▸ digitChar_mem hd) (by decide)
  induction bs generalizing value with
  | nil => rfl
  | cons b bs ih =>
    have hbyte : b.toNat < 256 := b.toNat_lt
    have hhigh : b.toNat / 16 < 16 := by omega
    have hlow : b.toNat % 16 < 16 := by omega
    have hvalue : 16 * (16 * value + b.toNat / 16) + b.toNat % 16 = 256 * value + b.toNat := by
      omega
    rw [digits_cons, moreDigits?_cons (hplain hhigh), digitIn?_digitChar hhigh, Option.bind_some,
      moreDigits?_cons (hplain hlow), digitIn?_digitChar hlow, Option.bind_some, hvalue, ih,
      List.foldl_cons]

theorem digitsValue?_eq_moreDigits? {base : Nat} {cs : List Char} (h : '_' ∉ cs) (hne : cs ≠ []) :
    digitsValue? base cs = moreDigits? base 0 cs := by
  cases cs with
  | nil => exact absurd rfl hne
  | cons c rest =>
    have hc : c ≠ '_' := fun hc => h (hc ▸ List.mem_cons_self)
    rw [moreDigits?_cons hc, Nat.mul_zero]
    simp only [Nat.zero_add]
    rfl

section

variable {cs : List Char} (h : ∀ c ∈ cs, c ∈ hexadecimal)

include h

theorem trimMargins_eq_self : trimMargins cs = cs := by
  have hmargin : hexadecimal.all (!isNumberMargin ·) = true := by decide
  exact trim_eq_self fun c hc => by simpa using List.all_eq_true.1 hmargin c (h c hc)

theorem splitSign_eq : splitSign cs = (false, cs) := by
  unfold splitSign
  split
  · exact absurd (h '-' List.mem_cons_self) (by decide)
  · exact absurd (h '+' List.mem_cons_self) (by decide)
  · rfl

theorem dropBaseMark_eq_self : dropBaseMark 16 cs = cs := by
  have hmark : hexadecimal.all (·.toLower != 'x') = true := by decide
  unfold dropBaseMark
  split
  · next zero letter rest =>
    have hletter : letter.toLower ≠ 'x' := by
      simpa using List.all_eq_true.1 hmark letter (h letter (by simp))
    rw [if_neg]
    exact fun hx => hletter (Option.some.inj hx.2).symm
  · rfl

end

/-- The digits of some bytes are read as the number that the bytes are. -/
theorem readIntegerIn_digits {bs : List UInt8} (h : bs ≠ []) :
    readIntegerIn 16 (pointsOf (digits bs)) = .ok (number bs : Int) := by
  have hdigits := mem_hexadecimal_of_digits bs
  have hne : digits bs ≠ [] := by
    cases bs with
    | nil => exact absurd rfl h
    | cons b bs => simp [digits_cons]
  have hunderscore : '_' ∉ digits bs := not_mem_hexadecimal (by decide) hdigits
  have hchars : (pointsOf (digits bs)).map (Point.charOr '?') = digits bs := by
    simp [pointsOf, Function.comp_def, Point.charOr]
  have hvalue : integerValue? 16 (digits bs) = some (number bs : Int) := by
    simp only [integerValue?, trimMargins_eq_self hdigits, splitSign_eq hdigits,
      dropBaseMark_eq_self hdigits, digitsValue?_eq_moreDigits? hunderscore hne,
      moreDigits?_digits]
    rfl
  have hexcess : excess? 16 (digits bs) = none := by
    simp [excess?]
  simp only [readIntegerIn, hchars, hexcess, hvalue]

/-! ## The bytes of a number -/

theorem foldl_eq_number (bs : List UInt8) (n : Nat) :
    bs.foldl (fun n b => 256 * n + b.toNat) n = n * 256 ^ bs.length + number bs := by
  induction bs generalizing n with
  | nil => simp [number]
  | cons b bs ih =>
    rw [number, List.foldl_cons, List.foldl_cons, ih, ih, List.length_cons, Nat.pow_succ']
    ring

theorem number_cons (b : UInt8) (bs : List UInt8) :
    number (b :: bs) = b.toNat * 256 ^ bs.length + number bs := by
  rw [number, List.foldl_cons, foldl_eq_number]
  simp

theorem number_lt (bs : List UInt8) : number bs < 256 ^ bs.length := by
  induction bs with
  | nil => decide
  | cons b bs ih =>
    have hbyte : b.toNat + 1 ≤ 256 := b.toNat_lt
    calc number (b :: bs) = b.toNat * 256 ^ bs.length + number bs := number_cons b bs
      _ < b.toNat * 256 ^ bs.length + 256 ^ bs.length := by omega
      _ = (b.toNat + 1) * 256 ^ bs.length := by ring
      _ ≤ 256 * 256 ^ bs.length := Nat.mul_le_mul_right _ hbyte
      _ = 256 ^ (b :: bs).length := by rw [List.length_cons, Nat.pow_succ']

/-- A byte stands in the number above those behind it. -/
theorem ofNat_number_append (before after : List UInt8) (b : UInt8) :
    UInt8.ofNat (number (before ++ b :: after) / 256 ^ after.length) = b := by
  have hnumber : number (before ++ b :: after) =
      (256 * number before + b.toNat) * 256 ^ after.length + number after := by
    rw [number, List.foldl_append, List.foldl_cons, foldl_eq_number]
    rfl
  have hpos : 0 < 256 ^ after.length := Nat.pow_pos (by decide)
  rw [hnumber, Nat.mul_comm, Nat.mul_add_div hpos, Nat.div_eq_of_lt (number_lt after)]
  refine UInt8.toNat_inj.1 ?_
  have hbyte : b.toNat < 256 := b.toNat_lt
  rw [UInt8.toNat_ofNat']
  omega

/-- An identifier is had back from its number. -/
theorem ofNat_number (u : Uuid) : ofNat (number u.bytes) = u := by
  obtain ⟨bs, hlength⟩ := u
  simp only [ofNat, Uuid.mk.injEq]
  refine List.ext_getElem (by simp [hlength]) fun i _ hi => ?_
  have hsplit : bs = bs.take i ++ bs[i] :: bs.drop (i + 1) := by simp
  have hafter : (bs.drop (i + 1)).length = 15 - i := by
    rw [List.length_drop, hlength]
    omega
  have hbyte := ofNat_number_append (bs.take i) (bs.drop (i + 1)) bs[i]
  rw [← hsplit, hafter] at hbyte
  simpa using hbyte

end AuthKeyspace.Digest.Uuid
