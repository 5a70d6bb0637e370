import AuthKeyspace.Proofs.Digest.Hexadecimal

/-!
# What an identifier keeps of a name

An identifier is made of the digest of a name by writing over six of its 128 bits:
the high half of the seventh byte is the version and the top two bits of the ninth
are the variant (`stampedFrom_ofBytes`). Its text is all of its bytes in digits, so
it is read back from it (`ofText_text`): the reader takes off braces and the words
that may stand before an identifier, but finds none, and what is left without the
hyphens are the digits of one number.

The name is two names, one written behind the other. The bytes of a text are those
of its characters in their order, so where the first name ends leaves no trace
(`ofName_exact`).
-/

namespace AuthKeyspace.Digest.Uuid

open AuthKeyspace.Text

/-! ## Version and variant -/

/-- Where the high bits are written over, they are new, and elsewhere old. -/
theorem testBit_overwritten (n high k j : Nat) :
    (n &&& (2 ^ k - 1) ||| high <<< k).testBit j =
      if k ≤ j then high.testBit (j - k) else n.testBit j := by
  rw [Nat.testBit_or, Nat.testBit_and, Nat.testBit_two_pow_sub_one, Nat.testBit_shiftLeft]
  by_cases h : k ≤ j
  · have hlow : ¬ j < k := by omega
    simp [h, hlow]
  · have hlow : j < k := by omega
    simp [h, hlow]

theorem shiftRight_overwritten (n high k : Nat) :
    (n &&& (2 ^ k - 1) ||| high <<< k) >>> k = high := by
  refine Nat.eq_of_testBit_eq fun j => ?_
  rw [Nat.testBit_shiftRight, testBit_overwritten, if_pos (Nat.le_add_right k j),
    Nat.add_sub_cancel_left]

theorem toNat_byte_version (name : List UInt8) :
    ((ofBytes name).byte 6).toNat =
      ((md5 name).getD 6 0).toNat &&& (2 ^ 4 - 1) ||| 0b0011 <<< 4 := by
  have hbyte : (ofBytes name).byte 6 = (md5 name).getD 6 0 &&& 0x0f ||| 0x30 := by
    simp [byte, ofBytes, stamp]
  rw [hbyte, UInt8.toNat_or, UInt8.toNat_and]
  rfl

theorem toNat_byte_variant (name : List UInt8) :
    ((ofBytes name).byte 8).toNat =
      ((md5 name).getD 8 0).toNat &&& (2 ^ 6 - 1) ||| 0b10 <<< 6 := by
  have hbyte : (ofBytes name).byte 8 = (md5 name).getD 8 0 &&& 0x3f ||| 0x80 := by
    simp [byte, ofBytes, stamp]
  rw [hbyte, UInt8.toNat_or, UInt8.toNat_and]
  rfl

theorem byte_other {i : Nat} (h6 : i ≠ 6) (h8 : i ≠ 8) (name : List UInt8) :
    (ofBytes name).byte i = (md5 name).getD i 0 := by
  simp [byte, ofBytes, stamp, h6.symm, h8.symm]

/-- The identifier has the bits of a digest of sixteen bytes, but for the high half of
the seventh byte, which is `0011`, and the top two bits of the ninth, which are
`10`. -/
structure StampedFrom (digest : List UInt8) (u : Uuid) : Prop where
  length_digest : digest.length = 16
  testBit_byte : ∀ i < 16, ∀ j < 8, (u.byte i).toNat.testBit j =
    if i = 6 ∧ 4 ≤ j then (0b0011).testBit (j - 4)
    else if i = 8 ∧ 6 ≤ j then (0b10).testBit (j - 6)
    else (digest.getD i 0).toNat.testBit j

theorem stampedFrom_ofBytes (name : List UInt8) : (ofBytes name).StampedFrom (md5 name) where
  length_digest := length_md5 name
  testBit_byte := by
    intro i _ j _
    by_cases h6 : i = 6
    · subst h6
      rw [toNat_byte_version, testBit_overwritten]
      simp
    · by_cases h8 : i = 8
      · subst h8
        rw [toNat_byte_variant, testBit_overwritten]
        simp
      · simp [byte_other h6 h8, h6, h8]

theorem version_ofBytes (name : List UInt8) : (ofBytes name).version = 3 := by
  rw [version, toNat_byte_version, ← Nat.shiftRight_eq_div_pow _ 4]
  exact shiftRight_overwritten _ _ 4

theorem isRfc4122_ofBytes (name : List UInt8) : (ofBytes name).isRfc4122 = true := by
  have hmasked : (ofBytes name).byte 8 &&& 0xc0 = 0x80 := by
    refine UInt8.toNat_inj.1 ?_
    rw [UInt8.toNat_and, toNat_byte_variant, Nat.and_or_distrib_right, Nat.and_assoc]
    simp
  simp [isRfc4122, hmasked]

/-! ## The text -/

/-- The bytes of an identifier in the five parts that its text has. -/
def parts (u : Uuid) : List (List UInt8) :=
  [u.bytes.take 4, (u.bytes.take 6).drop 4, (u.bytes.take 8).drop 6, (u.bytes.take 10).drop 8,
    (u.bytes.take 16).drop 10]

theorem flatten_parts (u : Uuid) : u.parts.flatten = u.bytes := by
  have hnext {a b : Nat} (h : a ≤ b) :
      u.bytes.take a ++ (u.bytes.take b).drop a = u.bytes.take b := by
    have hsplit := List.take_append_drop a (u.bytes.take b)
    rwa [List.take_take, Nat.min_eq_left h] at hsplit
  simp only [parts, List.flatten_cons, List.flatten_nil, List.append_nil]
  rw [← List.append_assoc, ← List.append_assoc, ← List.append_assoc, hnext (by decide),
    hnext (by decide), hnext (by decide), hnext (by decide), ← u.length_bytes, List.take_length]

theorem toList_text (u : Uuid) : u.text.toList = ['-'].intercalate (u.parts.map digits) := by
  simp [text, parts, List.intercalate]

/-- The text is five groups of lower-case digits with hyphens between them, and the
digits are those of all bytes in their order. -/
structure WrittenAs (u : Uuid) (cs : List Char) : Prop where
  exists_groups : ∃ groups : List (List Char), cs = ['-'].intercalate groups ∧
    groups.map List.length = [8, 4, 4, 4, 12] ∧ groups.flatten = digits u.bytes
  lower : ∀ c ∈ digits u.bytes, c ∈ hexadecimal

theorem flatten_map_digits (bss : List (List UInt8)) :
    (bss.map digits).flatten = digits bss.flatten := by
  induction bss with
  | nil => rfl
  | cons bs bss ih => simp [digits, ih]

theorem writtenAs_text (u : Uuid) : u.WrittenAs u.text.toList where
  exists_groups := by
    refine ⟨u.parts.map digits, toList_text u, ?_, ?_⟩
    · simp [parts, length_digits, u.length_bytes]
    · rw [flatten_map_digits, flatten_parts]
  lower := mem_hexadecimal_of_digits u.bytes

theorem without_of_not_mem {c : Char} {cs : List Char} (h : c ∉ cs) (pattern : List Char) :
    without (c :: pattern) 0 cs = cs := by
  induction cs with
  | nil => rfl
  | cons d cs ih =>
    have hne : ¬ c = d := fun hc => h (hc ▸ List.mem_cons_self)
    have hrest : c ∉ cs := fun hc => h (List.mem_cons_of_mem d hc)
    rw [without, if_neg (by simp [hne]), ih hrest]

/-- Pieces are had back from their list without the separators, if none has one inside. -/
theorem filter_intercalate {separator : Char} {pieces : List (List Char)}
    (h : ∀ piece ∈ pieces, separator ∉ piece) :
    ([separator].intercalate pieces).filter (· != separator) = pieces.flatten := by
  have hpiece {piece : List Char} (hp : separator ∉ piece) :
      piece.filter (· != separator) = piece := by
    refine List.filter_eq_self.2 fun c hc => ?_
    have hne : c ≠ separator := fun hs => hp (hs ▸ hc)
    simpa using hne
  induction pieces with
  | nil => rfl
  | cons piece pieces ih =>
    obtain ⟨hfirst, hmore⟩ := List.forall_mem_cons.1 h
    cases pieces with
    | nil => simp [List.intercalate, hpiece hfirst]
    | cons next pieces =>
      rw [List.intercalate_cons_cons, List.filter_append, List.filter_append, ih hmore,
        hpiece hfirst, List.flatten_cons]
      simp

theorem filter_text (u : Uuid) : u.text.toList.filter (· != '-') = digits u.bytes := by
  have hhyphen : ∀ group ∈ u.parts.map digits, '-' ∉ group := by
    intro group hgroup
    obtain ⟨bs, -, rfl⟩ := List.mem_map.1 hgroup
    exact not_mem_hexadecimal (by decide) (mem_hexadecimal_of_digits bs)
  rw [toList_text, filter_intercalate hhyphen, flatten_map_digits, flatten_parts]

theorem mem_of_mem_text {u : Uuid} {c : Char} (h : c ∈ u.text.toList) :
    c ∈ '-' :: hexadecimal := by
  by_cases hc : c = '-'
  · exact hc ▸ List.mem_cons_self
  · have hdigit : c ∈ u.text.toList.filter (· != '-') := List.mem_filter.2 ⟨h, by simpa using hc⟩
    rw [filter_text] at hdigit
    exact List.mem_cons_of_mem _ (mem_hexadecimal_of_digits _ c hdigit)

/-- What is left when everything is taken off that may stand about the digits: only
the hyphens are there. -/
theorem bareDigits_text (u : Uuid) : bareDigits u.text = digits u.bytes := by
  have hu : 'u' ∉ u.text.toList := fun hu => absurd (mem_of_mem_text hu) (by decide)
  have hbrace : ∀ c ∈ u.text.toList, isBrace c = false := by
    have hall : ('-' :: hexadecimal).all (!isBrace ·) = true := by decide
    exact fun c hc => by simpa using List.all_eq_true.1 hall c (mem_of_mem_text hc)
  have huuid : without "uuid:".toList 0 u.text.toList = u.text.toList :=
    without_of_not_mem hu "uid:".toList
  have hurn : without "urn:".toList 0 u.text.toList = u.text.toList :=
    without_of_not_mem hu "rn:".toList
  simp only [bareDigits, huuid, hurn, trim_eq_self hbrace, filter_text]

/-- An identifier is read back from its text. -/
theorem ofText_text (u : Uuid) : ofText u.text = .ok u := by
  have hlength : (digits u.bytes).length = digitCount := by
    rw [length_digits, u.length_bytes]
    rfl
  have hne : u.bytes ≠ [] := List.ne_nil_of_length_pos (by simp [u.length_bytes])
  simp only [ofText, bareDigits_text, hlength, if_true, readIntegerIn_digits hne,
    Int.toNat_natCast, ofNat_number]

/-! ## Names -/

theorem nameBytes_eq_flatMap (text : String) :
    nameBytes text = text.toList.flatMap String.utf8EncodeChar := by
  have h := text.utf8Encode_toList
  rw [nameBytes, String.toUTF8, ← h, List.utf8Encode]
  simp

/-- The identifier made of two names. It is the digest of the characters of both in
UTF-8, one after the other, with version and variant written over six of the bits;
its text is that of an identifier and is read back as the same; and two other names
that give the same when they are joined have the same identifier. -/
theorem ofName_exact (first second : String) :
    (ofName first second).StampedFrom
        (md5 ((first.toList ++ second.toList).flatMap String.utf8EncodeChar)) ∧
      (ofName first second).version = 3 ∧ (ofName first second).isRfc4122 = true ∧
      (ofName first second).WrittenAs (ofName first second).text.toList ∧
      ofText (ofName first second).text = .ok (ofName first second) ∧
      ∀ first' second', first' ++ second' = first ++ second →
        ofName first' second' = ofName first second := by
  have hname : nameBytes first ++ nameBytes second =
      (first.toList ++ second.toList).flatMap String.utf8EncodeChar := by
    rw [nameBytes_eq_flatMap, nameBytes_eq_flatMap, List.flatMap_append]
  refine ⟨?_, version_ofBytes _, isRfc4122_ofBytes _, writtenAs_text _, ofText_text _, ?_⟩
  · rw [← hname]
    exact stampedFrom_ofBytes _
  · intro first' second' hjoined
    rw [ofName_append, hjoined, ← ofName_append]

end AuthKeyspace.Digest.Uuid
