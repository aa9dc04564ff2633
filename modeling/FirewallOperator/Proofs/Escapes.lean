import FirewallOperator.Backend
import Mathlib

/-! # Escapes are undone

What a URL cannot hold is written as escapes, and a server reads these back. A text whose percent
signs are escaped too is read back as it was (`percentDecode_percentEncode`), and so is every form
(`formPairs?_formPairs`). A path leaves percent signs alone. What looks like an escape in a text is
then taken for one, so that fewer bytes come back than were written
(`length_percentDecode_add_escapes_le`). -/

namespace FirewallOperator

/-! ## Bytes of characters -/

/-- The bytes that encode characters. -/
def charBytes (cs : List Char) : List UInt8 := cs.flatMap String.utf8EncodeChar

/-- No characters have no bytes. -/
@[simp] theorem charBytes_nil : charBytes [] = [] := rfl

/-- The bytes of characters are those of the first one, and then the others. -/
@[simp] theorem charBytes_cons (c : Char) (cs : List Char) :
    charBytes (c :: cs) = String.utf8EncodeChar c ++ charBytes cs := rfl

/-- The bytes of two pieces are written one after the other. -/
@[simp] theorem charBytes_append (cs ds : List Char) :
    charBytes (cs ++ ds) = charBytes cs ++ charBytes ds := List.flatMap_append

/-- The bytes of a text are those of its characters. -/
theorem utf8_eq_charBytes (s : String) : utf8 s = charBytes s.toList := rfl

/-- A text that is made of characters has their bytes. -/
@[simp] theorem utf8_ofList (cs : List Char) : utf8 (String.ofList cs) = charBytes cs := by
  rw [utf8_eq_charBytes, String.toList_ofList]

/-- Every character is at least one byte. -/
theorem length_le_charBytes (cs : List Char) : cs.length ≤ (charBytes cs).length := by
  induction cs with
  | nil => exact Nat.le_refl _
  | cons c cs ih =>
    have hpos := List.length_pos_iff.2 (String.utf8EncodeChar_ne_nil (c := c))
    rw [List.length_cons, charBytes_cons, List.length_append]
    omega

/-- A character of ASCII is one byte. -/
theorem utf8EncodeChar_of_ascii {c : Char} (h : c.toNat < 128) :
    String.utf8EncodeChar c = [UInt8.ofNat c.toNat] := by
  have hle : c.val.toNat ≤ 127 := Nat.le_of_lt_succ h
  simp only [String.utf8EncodeChar, hle, if_true]
  rfl

/-- What holds of the first characters by number holds of every character of ASCII. -/
theorem forall_ascii {P : Char → Prop} (h : ∀ n < 128, P (Char.ofNat n)) {c : Char}
    (hc : c.toNat < 128) : P c := by
  have hn := h c.toNat hc
  rwa [Char.ofNat_toNat] at hn

/-- A sign is in ASCII if it is one of signs that are. -/
theorem ascii_of_mem {signs : List Char} (h : signs.all (·.toNat < 128) = true) {c : Char}
    (hc : c ∈ signs) : c.toNat < 128 := of_decide_eq_true (List.all_eq_true.1 h c hc)

/-- Letters and digits are in ASCII. -/
theorem ascii_of_isAlphanum {c : Char} (h : c.isAlphanum = true) : c.toNat < 128 := by
  simp only [Char.isAlphanum, Char.isAlpha, Char.isUpper, Char.isLower, Char.isDigit,
    Bool.or_eq_true, Bool.and_eq_true, decide_eq_true_iff, ge_iff_le,
    UInt32.le_iff_toNat_le] at h
  have hZ : 'Z'.val.toNat = 90 := rfl
  have hz : 'z'.val.toNat = 122 := rfl
  have h9 : '9'.val.toNat = 57 := rfl
  show c.val.toNat < 128
  omega

/-- A character in ASCII is its only byte. -/
theorem ofNat_toNat_of_ascii {c : Char} (h : c.toNat < 128) :
    Char.ofNat (UInt8.ofNat c.toNat).toNat = c := by
  rw [UInt8.toNat_ofNat_of_lt' (Nat.lt_trans h (by decide)), Char.ofNat_toNat]

/-- A text is decoded to the one whose bytes its escapes make up. -/
theorem Backend.decoded?_eq_some_iff {s t : String} :
    decoded? s = some t ↔ percentDecode (utf8 s) = utf8 t := by
  -- both sides compare bytes, in an array or in a list
  have hbytes : ∀ bytes : List UInt8, ByteArray.mk bytes.toArray = t.toByteArray ↔
      bytes = utf8 t := by
    intro bytes
    rw [← String.utf8Encode_toList, List.utf8Encode, ByteArray.ext_iff, List.data_toByteArray]
    simp [utf8]
  rw [decoded?, String.fromUTF8?, ← hbytes]
  split
  case isTrue => rw [Option.some.injEq, ← String.toByteArray_inj]; rfl
  case isFalse hinvalid =>
    refine iff_of_false (by simp) fun heq => hinvalid ?_
    rw [heq]
    exact t.isValidUTF8

/-! ## Single escapes -/

variable {bytes : List UInt8}

/-- No bytes are decoded to none. -/
@[simp] theorem percentDecode_nil : percentDecode [] = [] := by rw [percentDecode]

/-- A byte that is no percent sign is decoded to itself. -/
theorem percentDecode_cons_of_ne {b : UInt8} (h : b ≠ 0x25) :
    percentDecode (b :: bytes) = b :: percentDecode bytes := by
  rw [percentDecode]
  exact fun _ _ _ hb => absurd hb h

/-- A percent sign is kept unless two digits follow. -/
theorem percentDecode_percent (h : ∀ a b rest, bytes = a :: b :: rest →
    hexValue? (Char.ofNat a.toNat) = none ∨ hexValue? (Char.ofNat b.toNat) = none) :
    percentDecode (0x25 :: bytes) = 0x25 :: percentDecode bytes := by
  cases bytes with
  | nil =>
    rw [percentDecode]
    intro _ _ _ _ hsplit
    cases hsplit
  | cons a bytes =>
    cases bytes with
    | nil =>
      rw [percentDecode]
      intro _ _ _ _ hsplit
      cases hsplit
    | cons b rest =>
      rw [percentDecode]
      rcases h a b rest rfl with hnone | hnone
      · rw [hnone]
      · rw [hnone]
        cases hexValue? (Char.ofNat a.toNat) <;> rfl

/-- An escaped byte is read back. -/
theorem percentDecode_percentByte (b : UInt8) :
    percentDecode (charBytes (percentByte b) ++ bytes) = b :: percentDecode bytes := by
  have hdigit : ∀ n < 16, String.utf8EncodeChar (hexDigitUpper n) =
      [UInt8.ofNat (hexDigitUpper n).toNat] ∧
      hexValue? (Char.ofNat (UInt8.ofNat (hexDigitUpper n).toNat).toNat) = some n := by decide
  obtain ⟨hhigh, hhighValue⟩ := hdigit (b.toNat / 16) (by have := b.toNat_lt; omega)
  obtain ⟨hlow, hlowValue⟩ := hdigit (b.toNat % 16) (Nat.mod_lt _ (by decide))
  have hpercent : String.utf8EncodeChar '%' = [0x25] := by decide
  have hvalue : b.toNat / 16 * 16 + b.toNat % 16 = b.toNat := by omega
  simp only [percentByte, charBytes_cons, charBytes_nil, hpercent, hhigh, hlow, List.cons_append,
    List.nil_append]
  rw [percentDecode, hhighValue, hlowValue]
  simp only [hvalue, UInt8.ofNat_toNat]

/-- Bytes that were escaped one by one are decoded to themselves. -/
theorem percentDecode_percentBytes (bs : List UInt8) :
    percentDecode (charBytes (bs.flatMap percentByte) ++ bytes) = bs ++ percentDecode bytes := by
  induction bs with
  | nil => rfl
  | cons b bs ih =>
    rw [List.flatMap_cons, charBytes_append, List.append_assoc, percentDecode_percentByte, ih,
      List.cons_append]

/-! ## Escaped texts -/

/-- An escaped text has the characters that are allowed, percent signs and digits. -/
theorem mem_percentEncode {allowed : Char → Bool} {cs : List Char} {c : Char}
    (h : c ∈ percentEncode allowed cs) :
    (c ∈ cs ∧ allowed c = true) ∨ c = '%' ∨ ∃ n < 16, c = hexDigitUpper n := by
  obtain ⟨d, hd, hc⟩ := List.mem_flatMap.1 h
  rw [percentChar] at hc
  split at hc
  case isTrue hallowed =>
    obtain rfl := List.mem_singleton.1 hc
    exact .inl ⟨hd, hallowed⟩
  case isFalse =>
    obtain ⟨b, -, hb⟩ := List.mem_flatMap.1 hc
    have hlt := b.toNat_lt
    simp only [percentByte, List.mem_cons, List.not_mem_nil, or_false] at hb
    rcases hb with rfl | rfl | rfl
    · exact .inr (.inl rfl)
    · exact .inr (.inr ⟨_, by omega, rfl⟩)
    · exact .inr (.inr ⟨_, by omega, rfl⟩)

section Escaped

variable {allowed : Char → Bool} (hascii : ∀ c, allowed c = true → c.toNat < 128)
include hascii

/-- A character is read back, unless it is a percent sign that was left alone. -/
theorem percentDecode_percentChar {c : Char} (h : c = '%' → allowed '%' = false) :
    percentDecode (charBytes (percentChar allowed c) ++ bytes) =
      String.utf8EncodeChar c ++ percentDecode bytes := by
  rw [percentChar]
  split
  case isFalse => rw [percentDecode_percentBytes]
  case isTrue hallowed =>
    -- a character that is left alone is one byte, and that of a percent sign only if it is one
    have hne : UInt8.ofNat c.toNat ≠ 0x25 := by
      intro heq
      have hc := ofNat_toNat_of_ascii (hascii c hallowed)
      rw [heq] at hc
      obtain rfl : c = '%' := hc.symm
      rw [h rfl] at hallowed
      cases hallowed
    rw [charBytes_cons, charBytes_nil, List.append_nil,
      utf8EncodeChar_of_ascii (hascii c hallowed)]
    exact percentDecode_cons_of_ne hne

/-- Where percent signs are escaped, every text is read back. -/
theorem percentDecode_percentEncode (hpercent : allowed '%' = false) (cs : List Char) :
    percentDecode (charBytes (percentEncode allowed cs) ++ bytes) =
      charBytes cs ++ percentDecode bytes := by
  induction cs with
  | nil => rfl
  | cons c cs ih =>
    rw [percentEncode, List.flatMap_cons, charBytes_append, List.append_assoc,
      percentDecode_percentChar hascii fun _ => hpercent, ← percentEncode, ih, charBytes_cons,
      List.append_assoc]

/-- Where an escaped text starts with the byte of a digit, the text itself starts with the digit. -/
theorem exists_digit_of_percentEncode {cs : List Char} {b : UInt8}
    (hcs : charBytes (percentEncode allowed cs) = b :: bytes)
    (hb : hexValue? (Char.ofNat b.toNat) ≠ none) :
    ∃ c rest, cs = c :: rest ∧ hexValue? c = hexValue? (Char.ofNat b.toNat) ∧
      charBytes (percentEncode allowed rest) = bytes := by
  match cs with
  | [] => cases hcs
  | c :: rest =>
    rw [percentEncode, List.flatMap_cons, charBytes_append, ← percentEncode, percentChar] at hcs
    split at hcs
    case isTrue hallowed =>
      rw [charBytes_cons, charBytes_nil, utf8EncodeChar_of_ascii (hascii c hallowed)] at hcs
      obtain ⟨rfl, hrest⟩ := List.cons.inj hcs
      exact ⟨c, rest, rfl, by rw [ofNat_toNat_of_ascii (hascii c hallowed)], hrest⟩
    case isFalse =>
      -- an escape starts with a percent sign, which is no digit
      exfalso
      cases henc : String.utf8EncodeChar c with
      | nil => exact String.utf8EncodeChar_ne_nil henc
      | cons first more =>
        rw [henc, List.flatMap_cons, percentByte] at hcs
        have hpercent : String.utf8EncodeChar '%' = [0x25] := by decide
        simp only [List.cons_append, charBytes_cons, hpercent] at hcs
        obtain ⟨rfl, -⟩ := List.cons.inj hcs
        exact hb (by decide)

end Escaped

/-! ## Percent signs that are left alone -/

/-- Whether a text starts with two hexadecimal digits. -/
def startsWithByte : List Char → Bool
  | a :: b :: _ => (hexValue? a).isSome && (hexValue? b).isSome
  | _ => false

/-- Whether something in a text looks like an escape: a percent sign with two digits behind it. -/
def hasEscape : List Char → Bool
  | [] => false
  | c :: cs => (c == '%' && startsWithByte cs) || hasEscape cs

/-- Nothing looks like an escape without a percent sign. -/
theorem hasEscape_of_notMem {cs : List Char} (h : '%' ∉ cs) : hasEscape cs = false := by
  induction cs with
  | nil => rfl
  | cons c cs ih =>
    rw [List.mem_cons, not_or] at h
    rw [hasEscape, ih h.2, Bool.or_false, beq_false_of_ne (Ne.symm h.1), Bool.false_and]

section LeftAlone

variable {allowed : Char → Bool} (hascii : ∀ c, allowed c = true → c.toNat < 128)
include hascii

/-- A percent sign without two digits behind it is read back. -/
theorem percentDecode_lone_percent (hpercent : allowed '%' = true) {cs : List Char}
    (h : startsWithByte cs = false) :
    percentDecode (charBytes (percentEncode allowed ('%' :: cs))) =
      0x25 :: percentDecode (charBytes (percentEncode allowed cs)) := by
  have hencode : charBytes (percentEncode allowed ('%' :: cs)) =
      0x25 :: charBytes (percentEncode allowed cs) := by
    rw [percentEncode, List.flatMap_cons, percentChar, if_pos hpercent]
    rfl
  rw [hencode]
  refine percentDecode_percent fun a b rest hsplit => ?_
  by_contra hdigits
  obtain ⟨ha, hb⟩ := not_or.1 hdigits
  -- digits among the bytes are digits of the text, as no escape starts with one
  obtain ⟨c, cs, rfl, hc, htail⟩ := exists_digit_of_percentEncode hascii hsplit ha
  obtain ⟨d, ds, rfl, hd, -⟩ := exists_digit_of_percentEncode hascii htail hb
  rw [startsWithByte, hc, hd, Option.isSome_iff_ne_none.2 ha, Option.isSome_iff_ne_none.2 hb] at h
  cases h

/-- A text in which nothing looks like an escape is read back. -/
theorem percentDecode_of_not_hasEscape {cs : List Char} (h : hasEscape cs = false) :
    percentDecode (charBytes (percentEncode allowed cs)) = charBytes cs := by
  induction cs with
  | nil => exact percentDecode_nil
  | cons c cs ih =>
    obtain ⟨hhead, htail⟩ := Bool.or_eq_false_iff.1 h
    by_cases hc : c = '%' ∧ allowed '%' = true
    · obtain ⟨rfl, hpercent⟩ := hc
      rw [percentDecode_lone_percent hascii hpercent (by simpa using hhead), ih htail]
      rfl
    · have hplain : c = '%' → allowed '%' = false := fun he => by
        simpa using fun hp => hc ⟨he, hp⟩
      rw [percentEncode, List.flatMap_cons, charBytes_append,
        percentDecode_percentChar hascii hplain, ← percentEncode, ih htail, charBytes_cons]

/-- Of a text in which something looks like an escape fewer bytes are read back, and never more. -/
theorem length_percentDecode_add_escapes_le (hpercent : allowed '%' = true)
    (hdigits : ∀ c, hexValue? c ≠ none → allowed c = true) (cs : List Char) :
    (percentDecode (charBytes (percentEncode allowed cs))).length + (hasEscape cs).toNat ≤
      (charBytes cs).length := by
  match cs with
  | [] => simp [hasEscape]
  | c :: cs =>
    by_cases hc : c = '%'
    · subst hc
      cases hbyte : startsWithByte cs with
      | false =>
        have ih := length_percentDecode_add_escapes_le hpercent hdigits cs
        rw [percentDecode_lone_percent hascii hpercent hbyte, hasEscape, hbyte]
        have hone : (String.utf8EncodeChar '%').length = 1 := by decide
        simp only [Bool.and_false, Bool.false_or, List.length_cons, charBytes_cons,
          List.length_append, hone]
        omega
      | true =>
        match cs with
        | [] | [_] => cases hbyte
        | a :: b :: rest =>
          have ih := length_percentDecode_add_escapes_le hpercent hdigits rest
          rw [startsWithByte, Bool.and_eq_true, Option.isSome_iff_exists,
            Option.isSome_iff_exists] at hbyte
          obtain ⟨⟨high, hhigh⟩, ⟨low, hlow⟩⟩ := hbyte
          have hallowed : ∀ d, hexValue? d ≠ none → percentChar allowed d = [d] ∧
              String.utf8EncodeChar d = [UInt8.ofNat d.toNat] ∧
              Char.ofNat (UInt8.ofNat d.toNat).toNat = d := fun d hd =>
            ⟨if_pos (hdigits d hd), utf8EncodeChar_of_ascii (hascii d (hdigits d hd)),
              ofNat_toNat_of_ascii (hascii d (hdigits d hd))⟩
          obtain ⟨ha, habyte, hachar⟩ := hallowed a (by rw [hhigh]; nofun)
          obtain ⟨hb, hbbyte, hbchar⟩ := hallowed b (by rw [hlow]; nofun)
          -- the three characters are read back as one byte
          have hencode : charBytes (percentEncode allowed ('%' :: a :: b :: rest)) =
              0x25 :: UInt8.ofNat a.toNat :: UInt8.ofNat b.toNat ::
                charBytes (percentEncode allowed rest) := by
            rw [percentEncode, List.flatMap_cons, List.flatMap_cons, List.flatMap_cons, ha, hb,
              percentChar, if_pos hpercent, ← percentEncode]
            simp only [List.cons_append, List.nil_append, charBytes_cons, habyte, hbbyte]
            rfl
          rw [hencode, percentDecode, hachar, hbchar, hhigh, hlow]
          have hone : (String.utf8EncodeChar '%').length = 1 := by decide
          have hflag := Bool.toNat_le (hasEscape ('%' :: a :: b :: rest))
          simp only [List.length_cons, charBytes_cons, List.length_append, habyte, hbbyte, hone,
            List.length_nil]
          omega
    · have ih := length_percentDecode_add_escapes_le hpercent hdigits cs
      have hne : (c == '%') = false := by simpa using hc
      rw [percentEncode, List.flatMap_cons, charBytes_append,
        percentDecode_percentChar hascii fun he => absurd he hc, ← percentEncode, hasEscape, hne]
      simp only [Bool.false_and, Bool.false_or, List.length_append, charBytes_cons]
      omega
termination_by cs.length

end LeftAlone

/-! ## Forms -/

/-- Whether a form holds a character as it is. -/
def inForm (c : Char) : Bool := c.isAlphanum || "*-._".contains c

/-- A form holds letters, digits and four signs as they are. -/
theorem inForm_iff {c : Char} :
    inForm c = true ↔ c.isAlphanum = true ∨ c ∈ ['*', '-', '.', '_'] := by
  rw [inForm, Bool.or_eq_true, String.contains_char_eq, decide_eq_true_iff, String.toList_ofList]

/-- What a form holds as it is, is in ASCII. -/
theorem ascii_of_inForm {c : Char} (h : inForm c = true) : c.toNat < 128 := by
  rcases inForm_iff.1 h with halnum | hsign
  · exact ascii_of_isAlphanum halnum
  · exact ascii_of_mem (by decide) hsign

/-- The characters of a form are none of those that have a meaning in it. -/
theorem notMem_of_inForm {c : Char} (h : inForm c = true) : c ∉ ['&', '=', '+', '%', ' '] := by
  have hsplit := inForm_iff.1 h
  revert hsplit
  exact forall_ascii (P := fun c => c.isAlphanum = true ∨ c ∈ ['*', '-', '.', '_'] →
    c ∉ ['&', '=', '+', '%', ' ']) (by decide) (ascii_of_inForm h)

/-- A form holds the digits of an escape as they are. -/
theorem inForm_hexDigitUpper {n : Nat} (h : n < 16) : inForm (hexDigitUpper n) = true := by
  have halnum : ∀ n < 16, (hexDigitUpper n).isAlphanum = true := by decide
  exact inForm_iff.2 (.inl (halnum n h))

/-- A form holds no percent sign as it is. -/
theorem inForm_percent : inForm '%' = false :=
  Bool.eq_false_iff.2 fun h => notMem_of_inForm h (by decide)

/-- An encoded value has plus signs and percent signs besides what a form holds as it is. -/
theorem mem_formEncode {s : String} {c : Char} (h : c ∈ formEncode s) :
    inForm c = true ∨ c = '+' ∨ c = '%' := by
  obtain ⟨d, -, hd⟩ := List.mem_flatMap.1 h
  split at hd
  · exact .inr (.inl (List.mem_singleton.1 hd))
  · have hmem : c ∈ percentEncode inForm [d] := by
      rw [percentEncode, List.flatMap_singleton]
      exact hd
    rcases mem_percentEncode hmem with ⟨-, hin⟩ | rfl | ⟨n, hn, rfl⟩
    · exact .inl hin
    · exact .inr (.inr rfl)
    · exact .inl (inForm_hexDigitUpper hn)

/-- An encoded value has none of the signs that separate values. -/
theorem notMem_formEncode {s : String} {c : Char} (hc : c = '&' ∨ c = '=') :
    c ∉ formEncode s := by
  intro h
  rcases mem_formEncode h with hin | rfl | rfl
  · have hnot := notMem_of_inForm hin
    rcases hc with rfl | rfl <;> simp at hnot
  · rcases hc with hc | hc <;> cases hc
  · rcases hc with hc | hc <;> cases hc

/-- Every character of a text is written by at least one. -/
theorem length_le_formEncode (s : String) : s.toList.length ≤ (formEncode s).length := by
  rw [formEncode]
  induction s.toList with
  | nil => exact Nat.le_refl _
  | cons c cs ih =>
    have hpos : 0 < (if c = ' ' then ['+'] else percentChar inForm c).length := by
      split
      · exact Nat.one_pos
      · rw [percentChar]
        split
        · exact Nat.one_pos
        · cases henc : String.utf8EncodeChar c with
          | nil => exact absurd henc String.utf8EncodeChar_ne_nil
          | cons b bs => simp [percentByte]
    rw [List.length_cons, List.flatMap_cons, List.length_append, Nat.add_comm]
    exact Nat.add_le_add hpos ih

/-- No character needs more than twelve bytes in a form. -/
theorem length_formEncode_le (s : String) :
    (charBytes (formEncode s)).length ≤ 12 * s.toList.length := by
  have hbytes : ∀ bs : List UInt8, (charBytes (bs.flatMap percentByte)).length = 3 * bs.length := by
    have hdigit : ∀ n < 16, (String.utf8EncodeChar (hexDigitUpper n)).length = 1 := by decide
    intro bs
    induction bs with
    | nil => rfl
    | cons b bs ih =>
      have hlt := b.toNat_lt
      have hbyte : (charBytes (percentByte b)).length = 3 := by
        simp only [percentByte, charBytes_cons, charBytes_nil, List.length_append, List.length_nil,
          hdigit _ (show b.toNat / 16 < 16 by omega), hdigit _ (show b.toNat % 16 < 16 by omega)]
        decide
      rw [List.flatMap_cons, charBytes_append, List.length_append, ih, hbyte, List.length_cons]
      omega
  -- three for each of the four bytes that a character has at most
  have hchar : ∀ c : Char,
      (charBytes (if c = ' ' then ['+'] else percentChar inForm c)).length ≤ 12 := by
    intro c
    split
    · decide
    · rw [percentChar]
      split
      case isTrue hin =>
        rw [charBytes_cons, utf8EncodeChar_of_ascii (ascii_of_inForm hin)]
        exact (by decide : 1 ≤ 12)
      case isFalse =>
        have hsize := c.utf8Size_le_four
        rw [hbytes, String.length_utf8EncodeChar]
        omega
  rw [formEncode]
  induction s.toList with
  | nil => exact Nat.le_refl _
  | cons c cs ih =>
    rw [List.flatMap_cons, charBytes_append, List.length_append, List.length_cons, Nat.mul_succ,
      Nat.add_comm]
    exact Nat.add_le_add ih (hchar c)

/-- The value that a part of a form stands for: plus signs are blanks, and escapes are undone. -/
def formValue? (cs : List Char) : Option String :=
  Backend.decoded? (String.ofList (cs.map fun c => if c = '+' then ' ' else c))

/-- The name and the value of a pair of a form. -/
def formPair? (cs : List Char) : Option (String × String) := do
  let (name, value) := cs.span (· != '=')
  return (← formValue? name, ← formValue? (value.drop 1))

/-- The pairs that a form stands for. -/
def formPairs? (cs : List Char) : Option (List (String × String)) :=
  (CharTable.parts '&' cs).mapM formPair?

/-- A form with blanks in the place of its plus signs is escaped text that keeps blanks. -/
theorem map_formEncode (s : String) :
    (formEncode s).map (fun c => if c = '+' then ' ' else c) =
      percentEncode (fun c => inForm c || c == ' ') s.toList := by
  rw [formEncode, List.map_flatMap, percentEncode]
  refine List.flatMap_congr fun c _ => ?_
  by_cases hc : c = ' '
  · subst hc
    have hblank : (inForm ' ' || ' ' == ' ') = true := Bool.or_true _
    rw [if_pos rfl, percentChar, if_pos hblank]
    rfl
  · have hsame : percentChar (fun c => inForm c || c == ' ') c = percentChar inForm c := by
      simp only [percentChar, beq_false_of_ne hc, Bool.or_false]
    rw [if_neg hc, hsame]
    -- nothing that is written for the character is a plus sign
    refine (List.map_congr_left fun d hd => if_neg fun hplus => ?_).trans (List.map_id _)
    have hmem : d ∈ percentEncode inForm [c] := by
      rw [percentEncode, List.flatMap_singleton]
      exact hd
    rcases mem_percentEncode hmem with ⟨-, hin⟩ | rfl | ⟨n, hn, rfl⟩
    · exact notMem_of_inForm hin (by simp [hplus])
    · cases hplus
    · exact notMem_of_inForm (inForm_hexDigitUpper hn) (by simp [hplus])

/-- A value is read back from the form. -/
theorem formValue?_formEncode (s : String) : formValue? (formEncode s) = some s := by
  have hascii : ∀ c, (inForm c || c == ' ') = true → c.toNat < 128 := by
    intro c hc
    rw [Bool.or_eq_true, beq_iff_eq] at hc
    rcases hc with hin | rfl
    · exact ascii_of_inForm hin
    · decide
  have hpercent : (inForm '%' || '%' == ' ') = false := by
    rw [inForm_percent]
    rfl
  have hdecode : percentDecode
      (charBytes (percentEncode (fun c => inForm c || c == ' ') s.toList) ++ []) =
        charBytes s.toList ++ percentDecode [] :=
    percentDecode_percentEncode hascii hpercent s.toList
  rw [List.append_nil, percentDecode_nil, List.append_nil] at hdecode
  rw [formValue?, Backend.decoded?_eq_some_iff, utf8_ofList, map_formEncode]
  exact hdecode

/-- A pair of a form is read back. -/
theorem formPair?_formEncode (name value : String) :
    formPair? (formEncode name ++ '=' :: formEncode value) = some (name, value) := by
  have hspan : (formEncode name ++ '=' :: formEncode value).span (· != '=') =
      (formEncode name, '=' :: formEncode value) := by
    rw [List.span_eq_takeWhile_dropWhile, List.takeWhile_append_of_pos, List.dropWhile_append_of_pos]
    · simp
    all_goals
      intro c hc
      simpa using fun he => notMem_formEncode (.inr he) hc
  rw [formPair?, hspan]
  simp only [List.drop_one, List.tail_cons, formValue?_formEncode]
  rfl

/-- A text has at least one part. -/
theorem CharTable.parts_ne_nil (separator : Char) (cs : List Char) :
    CharTable.parts separator cs ≠ [] := by
  cases cs with
  | nil => exact List.cons_ne_nil _ _
  | cons c cs =>
    rw [CharTable.parts]
    split
    · exact List.cons_ne_nil _ _
    · cases CharTable.parts separator cs <;> exact List.cons_ne_nil _ _

/-- The texts before and behind a separator are divided by themselves. -/
theorem CharTable.parts_append_cons (separator : Char) (cs ds : List Char) :
    CharTable.parts separator (cs ++ separator :: ds) =
      CharTable.parts separator cs ++ CharTable.parts separator ds := by
  induction cs with
  | nil => simp [CharTable.parts]
  | cons c cs ih =>
    rw [List.cons_append, CharTable.parts, CharTable.parts, ih]
    split
    · rfl
    · cases hparts : CharTable.parts separator cs with
      | nil => exact absurd hparts (CharTable.parts_ne_nil separator cs)
      | cons first rest => rfl

/-- A text without the separator is its only part. -/
theorem CharTable.parts_of_notMem {separator : Char} {cs : List Char} (h : separator ∉ cs) :
    CharTable.parts separator cs = [cs] := by
  induction cs with
  | nil => rfl
  | cons c cs ih =>
    obtain ⟨hne, hcs⟩ := not_or.1 (mt List.mem_cons.2 h)
    rw [CharTable.parts, if_neg (Ne.symm hne), ih hcs]

/-- The last part of a text is what it ends with, and has no separator. -/
theorem CharTable.exists_getLast?_parts (separator : Char) (cs : List Char) :
    ∃ last, (CharTable.parts separator cs).getLast? = some last ∧ separator ∉ last ∧
      last <:+ cs := by
  by_cases hmem : separator ∈ cs
  · obtain ⟨back, front, hsplit, hback⟩ := List.eq_append_cons_of_mem (List.mem_reverse.2 hmem)
    have hcs : cs = front.reverse ++ separator :: back.reverse := by
      rw [← List.reverse_reverse cs, hsplit]
      simp
    have hlast : separator ∉ back.reverse := mt List.mem_reverse.1 hback
    refine ⟨back.reverse, ?_, hlast, ?_⟩
    · rw [hcs, CharTable.parts_append_cons, CharTable.parts_of_notMem hlast,
        List.getLast?_concat]
    · rw [hcs]
      exact (List.suffix_cons _ _).trans (List.suffix_append _ _)
  · exact ⟨cs, by rw [CharTable.parts_of_notMem hmem, List.getLast?_singleton], hmem,
      List.suffix_refl cs⟩

/-- A form of one pair is the name and the value with a sign between them. -/
theorem formPairs_singleton (p : String × String) :
    formPairs [p] = formEncode p.1 ++ '=' :: formEncode p.2 := by
  simp [formPairs, List.intercalate]

/-- Pairs of a form have a sign between them. -/
theorem formPairs_cons_cons (p q : String × String) (rest : List (String × String)) :
    formPairs (p :: q :: rest) =
      (formEncode p.1 ++ '=' :: formEncode p.2) ++ '&' :: formPairs (q :: rest) := by
  simp [formPairs, List.intercalate]

/-- A form has no characters that a query cannot hold, and none that ends it. -/
theorem mem_formPairs {pairs : List (String × String)} {c : Char} (h : c ∈ formPairs pairs) :
    inForm c = true ∨ c ∈ ['+', '%', '=', '&'] := by
  have hpair : ∀ p : String × String, c ∈ formEncode p.1 ++ '=' :: formEncode p.2 →
      inForm c = true ∨ c ∈ ['+', '%', '=', '&'] := by
    intro p hp
    rcases List.mem_append.1 hp with hname | hrest
    · exact (mem_formEncode hname).imp id (by rintro (rfl | rfl) <;> decide)
    · rcases List.mem_cons.1 hrest with rfl | hvalue
      · exact .inr (by decide)
      · exact (mem_formEncode hvalue).imp id (by rintro (rfl | rfl) <;> decide)
  induction pairs with
  | nil => cases h
  | cons p rest ih =>
    cases rest with
    | nil =>
      rw [formPairs_singleton] at h
      exact hpair p h
    | cons q rest =>
      rw [formPairs_cons_cons, List.mem_append, List.mem_cons] at h
      rcases h with hp | rfl | hrest
      · exact hpair p hp
      · exact .inr (by decide)
      · exact ih hrest

/-- **Forms.** Pairs are read back from the form that they are written in. -/
theorem formPairs?_formPairs {pairs : List (String × String)} (h : pairs ≠ []) :
    formPairs? (formPairs pairs) = some pairs := by
  have hnot : ∀ p : String × String, '&' ∉ formEncode p.1 ++ '=' :: formEncode p.2 := by
    intro p hmem
    rcases List.mem_append.1 hmem with hname | hrest
    · exact notMem_formEncode (.inl rfl) hname
    · rcases List.mem_cons.1 hrest with heq | hvalue
      · cases heq
      · exact notMem_formEncode (.inl rfl) hvalue
  induction pairs with
  | nil => exact absurd rfl h
  | cons p rest ih =>
    cases rest with
    | nil =>
      rw [formPairs?, formPairs_singleton, CharTable.parts_of_notMem (hnot p)]
      simp [formPair?_formEncode]
    | cons q rest =>
      have hrest : (CharTable.parts '&' (formPairs (q :: rest))).mapM formPair? =
          some (q :: rest) := ih (by simp)
      rw [formPairs?, formPairs_cons_cons, CharTable.parts_append_cons,
        CharTable.parts_of_notMem (hnot p), List.singleton_append, List.mapM_cons,
        formPair?_formEncode, hrest]
      rfl

end FirewallOperator
