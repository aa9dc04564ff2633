import FirewallOperator.Time.Rfc3339
import Mathlib.Algebra.Group.Nat.Defs

/-! # Written times are read back

A point in time is written by `Timestamp.text` in one fixed form, and `Timestamp.parse?` reads many.
Each part of the written form is read back where it stands, up to the part that follows, and so is
the whole: `Timestamp.parse?_text`. -/

namespace FirewallOperator

/-! ## Padded numbers -/

/-- A number is filled up with zeros to its width. -/
theorem toList_padded (width n : Nat) :
    (padded width n).toList =
      List.replicate (width - (Nat.toDigits 10 n).length) '0' ++ Nat.toDigits 10 n := by
  rw [padded, String.toList_ofList]

/-- A padded number has digits only. -/
theorem isDigit_of_mem_padded {width n : Nat} {c : Char} (hc : c ∈ (padded width n).toList) :
    c.isDigit = true := by
  rw [toList_padded] at hc
  rcases List.mem_append.1 hc with hc | hc
  · rw [List.eq_of_mem_replicate hc]
    rfl
  · exact Nat.isDigit_of_mem_toDigits (by decide) (by decide) hc

/-- A number is written in at least one digit. -/
theorem padded_ne_nil (width n : Nat) : (padded width n).toList ≠ [] := by
  rw [toList_padded]
  exact List.append_ne_nil_of_right_ne_nil _ Nat.toDigits_ne_nil

/-- A number that fits has the width it is padded to. -/
theorem length_padded {width n : Nat} (hw : 0 < width) (hn : n < 10 ^ width) :
    (padded width n).toList.length = width := by
  have hdigits := (Nat.length_toDigits_le_iff (by decide) hw).2 hn
  rw [toList_padded, List.length_append, List.length_replicate]
  omega

namespace Timestamp

/-- Zeros at the front do not change a number. -/
theorem numberOf_padded (width n : Nat) : numberOf (padded width n).toList = n := by
  show Nat.ofDigitChars 10 (padded width n).toList 0 = n
  rw [toList_padded, Nat.ofDigitChars_append, Nat.ofDigitChars_replicate_zero, Nat.mul_zero,
    Nat.ofDigitChars_ten_toDigits]

/-! ## Parts of a text -/

variable {ds rest : List Char}

/-- No digit is a blank. -/
theorem isBlank_of_isDigit {c : Char} (hc : c.isDigit = true) : isBlank c = false := by
  have hbounds : 48 ≤ c.toNat ∧ c.toNat ≤ 57 := by
    simpa [Char.isDigit, UInt32.le_iff_toNat_le] using hc
  simp [isBlank, blankRanges, inRanges]
  omega

/-- Nothing is skipped before a digit. -/
theorem trimBlank_digits (hds : ∀ c ∈ ds, c.isDigit = true) (hne : ds ≠ []) :
    trimBlank (ds ++ rest) = ds ++ rest := by
  cases ds with
  | nil => exact absurd rfl hne
  | cons d ds =>
    have hd := isBlank_of_isDigit (hds d List.mem_cons_self)
    rw [trimBlank, List.cons_append, List.dropWhile_cons, hd, if_neg Bool.false_ne_true]

/-- Digits are read up to what follows them, when that has no digit in reach. -/
theorem digits?_append {width : Nat} (hds : ∀ c ∈ ds, c.isDigit = true) (hne : ds ≠ [])
    (hlen : ds.length ≤ width)
    (hstop : (rest.take (width - ds.length)).takeWhile Char.isDigit = []) :
    digits? width (ds ++ rest) = some (ds, rest) := by
  have htaken : ((ds ++ rest).take width).takeWhile Char.isDigit = ds := by
    rw [List.take_append, List.take_of_length_le hlen, List.takeWhile_append_of_pos hds, hstop,
      List.append_nil]
  simp only [digits?, htaken, List.isEmpty_iff, hne, if_false, List.drop_left]

/-- A number of two digits is read back. -/
theorem number?_padded {limit n : Nat} (hn : n ≤ limit) (hlimit : limit < 100) :
    number? limit ((padded 2 n).toList ++ rest) = some (n, rest) := by
  have hds : ∀ c ∈ (padded 2 n).toList, c.isDigit = true := fun _ => isDigit_of_mem_padded
  have hlen : (padded 2 n).toList.length = 2 := length_padded (by decide) (by omega)
  have hread : digits? 2 ((padded 2 n).toList ++ rest) = some ((padded 2 n).toList, rest) :=
    digits?_append hds (padded_ne_nil 2 n) (Nat.le_of_eq hlen) (by rw [hlen]; rfl)
  rw [number?, trimBlank_digits hds (padded_ne_nil 2 n), hread]
  simp only [Option.bind_eq_bind, Option.bind_some, numberOf_padded, hn, if_true]

/-- A separator is read where it stands. -/
theorem separator?_cons {c : Char} (hc : isBlank c = false) :
    separator? c (c :: rest) = some rest := by
  rw [separator?, trimBlank, List.dropWhile_cons, hc, if_neg Bool.false_ne_true]
  exact if_pos rfl

/-- A year with a minus sign is read with all its digits. -/
theorem year?_minus (cs : List Char) :
    year? ('-' :: cs) =
      (digits? cs.length cs).map fun (ds, rest) => (-(numberOf ds : Int), rest) := by
  rw [year?, trimBlank, List.dropWhile_cons]
  rfl

/-- A year with a plus sign is read with all its digits. -/
theorem year?_plus (cs : List Char) :
    year? ('+' :: cs) =
      (digits? cs.length cs).map fun (ds, rest) => ((numberOf ds : Int), rest) := by
  rw [year?, trimBlank, List.dropWhile_cons]
  rfl

/-- A year is read back, up to the separator. -/
theorem year?_yearText (year : Int) :
    year? ((yearText year).toList ++ '-' :: rest) = some (year, '-' :: rest) := by
  rw [yearText]
  split
  case isTrue hshort =>
    have hds : ∀ c ∈ (padded 4 year.toNat).toList, c.isDigit = true :=
      fun _ => isDigit_of_mem_padded
    have hlen : (padded 4 year.toNat).toList.length = 4 := length_padded (by decide) (by omega)
    have hread : digits? 4 ((padded 4 year.toNat).toList ++ '-' :: rest) =
        some ((padded 4 year.toNat).toList, '-' :: rest) :=
      digits?_append hds (padded_ne_nil 4 _) (Nat.le_of_eq hlen) (by rw [hlen]; rfl)
    have hyear : ((numberOf (padded 4 year.toNat).toList : Nat) : Int) = year := by
      rw [numberOf_padded]
      omega
    have hsign : ∀ {c : Char} {cs : List Char}, c.isDigit = false →
        (padded 4 year.toNat).toList ++ '-' :: rest ≠ c :: cs := by
      intro c cs hc heq
      cases hp : (padded 4 year.toNat).toList with
      | nil => exact padded_ne_nil _ _ hp
      | cons d ds =>
        rw [hp, List.cons_append, List.cons.injEq] at heq
        have hd := hds d (hp ▸ List.mem_cons_self)
        rw [heq.1, hc] at hd
        cases hd
    rw [year?, trimBlank_digits hds (padded_ne_nil 4 _)]
    -- a short year starts with a digit, so neither case with a sign applies
    split
    case h_1 heq => exact absurd heq (hsign rfl)
    case h_2 heq => exact absurd heq (hsign rfl)
    case h_3 =>
      rw [hread, Option.map_some]
      simp only [hyear]
  case isFalse hlong =>
    have hds : ∀ c ∈ (padded 4 year.natAbs).toList, c.isDigit = true :=
      fun _ => isDigit_of_mem_padded
    -- after a sign all digits are read, up to the separator
    have hread : ∀ width, (padded 4 year.natAbs).toList.length ≤ width →
        digits? width ((padded 4 year.natAbs).toList ++ '-' :: rest) =
          some ((padded 4 year.natAbs).toList, '-' :: rest) := by
      intro width hwidth
      refine digits?_append hds (padded_ne_nil 4 _) hwidth ?_
      cases width - (padded 4 year.natAbs).toList.length <;> rfl
    by_cases hneg : year < 0
    · have hyear : -(year.natAbs : Int) = year := by omega
      have hsign : ("-" : String).toList = ['-'] := rfl
      rw [if_pos hneg, String.toList_append, hsign, List.append_assoc, List.singleton_append,
        year?_minus, hread _ (by simp), Option.map_some]
      simp only [numberOf_padded, hyear]
    · have hyear : (year.natAbs : Int) = year := by omega
      have hsign : ("+" : String).toList = ['+'] := rfl
      rw [if_neg hneg, String.toList_append, hsign, List.append_assoc, List.singleton_append,
        year?_plus, hread _ (by simp), Option.map_some]
      simp only [numberOf_padded, hyear]

/-- Digits of a fraction stand for nanoseconds, as many as their number says. -/
theorem fraction?_padded {width n : Nat} (hw : 0 < width) (hlimit : width ≤ 9)
    (hn : n < 10 ^ width) :
    fraction? ('.' :: ((padded width n).toList ++ ['Z'])) = some (n * 10 ^ (9 - width), ['Z']) := by
  have hlen := length_padded hw hn
  have hread : digits? 9 ((padded width n).toList ++ ['Z']) =
      some ((padded width n).toList, ['Z']) := by
    refine digits?_append (fun _ => isDigit_of_mem_padded) (padded_ne_nil width n)
      (Nat.le_trans (Nat.le_of_eq hlen) hlimit) ?_
    cases 9 - (padded width n).toList.length <;> rfl
  simp only [fraction?, hread, Option.bind_eq_bind, Option.bind_some, numberOf_padded, hlen]
  rfl

/-- A fraction is read back, up to the offset. -/
theorem fraction?_fractionText {nanosecond : Nat} (hn : nanosecond < 10 ^ 9) :
    fraction? ((fractionText nanosecond).toList ++ ['Z']) = some (nanosecond, ['Z']) := by
  rw [fractionText]
  split
  case isTrue hzero =>
    rw [hzero]
    rfl
  case isFalse =>
    have hdot : ∀ s : String, ("." ++ s).toList ++ ['Z'] = '.' :: (s.toList ++ ['Z']) := by
      intro s
      have hmark : ("." : String).toList = ['.'] := rfl
      rw [String.toList_append, hmark, List.append_assoc, List.singleton_append]
    split
    case isTrue hmilli =>
      rw [hdot, fraction?_padded (by decide) (by decide) (by omega)]
      have hvalue : nanosecond / 1000000 * 10 ^ (9 - 3) = nanosecond := by omega
      rw [hvalue]
    case isFalse =>
      split
      case isTrue hmicro =>
        rw [hdot, fraction?_padded (by decide) (by decide) (by omega)]
        have hvalue : nanosecond / 1000 * 10 ^ (9 - 6) = nanosecond := by omega
        rw [hvalue]
      case isFalse =>
        rw [hdot, fraction?_padded (by decide) (by decide) hn]
        have hvalue : nanosecond * 10 ^ (9 - 9) = nanosecond := by omega
        rw [hvalue]

/-! ## The whole text -/

/-- A point in time of the calendar and the clock. -/
structure IsValid (t : Timestamp) : Prop where
  date : t.date.isValid = true
  hour : t.hour ≤ 23
  minute : t.minute ≤ 59
  second : t.second ≤ 60
  nanosecond : t.nanosecond < 10 ^ 9

/-- A valid date has a month up to 12 and a day up to 31. -/
theorem day_le_of_isValid {d : Date} (h : d.isValid = true) : d.month ≤ 12 ∧ d.day ≤ 31 := by
  simp only [Date.isValid, Bool.and_eq_true, decide_eq_true_eq] at h
  obtain ⟨⟨⟨⟨-, -⟩, hmonth⟩, -⟩, hday⟩ := h
  have hdays : Date.daysIn d.year d.month ≤ 31 := by
    rw [Date.daysIn]
    split
    · split <;> decide
    · split <;> decide
  exact ⟨hmonth, Nat.le_trans hday hdays⟩

/-- Without an offset a date and time of day stay as they are. -/
theorem shifted?_zero {t : Timestamp} (h : t.IsValid) :
    shifted? t.date t.hour t.minute t.second t.nanosecond 0 = some t := by
  obtain ⟨hdate, hhour, hminute, -, -⟩ := h
  have hfirst : ¬ (((t.hour * 60 + t.minute : Nat) : Int) - 0 < 0) := by omega
  have hlast : ¬ (1440 ≤ ((t.hour * 60 + t.minute : Nat) : Int) - 0) := by omega
  have htotal : ((((t.hour * 60 + t.minute : Nat) : Int) - 0) % 1440).toNat =
      t.hour * 60 + t.minute := by omega
  have hh : (t.hour * 60 + t.minute) / 60 = t.hour := by omega
  have hm : (t.hour * 60 + t.minute) % 60 = t.minute := by omega
  simp only [shifted?, if_neg hfirst, if_neg hlast, htotal, hh, hm, hdate, and_self, if_true]

/-- A written time is read back. -/
theorem parse?_text {t : Timestamp} (h : t.IsValid) : parse? t.text = some t := by
  obtain ⟨hmonth, hday⟩ := day_le_of_isValid h.date
  have htext : t.text.toList =
      (yearText t.date.year).toList ++ '-' :: ((padded 2 t.date.month).toList ++ '-' ::
        ((padded 2 t.date.day).toList ++ 'T' :: ((padded 2 t.hour).toList ++ ':' ::
          ((padded 2 t.minute).toList ++ ':' :: ((padded 2 t.second).toList ++
            ((fractionText t.nanosecond).toList ++ ['Z'])))))) := by
    have hdash : ("-" : String).toList = ['-'] := rfl
    have hcolon : (":" : String).toList = [':'] := rfl
    have htime : ("T" : String).toList = ['T'] := rfl
    have hzone : ("Z" : String).toList = ['Z'] := rfl
    simp only [text, String.toList_append, List.append_assoc, hdash, hcolon, htime, hzone,
      List.cons_append, List.nil_append]
  have hoffset : offset? (trimBlank ['Z']) = some (0, []) := by decide
  simp only [parse?, htext, year?_yearText, Option.bind_eq_bind, Option.bind_some,
    separator?_cons (c := '-') (by decide), separator?_cons (c := ':') (by decide),
    number?_padded hmonth (by decide), number?_padded hday (by decide),
    number?_padded h.hour (by decide), number?_padded h.minute (by decide),
    number?_padded h.second (by decide), fraction?_fractionText h.nanosecond, hoffset]
  exact shifted?_zero h

end Timestamp

end FirewallOperator
