import FirewallOperator.Json.Reader
import FirewallOperator.Json.Writer
import Mathlib.Data.List.TakeDrop

/-! # Written values are read back

A tree is written without blanks, and the reader finds each part of it again up to the character
that follows (`Json.Holdable.readsAt`). That holds of the trees that a text can hold: their numbers
are whole and of sixty-four bits, and the nesting has a bound. For them writing and loose reading
are inverse, `Json.parseLoose_compact`. -/

namespace FirewallOperator

namespace Json

/-- The trees that a text can hold, with so many levels of arrays and objects at most. -/
inductive Holdable : Nat → Json → Prop
  | null {depth : Nat} : Holdable depth .null
  | bool {depth : Nat} (b : Bool) : Holdable depth (.bool b)
  | int {depth : Nat} {n : Int} (hlow : -0x8000000000000000 ≤ n) (hhigh : n ≤ maxWord) :
      Holdable depth (.int n)
  | str {depth : Nat} (s : String) : Holdable depth (.str s)
  | arr {depth : Nat} {items : List Json} (h : ∀ j ∈ items, Holdable depth j) :
      Holdable (depth + 1) (.arr items)
  | obj {depth : Nat} {members : List (String × Json)} (h : ∀ m ∈ members, Holdable depth m.2) :
      Holdable (depth + 1) (.obj members)

/-- What follows a value: nothing, or a character that goes on with an array or object. -/
def Follows (rest : List Char) : Prop := ∀ c ∈ rest.head?, c = ',' ∨ c = ']' ∨ c = '\x7d'

variable {rest : List Char}

/-- Nothing may follow a value. -/
theorem follows_nil : Follows [] := nofun

/-- A separator or a closing bracket may follow a value. -/
theorem follows_cons {c : Char} (h : c = ',' ∨ c = ']' ∨ c = '\x7d') : Follows (c :: rest) := by
  rintro d ⟨⟩
  exact h

/-- No blank is skipped where there is none. -/
theorem skipBlanks_cons {c : Char} (h : isBlank c = false) : skipBlanks (c :: rest) = c :: rest := by
  simp [skipBlanks, h]

/-! ## Whole numbers -/

/-- A number other than zero does not start with the digit zero. -/
theorem head_toDigits {n : Nat} (h : n ≠ 0) : (Nat.toDigits 10 n).head? ≠ some '0' := by
  induction n using Nat.strongRecOn with
  | ind n ih =>
    by_cases hn : n < 10
    · rw [Nat.toDigits_of_lt_base hn]
      have hdigits : ∀ d < 10, d ≠ 0 → [d.digitChar].head? ≠ some '0' := by decide
      exact hdigits n hn h
    · have hhead := ih (n / 10) (by omega) (by omega)
      rw [Nat.toDigits_of_base_le (by decide) (by omega), List.head?_append]
      cases hds : Nat.toDigits 10 (n / 10) with
      | nil => exact absurd hds Nat.toDigits_ne_nil
      | cons d ds =>
        rw [hds] at hhead
        simpa using hhead

/-- A number is written in digits. -/
theorem isDigit_toDigits {n : Nat} : ∀ c ∈ Nat.toDigits 10 n, c.isDigit = true := fun _ hc =>
  Nat.isDigit_of_mem_toDigits (by decide) (by decide) hc

/-- The digits of a number end where something follows. -/
theorem spanDigits_toDigits (n : Nat) (h : Follows rest) :
    spanDigits (Nat.toDigits 10 n ++ rest) = (Nat.toDigits 10 n, rest) := by
  have hnone : rest.takeWhile Char.isDigit = [] ∧ rest.dropWhile Char.isDigit = rest := by
    cases rest with
    | nil => exact ⟨rfl, rfl⟩
    | cons c cs => rcases h c rfl with rfl | rfl | rfl <;> exact ⟨rfl, rfl⟩
  rw [spanDigits, List.span_eq_takeWhile_dropWhile, List.takeWhile_append_of_pos isDigit_toDigits,
    List.dropWhile_append_of_pos isDigit_toDigits, hnone.1, hnone.2, List.append_nil]

/-- The digits of a number are scanned as a whole part, and nothing behind them. -/
theorem scanWhole_toDigits (n : Nat) (h : Follows rest) :
    scanWhole (Nat.toDigits 10 n ++ rest) = .ok (Nat.toDigits 10 n, rest) := by
  by_cases hn : n = 0
  · subst hn
    cases rest with
    | nil => rfl
    | cons c cs => rcases h c rfl with rfl | rfl | rfl <;> rfl
  · have hspan := spanDigits_toDigits n h
    have hhead := head_toDigits hn
    have hdigit := isDigit_toDigits (n := n)
    cases hds : Nat.toDigits 10 n with
    | nil => exact absurd hds Nat.toDigits_ne_nil
    | cons d ds =>
      rw [hds] at hspan hhead hdigit
      rw [List.cons_append] at hspan ⊢
      rw [scanWhole]
      · rw [if_pos (hdigit d List.mem_cons_self), hspan]
      · rintro rfl
        exact hhead rfl

/-- No fraction and no exponent follow. -/
theorem scanFraction_follows (h : Follows rest) : scanFraction rest = .ok (none, rest) := by
  cases rest with
  | nil => rfl
  | cons c cs => rcases h c rfl with rfl | rfl | rfl <;> rfl

/-- What may follow a value is no exponent. -/
theorem scanExponent_follows (h : Follows rest) : scanExponent rest = .ok (none, rest) := by
  cases rest with
  | nil => rfl
  | cons c cs => rcases h c rfl with rfl | rfl | rfl <;> rfl

/-- Digits that are read on never make a number smaller. -/
theorem le_ofDigitChars (ds : List Char) (n : Nat) : n ≤ Nat.ofDigitChars 10 ds n := by
  induction ds generalizing n with
  | nil => exact Nat.le_refl n
  | cons d ds ih =>
    rw [Nat.ofDigitChars_cons]
    exact Nat.le_trans (by omega) (ih _)

/-- All digits of a number within the limit are absorbed. -/
theorem absorb_of_le {limit : Nat} {ds : List Char} {n : Nat}
    (h : Nat.ofDigitChars 10 ds n ≤ limit) :
    absorb limit n ds = (Nat.ofDigitChars 10 ds n, ds.length) := by
  induction ds generalizing n with
  | nil => rfl
  | cons d ds ih =>
    rw [Nat.ofDigitChars_cons] at h ⊢
    have hfirst : 10 * n + digitValue d ≤ limit := Nat.le_trans (le_ofDigitChars ds _) h
    rw [absorb]
    simp only [hfirst, if_true]
    rw [show 10 * n + digitValue d = 10 * n + (d.toNat - '0'.toNat) from rfl, ih h]
    rfl

/-- A whole number of sixty-four bits is read up to what follows. -/
theorem number_toDigits (negative : Bool) {n : Nat} (hn : n ≤ maxWord)
    (hsign : negative = true → 0 < n ∧ n ≤ 0x8000000000000000) (h : Follows rest) :
    number .loose negative (Nat.toDigits 10 n ++ rest) =
      .ok (.int (if negative then -(n : Int) else n), rest) := by
  have hvalue : absorb maxWord 0 (Nat.toDigits 10 n) = (n, (Nat.toDigits 10 n).length) := by
    rw [absorb_of_le] <;> rw [Nat.ofDigitChars_ten_toDigits]
    exact hn
  simp only [number, scanWhole_toDigits n h, scanFraction_follows h, scanExponent_follows h, bind,
    Except.bind, Numeral.value, hvalue]
  cases negative with
  | false => simp
  | true => simp [hsign rfl]

/-! ## Texts -/

/-- An escape of four digits for a control character. -/
theorem codeEscape_control {n : Nat} (h : n < 0x20) :
    codeEscape .loose ('0' :: '0' :: hexDigit (n / 16) :: hexDigit (n % 16) :: rest) =
      .ok (some (Char.ofNat n), rest) := by
  have hunit : codeUnit ('0' :: '0' :: hexDigit (n / 16) :: hexDigit (n % 16) :: rest) =
      .ok (n, rest) := by
    have hbytes : ¬ ((('0' :: '0' :: hexDigit (n / 16) :: hexDigit (n % 16) :: rest).take 4).flatMap
        String.utf8EncodeChar).length < 4 := by
      have hhigh := Char.utf8Size_pos (hexDigit (n / 16))
      have hlow := Char.utf8Size_pos (hexDigit (n % 16))
      have hzero := Char.utf8Size_pos '0'
      simp only [List.take_succ_cons, List.take_zero, List.flatMap_cons, List.flatMap_nil,
        List.length_append, String.length_utf8EncodeChar, List.length_nil]
      omega
    have hzero : hexValue? '0' = some 0 := rfl
    rw [codeUnit]
    simp only [hbytes, if_false, hzero, hexValue?_hexDigit (show n / 16 < 16 by omega),
      hexValue?_hexDigit (show n % 16 < 16 by omega)]
    have hsum : 0 * 4096 + 0 * 256 + n / 16 * 16 + n % 16 = n := by omega
    rw [hsum]
  rw [codeEscape, hunit]
  have hlow : ¬ (0xDC00 ≤ n ∧ n ≤ 0xDFFF) := by omega
  have hhigh : ¬ (0xD800 ≤ n ∧ n ≤ 0xDBFF) := by omega
  simp only [bind, Except.bind, hlow, hhigh, if_false]

/-- A character inside a text is read back. -/
theorem quoted_escaped (fuel : Nat) (acc : List Char) (c : Char) :
    quoted .loose (fuel + 1) (some acc) (escaped c ++ rest) =
      quoted .loose fuel (some (c :: acc)) rest := by
  unfold escaped
  split
  case h_8 hquote hbackslash _ _ _ _ _ =>
    split
    case isTrue hcontrol =>
      show quoted .loose (fuel + 1) (some acc) ('\\' :: 'u' :: '0' :: '0' ::
        hexDigit (c.toNat / 16) :: hexDigit (c.toNat % 16) :: rest) = _
      rw [quoted]
      simp only [if_true, codeEscape_control hcontrol, Char.ofNat_toNat]
      rfl
    case isFalse hcontrol =>
      show quoted .loose (fuel + 1) (some acc) (c :: rest) = _
      rw [quoted.eq_def]
      simp only [hcontrol, if_false, Option.map_some]
      rw [if_neg hquote, if_neg hbackslash]
  all_goals rfl

/-- Escaped characters up to the quote are read back as these characters. -/
theorem quoted_flatMap (cs : List Char) {fuel : Nat} (hfuel : cs.length < fuel) (acc : List Char) :
    quoted .loose fuel (some acc) (cs.flatMap escaped ++ '"' :: rest) =
      .ok (some (String.ofList (acc.reverse ++ cs)), rest) := by
  induction cs generalizing fuel acc with
  | nil =>
    obtain ⟨fuel, rfl⟩ := Nat.exists_eq_add_one_of_ne_zero (Nat.ne_of_gt hfuel)
    rw [List.append_nil]
    rfl
  | cons c cs ih =>
    obtain ⟨fuel, rfl⟩ := Nat.exists_eq_add_one_of_ne_zero (Nat.ne_of_gt (Nat.zero_lt_of_lt hfuel))
    rw [List.flatMap_cons, List.append_assoc, quoted_escaped, ih (by simpa using hfuel),
      List.reverse_cons, List.append_assoc, List.singleton_append]

/-- Escapes make no text shorter. -/
theorem length_le_flatMap_escaped (cs : List Char) : cs.length ≤ (cs.flatMap escaped).length := by
  induction cs with
  | nil => exact Nat.le_refl 0
  | cons c cs ih =>
    have hone : 1 ≤ (escaped c).length := by
      unfold escaped
      split <;> first | exact Nat.le_add_left 1 _ | (split <;> exact Nat.le_add_left 1 _)
    rw [List.flatMap_cons, List.length_append, List.length_cons]
    omega

/-- A text is read back after its opening quote. -/
theorem text_quote (s : String) :
    text .loose (s.toList.flatMap escaped ++ '"' :: rest) = .ok (some s, rest) := by
  have hlength := length_le_flatMap_escaped s.toList
  rw [text, quoted_flatMap s.toList (by rw [List.length_append]; omega), List.reverse_nil,
    List.nil_append, String.ofList_toList]

/-- A quoted text is its escaped characters between two quotes. -/
theorem toList_quote (s : String) :
    (quote s).toList = '"' :: (s.toList.flatMap escaped ++ ['"']) := by
  rw [quote, String.toList_ofList]
  rfl

/-! ## Values -/

/-- A number that is not negative is written in its digits. -/
theorem compact_nonneg {n : Int} (h : 0 ≤ n) :
    (Json.int n).compact.toList = Nat.toDigits 10 n.toNat := by
  rw [compact, Int.toString_eq_repr, Int.repr_eq_if, if_pos h, Nat.toList_repr]

/-- A negative number is written in its digits behind a minus sign. -/
theorem compact_negative {n : Int} (h : ¬ 0 ≤ n) :
    (Json.int n).compact.toList = '-' :: Nat.toDigits 10 n.natAbs := by
  have habs : (-n).toNat = n.natAbs := by omega
  rw [compact, Int.toString_eq_repr, Int.repr_eq_if, if_neg h, String.toList_append, habs,
    Nat.toList_repr]
  rfl

/-- An array is its items between brackets. -/
theorem compact_arr (items : List Json) :
    (Json.arr items).compact.toList = '[' :: ((compactItems items).toList ++ [']']) := by
  simp [compact]

/-- An object is its members between braces. -/
theorem compact_obj (members : List (String × Json)) :
    (Json.obj members).compact.toList = '\x7b' :: ((compactMembers members).toList ++ ['\x7d']) := by
  simp [compact]

/-- A digit starts neither a blank nor anything else that is read but a number. -/
theorem not_isBlank_of_isDigit {c : Char} (h : c.isDigit = true) : isBlank c = false ∧ c ≠ ']' := by
  constructor
  · rw [Bool.eq_false_iff]
    intro hblank
    simp only [isBlank, Bool.or_eq_true, beq_iff_eq] at hblank
    rcases hblank with ((rfl | rfl) | rfl) | rfl <;> cases h
  · rintro rfl
    cases h

/-- A written value starts with a character that is no blank and does not end an array. -/
theorem Holdable.head_compact {depth : Nat} {j : Json} (h : Holdable depth j) :
    ∃ c cs, j.compact.toList = c :: cs ∧ isBlank c = false ∧ c ≠ ']' := by
  cases h with
  | null => exact ⟨'n', _, rfl, rfl, by decide⟩
  | bool b => cases b <;> exact ⟨_, _, rfl, rfl, by decide⟩
  | @int _ n hlow hhigh =>
    by_cases hn : 0 ≤ n
    · rw [compact_nonneg hn]
      cases hds : Nat.toDigits 10 n.toNat with
      | nil => exact absurd hds Nat.toDigits_ne_nil
      | cons d ds =>
        refine ⟨d, ds, rfl, not_isBlank_of_isDigit (isDigit_toDigits (n := n.toNat) d ?_)⟩
        rw [hds]
        exact List.mem_cons_self
    · exact ⟨_, _, compact_negative hn, rfl, by decide⟩
  | str s => exact ⟨_, _, toList_quote s, rfl, by decide⟩
  | arr => exact ⟨_, _, compact_arr _, rfl, by decide⟩
  | obj => exact ⟨_, _, compact_obj _, rfl, by decide⟩

/-- What a text can hold is written in at least one character. -/
theorem Holdable.length_compact_pos {depth : Nat} {j : Json} (h : Holdable depth j) :
    0 < j.compact.toList.length := by
  obtain ⟨c, cs, hcs, -⟩ := h.head_compact
  rw [hcs]
  exact Nat.zero_lt_succ _

/-- Members that were read loosely are those of the object, in their order. -/
theorem object_loose (members : List (String × Json)) :
    object .loose (members.map fun m => (some m.1, m.2)).reverse = .obj members := by
  have hall : (members.map fun m => (some m.1, m.2)).mapM
      (fun m : Option String × Json => m.1.map (·, m.2)) = some members := by
    induction members with
    | nil => rfl
    | cons m rest ih => simp [ih]
  rw [object, List.reverse_reverse, hall]

/-- A number is read up to what follows. -/
theorem value_digits {n : Nat} (hn : n ≤ maxWord) (h : Follows rest) (depth fuel : Nat) :
    value .loose depth (fuel + 1) (Nat.toDigits 10 n ++ rest) = .ok (.int n, rest) := by
  have hnumber := number_toDigits false hn nofun h
  have hdigit := isDigit_toDigits (n := n)
  cases hds : Nat.toDigits 10 n with
  | nil => exact absurd hds Nat.toDigits_ne_nil
  | cons d ds =>
    rw [hds] at hnumber hdigit
    have hd := hdigit d List.mem_cons_self
    have hskip : skipBlanks (d :: (ds ++ rest)) = d :: (ds ++ rest) :=
      skipBlanks_cons (not_isBlank_of_isDigit hd).1
    rw [List.cons_append] at hnumber ⊢
    rw [value, hskip]
    split
    case h_1 heq => cases heq
    case h_9 heq =>
      cases heq
      rw [if_pos hd, hnumber]
      rfl
    all_goals
      rename_i heq
      cases heq
      cases hd

/-- A value inside so many others is read up to what follows. -/
def ReadsAt (depth : Nat) (j : Json) : Prop :=
  ∀ {fuel : Nat} {rest : List Char}, 2 * j.compact.toList.length ≤ fuel + 1 → Follows rest →
    value .loose depth (fuel + 1) (j.compact.toList ++ rest) = .ok (j, rest)

/-! ### Arrays -/

section Items

variable {depth fuel : Nat} {acc : List Json} {c : Char} {cs : List Char}

/-- The closing bracket ends the items. -/
theorem items_end (first : Bool) :
    items .loose depth (fuel + 1) first acc (']' :: rest) = .ok (acc, rest) := by
  rw [items, skipBlanks_cons rfl]
  rfl

variable (hblank : isBlank c = false) (hend : c ≠ ']')
include hblank hend

/-- The first item stands behind the opening bracket. -/
theorem items_first :
    items .loose depth (fuel + 1) true acc (c :: cs) = item .loose depth fuel acc (c :: cs) := by
  rw [items, skipBlanks_cons hblank]
  split
  case h_1 heq => cases heq
  case h_2 heq =>
    cases heq
    exact absurd rfl hend
  case h_3 heq =>
    cases heq
    rfl

/-- Every other item stands behind a comma. -/
theorem items_comma :
    items .loose depth (fuel + 1) false acc (',' :: c :: cs) =
      item .loose depth fuel acc (c :: cs) := by
  rw [items, skipBlanks_cons rfl]
  split
  case h_1 heq => cases heq
  case h_2 heq => cases heq
  case h_3 heq =>
    cases heq
    rw [if_neg Bool.false_ne_true, if_pos rfl, skipBlanks_cons hblank]
    split
    case h_1 heq => cases heq
    case h_2 heq =>
      cases heq
      exact absurd rfl hend
    case h_3 => rfl

end Items

/-- Items are written with commas between them. -/
theorem toList_compactItems_cons (j k : Json) (xs : List Json) :
    (compactItems (j :: k :: xs)).toList =
      j.compact.toList ++ ',' :: (compactItems (k :: xs)).toList := by
  rw [compactItems] <;> simp

/-- Written items start as the first of them does. -/
theorem head_compactItems {depth : Nat} {j : Json} (h : Holdable depth j) (xs : List Json) :
    ∃ c cs, (compactItems (j :: xs)).toList = c :: cs ∧ isBlank c = false ∧ c ≠ ']' := by
  obtain ⟨c, cs, hcs, hstarts⟩ := h.head_compact
  cases xs with
  | nil =>
    rw [compactItems]
    exact ⟨c, cs, hcs, hstarts⟩
  | cons k xs =>
    rw [toList_compactItems_cons, hcs]
    exact ⟨c, _, rfl, hstarts⟩

/-- The items of an array are read one after the other, up to its end. -/
theorem item_compactItems {depth levels : Nat} (j : Json) (xs : List Json)
    (hheld : ∀ x ∈ j :: xs, Holdable levels x) (hread : ∀ x ∈ j :: xs, ReadsAt depth x)
    {fuel : Nat} (hfuel : 2 * ((compactItems (j :: xs)).toList.length + 1) ≤ fuel + 1)
    (acc : List Json) :
    item .loose depth fuel acc ((compactItems (j :: xs)).toList ++ ']' :: rest) =
      .ok ((j :: xs).reverse ++ acc, rest) := by
  have hpos := (hheld j List.mem_cons_self).length_compact_pos
  induction xs generalizing j fuel acc with
  | nil =>
    rw [compactItems] at hfuel ⊢
    obtain ⟨fuel, rfl⟩ : ∃ f, fuel = f + 2 := ⟨fuel - 2, by omega⟩
    rw [item, hread j List.mem_cons_self (by omega) (follows_cons (.inr (.inl rfl)))]
    exact items_end false
  | cons k xs ih =>
    rw [toList_compactItems_cons, List.length_append, List.length_cons] at hfuel
    rw [toList_compactItems_cons, List.append_assoc, List.cons_append]
    obtain ⟨fuel, rfl⟩ : ∃ f, fuel = f + 2 := ⟨fuel - 2, by omega⟩
    have hheld' : ∀ x ∈ k :: xs, Holdable levels x := fun x hx =>
      hheld x (List.mem_cons_of_mem _ hx)
    have hfuel' : 2 * ((compactItems (k :: xs)).toList.length + 1) ≤ fuel + 1 := by omega
    have hnext := ih k hheld' (fun x hx => hread x (List.mem_cons_of_mem _ hx)) hfuel' (j :: acc)
      (hheld' k List.mem_cons_self).length_compact_pos
    obtain ⟨c, cs, hcs, hblank, hend⟩ := head_compactItems (hheld' k List.mem_cons_self) xs
    rw [item, hread j List.mem_cons_self (by omega) (follows_cons (.inl rfl))]
    rw [hcs, List.cons_append] at hnext ⊢
    show items .loose depth (fuel + 1) false (j :: acc) _ = _
    rw [items_comma hblank hend, hnext]
    simp

/-! ### Objects -/

section Members

variable {depth fuel : Nat} {acc : List (Option String × Json)}

/-- The closing brace ends the members. -/
theorem members_end (first : Bool) :
    members .loose depth (fuel + 1) first acc ('\x7d' :: rest) = .ok (acc, rest) := by
  rw [members, skipBlanks_cons rfl]
  rfl

/-- The first member stands behind the opening brace. -/
theorem members_first :
    members .loose depth (fuel + 1) true acc ('"' :: rest) = entry .loose depth fuel acc rest := by
  rw [members, skipBlanks_cons rfl]
  rfl

/-- Every other member stands behind a comma. -/
theorem members_comma :
    members .loose depth (fuel + 1) false acc (',' :: '"' :: rest) =
      entry .loose depth fuel acc rest := by
  rw [members, skipBlanks_cons rfl]
  split
  case h_1 heq => cases heq
  case h_2 heq => cases heq
  case h_3 heq =>
    cases heq
    rw [if_neg Bool.false_ne_true, if_pos rfl, skipBlanks_cons rfl]
    rfl

end Members

/-- The written members of an object after the quote that opens the first key. -/
def memberChars : List (String × Json) → List Char
  | [] => []
  | [m] => m.1.toList.flatMap escaped ++ '"' :: ':' :: m.2.compact.toList
  | m :: k :: ms =>
    m.1.toList.flatMap escaped ++ '"' :: ':' :: (m.2.compact.toList ++ ',' :: '"' ::
      memberChars (k :: ms))

/-- Members are written beginning with the quote of the first name. -/
theorem toList_compactMembers (m : String × Json) (ms : List (String × Json)) :
    (compactMembers (m :: ms)).toList = '"' :: memberChars (m :: ms) := by
  induction ms generalizing m with
  | nil => simp [compactMembers, memberChars, toList_quote]
  | cons k ms ih =>
    rw [compactMembers]
    · simp [memberChars, toList_quote, ih]
    · simp

/-- The members of an object are read one after the other, up to its end. -/
theorem entry_memberChars {depth : Nat} (m : String × Json) (ms : List (String × Json))
    (hread : ∀ x ∈ m :: ms, ReadsAt depth x.2) {fuel : Nat}
    (hfuel : 2 * ((memberChars (m :: ms)).length + 1) ≤ fuel + 1)
    (acc : List (Option String × Json)) :
    entry .loose depth fuel acc (memberChars (m :: ms) ++ '\x7d' :: rest) =
      .ok (((m :: ms).map fun m => (some m.1, m.2)).reverse ++ acc, rest) := by
  induction ms generalizing m fuel acc with
  | nil =>
    rw [memberChars] at hfuel ⊢
    simp only [List.length_append, List.length_cons] at hfuel
    obtain ⟨fuel, rfl⟩ : ∃ f, fuel = f + 2 := ⟨fuel - 2, by omega⟩
    rw [List.append_assoc, List.cons_append, List.cons_append, entry, text_quote]
    simp only
    rw [skipBlanks_cons rfl]
    simp only
    rw [hread m List.mem_cons_self (by omega) (follows_cons (.inr (.inr rfl)))]
    exact members_end false
  | cons k ms ih =>
    rw [memberChars] at hfuel ⊢
    simp only [List.length_append, List.length_cons] at hfuel
    -- one unit of fuel goes to this entry and one to its value, and two were there for each character
    obtain ⟨fuel, rfl⟩ : ∃ f, fuel = f + 2 := ⟨fuel - 2, by omega⟩
    have hfuel' : 2 * ((memberChars (k :: ms)).length + 1) ≤ fuel + 1 := by omega
    have hnext := ih k (fun x hx => hread x (List.mem_cons_of_mem _ hx)) hfuel'
      ((some m.1, m.2) :: acc)
    simp only [List.append_assoc, List.cons_append]
    rw [entry, text_quote]
    simp only
    rw [skipBlanks_cons rfl]
    simp only
    rw [hread m List.mem_cons_self (by omega) (follows_cons (.inl rfl))]
    show members .loose depth (fuel + 1) false ((some m.1, m.2) :: acc) _ = _
    rw [members_comma, hnext]
    simp

/-! ### All values -/

section Values

variable {depth fuel : Nat} {cs : List Char}

/-- A minus sign starts a number. -/
theorem value_minus (cs : List Char) :
    value .loose depth (fuel + 1) ('-' :: cs) = number .loose true cs := by
  rw [value, skipBlanks_cons rfl]
  rfl

/-- A quote starts a text. -/
theorem value_text {s : String} (h : text .loose cs = .ok (some s, rest)) :
    value .loose depth (fuel + 1) ('"' :: cs) = .ok (.str s, rest) := by
  rw [value, skipBlanks_cons rfl]
  simp only [h]

variable (hdepth : depth < maxDepth)
include hdepth

/-- An opening bracket starts an array. -/
theorem value_items {xs : List Json}
    (h : items .loose (depth + 1) fuel true [] cs = .ok (xs.reverse, rest)) :
    value .loose depth (fuel + 1) ('[' :: cs) = .ok (.arr xs, rest) := by
  rw [value, skipBlanks_cons rfl]
  simp only [reduceCtorEq, false_and, if_false, h, heldAt, hdepth, if_true, List.reverse_reverse]

/-- An opening brace starts an object. -/
theorem value_members {ms : List (String × Json)}
    (h : members .loose (depth + 1) fuel true [] cs =
      .ok ((ms.map fun m => (some m.1, m.2)).reverse, rest)) :
    value .loose depth (fuel + 1) ('\x7b' :: cs) = .ok (.obj ms, rest) := by
  rw [value, skipBlanks_cons rfl]
  simp only [reduceCtorEq, false_and, if_false, h, heldAt, hdepth, if_true, object_loose]

end Values

/-- A value that a text can hold is read up to what follows. -/
theorem Holdable.readsAt {levels : Nat} {j : Json} (h : Holdable levels j) {depth : Nat}
    (hdepth : depth + levels ≤ maxDepth) : ReadsAt depth j := by
  -- on the levels: what is below an array or object has one level less, and is read one deeper
  induction h generalizing depth with
  | null =>
    intro fuel rest _ _
    rw [value]
    rfl
  | bool b =>
    intro fuel rest _ _
    rw [value]
    cases b <;> rfl
  | @int _ n hlow hhigh =>
    intro fuel rest _ hrest
    by_cases hn : 0 ≤ n
    · have hvalue := value_digits (n := n.toNat) (by omega) hrest depth fuel
      rwa [Int.toNat_of_nonneg hn, ← compact_nonneg hn] at hvalue
    · have hword : n.natAbs ≤ maxWord := by
        rw [maxWord]
        omega
      have hnumber := number_toDigits true hword (fun _ => by omega) hrest
      have habs : -(n.natAbs : Int) = n := by omega
      rw [if_pos rfl, habs] at hnumber
      rw [compact_negative hn, List.cons_append, value_minus, hnumber]
  | str s =>
    intro fuel rest _ _
    rw [compact, toList_quote, List.cons_append, List.append_assoc]
    exact value_text (text_quote s)
  | @arr levels xs h ih =>
    intro fuel rest hfuel _
    rw [compact_arr] at hfuel ⊢
    simp only [List.cons_append, List.append_assoc, List.length_cons, List.length_append,
      List.length_nil] at hfuel ⊢
    obtain ⟨fuel, rfl⟩ : ∃ f, fuel = f + 1 := ⟨fuel - 1, by omega⟩
    refine value_items (by omega) ?_
    cases xs with
    | nil => exact items_end true
    | cons x xs =>
      have hread : item .loose (depth + 1) fuel [] ((compactItems (x :: xs)).toList ++ ']' :: rest) =
          .ok ((x :: xs).reverse ++ [], rest) :=
        item_compactItems x xs h (fun y hy => ih y hy (by omega)) (by omega) []
      obtain ⟨c, cs, hcs, hblank, hend⟩ := head_compactItems (h x List.mem_cons_self) xs
      rw [hcs, List.cons_append, List.append_nil] at hread
      rw [hcs, List.cons_append, items_first hblank hend, List.nil_append, hread]
  | @obj levels ms h ih =>
    intro fuel rest hfuel _
    rw [compact_obj] at hfuel ⊢
    simp only [List.cons_append, List.append_assoc, List.length_cons, List.length_append,
      List.length_nil] at hfuel ⊢
    obtain ⟨fuel, rfl⟩ : ∃ f, fuel = f + 1 := ⟨fuel - 1, by omega⟩
    refine value_members (by omega) ?_
    cases ms with
    | nil => exact members_end true
    | cons m ms =>
      rw [toList_compactMembers, List.length_cons] at hfuel
      have hread : entry .loose (depth + 1) fuel [] (memberChars (m :: ms) ++ '\x7d' :: rest) =
          .ok (((m :: ms).map fun m => (some m.1, m.2)).reverse ++ [], rest) :=
        entry_memberChars m ms (fun x hx => ih x hx (by omega)) (by omega) []
      rw [List.append_nil] at hread
      rw [toList_compactMembers, List.cons_append, members_first, List.nil_append, hread]

/-- **Texts of values.** A value that a text can hold is the one that its text denotes. -/
theorem parseLoose_compact {levels : Nat} {j : Json} (h : Holdable levels j)
    (hlevels : levels ≤ maxDepth) : parseLoose j.compact = some j := by
  have hreads : ReadsAt 0 j := h.readsAt (by omega)
  have hread : value .loose 0 (3 * j.compact.toList.length + 3) (j.compact.toList ++ []) =
      .ok (j, []) := hreads (by omega) follows_nil
  rw [List.append_nil] at hread
  rw [parseLoose, document, hread]
  rfl

end Json

end FirewallOperator
