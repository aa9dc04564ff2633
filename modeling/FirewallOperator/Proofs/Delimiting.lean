import FirewallOperator.Object.Fingerprint
import Mathlib.Tactic.SplitIfs

/-! # Texts that tell where they end

Written items stand in a row, with other text behind them. `Reveals` says that an item can be read
off such a row: it tells what it stands for, and what is left is the text behind it. Quoted texts do
(`quoted_reveals`), since nothing between the quotes passes for the closing one. So do lists of
items that do (`Reveals.listed`), and with them the parts of objects: services, terms and tags. -/

namespace FirewallOperator

variable {α β : Type}

/-- A written item tells what `view` shows of it, and where it ends, whatever follows. -/
def Reveals (write : α → String) (view : α → β) : Prop :=
  ∀ ⦃a b : α⦄ ⦃r s : String⦄, write a ++ r = write b ++ s → view a = view b ∧ r = s

/-- What does not have a character can be told from what starts with it, or is empty. -/
theorem eq_of_append_stop {c : Char} {a b r s : String} (ha : c ∉ a.toList) (hb : c ∉ b.toList)
    (hr : ∀ d ∈ r.toList.head?, d = c) (hs : ∀ d ∈ s.toList.head?, d = c) (h : a ++ r = b ++ s) :
    a = b ∧ r = s := by
  have htake : ∀ {x y : String}, c ∉ x.toList → (∀ d ∈ y.toList.head?, d = c) →
      (x ++ y).toList.takeWhile (· != c) = x.toList := by
    intro x y hx hy
    rw [String.toList_append, List.takeWhile_append_of_pos]
    · cases hlist : y.toList with
      | nil => simp
      | cons d ds =>
        obtain rfl : d = c := hy d (by rw [hlist]; rfl)
        simp
    · exact fun d hd => bne_iff_ne.2 fun heq => hx (heq ▸ hd)
  -- what comes before the stop is read off both sides
  have hab : a = b := by
    have hread := congrArg (fun t => t.toList.takeWhile (· != c)) h
    simp only [htake ha hr, htake hb hs] at hread
    exact String.toList_inj.1 hread
  exact ⟨hab, (String.append_right_inj a).1 (hab ▸ h)⟩

/-! ## Hexadecimal numerals -/

/-- The number that hexadecimal digits stand for. -/
def hexNumber (digits : List Char) : Nat :=
  digits.foldl (fun n c => 16 * n + (hexValue? c).getD 0) 0

/-- A hexadecimal digit is read back. -/
theorem hexValue?_digitChar {n : Nat} (h : n < 16) : hexValue? n.digitChar = some n := by
  revert n; decide

/-- A numeral is read back as its number. -/
theorem hexNumber_hexNumeral (n : Nat) : hexNumber (hexNumeral n) = n := by
  -- a numeral is that of the quotient with one more digit
  induction n using Nat.strongRecOn with
  | ind n ih =>
    rw [hexNumeral, Nat.toDigits_eq_if (by decide)]
    split
    case isTrue h => simp [hexNumber, hexValue?_digitChar h]
    case isFalse h =>
      have hquotient : hexNumber (hexNumeral (n / 16)) = n / 16 := ih _ (by omega)
      have hdigit := hexValue?_digitChar (Nat.mod_lt n (by decide : 0 < 16))
      rw [hexNumber, hexNumeral] at hquotient
      rw [hexNumber, List.foldl_append, hquotient, List.foldl_cons, List.foldl_nil, hdigit,
        Option.getD_some]
      omega

/-- The characters of a numeral are digits. -/
theorem exists_digit_of_mem_hexNumeral {c : Char} {n : Nat} (h : c ∈ hexNumeral n) :
    ∃ d < 16, c = d.digitChar := by
  induction n using Nat.strongRecOn with
  | ind n ih =>
    rw [hexNumeral, Nat.toDigits_eq_if (by decide)] at h
    split at h
    case isTrue hn => exact ⟨n, hn, List.mem_singleton.1 h⟩
    case isFalse hn =>
      rcases List.mem_append.1 h with h | h
      · exact ih _ (by omega) h
      · exact ⟨n % 16, Nat.mod_lt n (by decide), List.mem_singleton.1 h⟩

/-- No digit is a quote, a backslash or a brace. -/
theorem isPlain_of_mem_hexNumeral {c : Char} {n : Nat} (h : c ∈ hexNumeral n) :
    c ≠ '"' ∧ c ≠ '\\' ∧ c ≠ '\x7d' := by
  have hall : ∀ d < 16, Nat.digitChar d ≠ '"' ∧ Nat.digitChar d ≠ '\\' ∧
      Nat.digitChar d ≠ '\x7d' := by decide
  obtain ⟨d, hd, rfl⟩ := exists_digit_of_mem_hexNumeral h
  exact hall d hd

/-- A hexadecimal number ends at the closing brace. -/
theorem takeWhile_hexNumeral (n : Nat) (r : List Char) :
    (hexNumeral n ++ '\x7d' :: r).takeWhile (· != '\x7d') = hexNumeral n := by
  rw [List.takeWhile_append_of_pos]
  · simp
  · intro c hc
    simpa using (isPlain_of_mem_hexNumeral hc).2.2

/-! ## Quoted texts -/

/-- The character that an escape stands for, and what follows it. -/
def unescaped : List Char → Option (Char × List Char)
  | [] => none
  | 'n' :: rest => some ('\n', rest)
  | 'r' :: rest => some ('\r', rest)
  | 't' :: rest => some ('\t', rest)
  | '0' :: rest => some ('\x00', rest)
  | 'u' :: rest =>
    let digits := rest.tail.takeWhile (· != '\x7d')
    some (.ofNat (hexNumber digits), rest.tail.drop (digits.length + 1))
  | c :: rest => some (c, rest)

/-- The first character between quotes, and what follows it. -/
def unquotedChar : List Char → Option (Char × List Char)
  | [] => none
  | c :: rest => if c = '\\' then unescaped rest else some (c, rest)

/-- A numeral between braces is read back as the character it numbers. -/
theorem unescaped_hexNumeral (c : Char) (r : List Char) :
    unescaped ('u' :: '\x7b' :: hexNumeral c.toNat ++ '\x7d' :: r) = some (c, r) := by
  simp only [List.cons_append, unescaped, List.tail_cons, takeWhile_hexNumeral,
    hexNumber_hexNumeral, Char.ofNat_toNat, List.drop_append,
    List.drop_of_length_le (Nat.le_succ _), Nat.add_sub_cancel_left, List.drop_one,
    List.nil_append]

/-- A character stands between quotes as it is, or as an escape, which is read back. Behind the
character that an escape starts with there is no quote and no backslash. -/
theorem quotedChar_cases (c : Char) :
    (quotedChar c = [c] ∧ c ≠ '"' ∧ c ≠ '\\') ∨
      ∃ e digits, quotedChar c = '\\' :: e :: digits ∧
        (∀ d ∈ digits, d ≠ '"' ∧ d ≠ '\\') ∧ ∀ r, unescaped (e :: digits ++ r) = some (c, r) := by
  rw [quotedChar]
  split_ifs with hquote hbackslash hline hreturn htab hzero hhidden
  · exact .inr ⟨'"', [], rfl, by simp, fun r => by rw [hquote]; rfl⟩
  · exact .inr ⟨'\\', [], rfl, by simp, fun r => by rw [hbackslash]; rfl⟩
  · exact .inr ⟨'n', [], rfl, by simp, fun r => by rw [hline]; rfl⟩
  · exact .inr ⟨'r', [], rfl, by simp, fun r => by rw [hreturn]; rfl⟩
  · exact .inr ⟨'t', [], rfl, by simp, fun r => by rw [htab]; rfl⟩
  · exact .inr ⟨'0', [], rfl, by simp, fun r => by rw [hzero]; rfl⟩
  · refine .inr ⟨'u', '\x7b' :: hexNumeral c.toNat ++ ['\x7d'], rfl, ?_, fun r => ?_⟩
    · intro d hd
      simp only [List.cons_append, List.mem_cons, List.mem_append, List.not_mem_nil, or_false] at hd
      rcases hd with rfl | hd | rfl
      · decide
      · exact ⟨(isPlain_of_mem_hexNumeral hd).1, (isPlain_of_mem_hexNumeral hd).2.1⟩
      · decide
    · rw [← unescaped_hexNumeral c r]
      simp
  · exact .inl ⟨rfl, hquote, hbackslash⟩

/-- A character between quotes is read back. -/
theorem unquotedChar_quotedChar (c : Char) (r : List Char) :
    unquotedChar (quotedChar c ++ r) = some (c, r) := by
  rcases quotedChar_cases c with ⟨h, -, hne⟩ | ⟨e, digits, h, -, hread⟩
  · rw [h, List.singleton_append, unquotedChar, if_neg hne]
  · rw [h, List.cons_append, unquotedChar, if_pos rfl, hread]

/-- No character between quotes looks like the closing quote. -/
theorem quotedChar_append_ne (c : Char) (r s : List Char) : quotedChar c ++ r ≠ '"' :: s := by
  rcases quotedChar_cases c with ⟨h, hne, -⟩ | ⟨e, digits, h, -, -⟩
  · rw [h]
    exact fun heq => hne (List.cons.inj heq).1
  · rw [h]
    exact fun heq => absurd (List.cons.inj heq).1 (by decide)

/-- Texts between quotes can be told apart, whatever follows the closing quotes. -/
theorem quotedChars_inj {cs ds r s : List Char}
    (h : cs.flatMap quotedChar ++ '"' :: r = ds.flatMap quotedChar ++ '"' :: s) :
    cs = ds ∧ r = s := by
  induction cs generalizing ds with
  | nil =>
    cases ds with
    | nil => exact ⟨rfl, (List.cons.inj h).2⟩
    | cons d ds =>
      rw [List.flatMap_cons, List.append_assoc] at h
      exact absurd h.symm (quotedChar_append_ne _ _ _)
  | cons c cs ih =>
    cases ds with
    | nil =>
      rw [List.flatMap_cons, List.append_assoc] at h
      exact absurd h (quotedChar_append_ne _ _ _)
    | cons d ds =>
      -- both sides start with the same character, which is read back
      rw [List.flatMap_cons, List.flatMap_cons, List.append_assoc, List.append_assoc] at h
      have hread := congrArg unquotedChar h
      rw [unquotedChar_quotedChar, unquotedChar_quotedChar] at hread
      obtain ⟨rfl, hrest⟩ := Prod.mk.inj (Option.some.inj hread)
      obtain ⟨rfl, hrs⟩ := ih hrest
      exact ⟨rfl, hrs⟩

/-- A quoted text tells what it quotes. -/
theorem quoted_reveals : Reveals quoted id := by
  intro a b r s h
  have hchars := congrArg String.toList h
  simp only [String.toList_append, toList_quoted, List.cons_append, List.append_assoc,
    List.cons.injEq, true_and, List.nil_append] at hchars
  obtain ⟨hab, hrs⟩ := quotedChars_inj hchars
  exact ⟨String.toList_inj.1 hab, String.toList_inj.1 hrs⟩

/-! ## Lists -/

/-- Written items, each behind a comma and a space. -/
def continued (write : α → String) : List α → String
  | [] => ""
  | x :: rest => ", " ++ write x ++ continued write rest

/-- A list is written as its first item, and what continues it. -/
theorem commaSeparated_map_cons (write : α → String) (x : α) (xs : List α) :
    commaSeparated ((x :: xs).map write) = write x ++ continued write xs := by
  induction xs generalizing x with
  | nil => simp [commaSeparated, continued]
  | cons y ys ih =>
    rw [List.map_cons, List.map_cons, commaSeparated, ← List.map_cons, ih, continued,
      String.append_assoc, String.append_assoc]
    · simp

/-- Texts with different characters at one place are different. -/
theorem ne_of_char_ne {s t : String} (index : Nat) (h : s.toList[index]? ≠ t.toList[index]?) :
    s ≠ t :=
  fun heq => h (by rw [heq])

section Lists

variable {write : α → String} {view : α → β}

/-- Written items that go on until a closing bracket tell what each of them shows. -/
theorem Reveals.continued (hw : Reveals write view) :
    Reveals (fun xs => FirewallOperator.continued write xs ++ "]") (List.map view) := by
  intro xs ys r s h
  -- where one row ends, the other does too: a comma is no closing bracket
  induction xs generalizing ys with
  | nil =>
    cases ys with
    | nil => exact ⟨rfl, (String.append_right_inj _).1 h⟩
    | cons y ys =>
      exact absurd h (ne_of_char_ne 0 (by simp [FirewallOperator.continued]))
  | cons x xs ih =>
    cases ys with
    | nil => exact absurd h (ne_of_char_ne 0 (by simp [FirewallOperator.continued]))
    | cons y ys =>
      simp only [FirewallOperator.continued, String.append_assoc] at h
      obtain ⟨hview, hrest⟩ := hw ((String.append_right_inj _).1 h)
      simp only [← String.append_assoc] at hrest
      obtain ⟨hviews, hrs⟩ := ih hrest
      exact ⟨by rw [List.map_cons, List.map_cons, hview, hviews], hrs⟩

/-- A list tells what each of its items shows, if no item looks like the closing bracket. -/
theorem Reveals.listed (hw : Reveals write view) (hopen : ∀ a r s, write a ++ r ≠ "]" ++ s) :
    Reveals (fun xs => FirewallOperator.listed (xs.map write)) (List.map view) := by
  intro xs ys r s h
  simp only [FirewallOperator.listed, String.append_assoc] at h
  have hitems := (String.append_right_inj _).1 h
  cases xs with
  | nil =>
    cases ys with
    | nil => exact ⟨rfl, (String.append_right_inj _).1 hitems⟩
    | cons y ys =>
      rw [commaSeparated_map_cons, String.append_assoc] at hitems
      exact absurd hitems.symm (hopen y _ _)
  | cons x xs =>
    cases ys with
    | nil =>
      rw [commaSeparated_map_cons, String.append_assoc] at hitems
      exact absurd hitems (hopen x _ _)
    | cons y ys =>
      simp only [commaSeparated_map_cons, String.append_assoc] at hitems
      obtain ⟨hview, hrest⟩ := hw hitems
      simp only [← String.append_assoc] at hrest
      obtain ⟨hviews, hrs⟩ := hw.continued hrest
      exact ⟨by rw [List.map_cons, List.map_cons, hview, hviews], hrs⟩

end Lists

/-- A list of quoted texts tells the texts. -/
theorem quotedList_reveals : Reveals quotedList id := by
  intro xs ys r s h
  have hlisted := quoted_reveals.listed fun a r s => ne_of_char_ne 0 (by simp)
  obtain ⟨hmap, hrs⟩ := hlisted h
  exact ⟨by simpa using hmap, hrs⟩

/-! ## Parts of objects -/

/-- A tag in a function text tells all of the tag. -/
theorem Tag.text_reveals : Reveals Tag.text id := by
  rintro ⟨scope, value⟩ ⟨scope', value'⟩ r s h
  unfold Tag.text at h
  simp only [String.append_assoc] at h
  obtain ⟨hscope, h⟩ := quoted_reveals ((String.append_right_inj _).1 h)
  obtain ⟨hvalue, h⟩ := quoted_reveals ((String.append_right_inj _).1 h)
  have hrest := (String.append_right_inj _).1 h
  obtain rfl : scope = scope' := hscope
  obtain rfl : value = value' := hvalue
  exact ⟨rfl, hrest⟩

/-- What counts of a service entry: its identity, its protocol and its ports. -/
def ServiceEntry.content (e : ServiceEntry) : String × String × List String :=
  (e.id, e.protocol, e.ports)

/-- A service entry in a function text tells its content. -/
theorem ServiceEntry.text_reveals : Reveals ServiceEntry.text ServiceEntry.content := by
  intro a b r s h
  unfold ServiceEntry.text at h
  simp only [commaSeparated, String.append_assoc] at h
  obtain ⟨hid, h⟩ := quoted_reveals ((String.append_right_inj _).1 h)
  obtain ⟨hprotocol, h⟩ := quoted_reveals ((String.append_right_inj _).1 h)
  obtain ⟨hports, h⟩ := quotedList_reveals ((String.append_right_inj _).1 h)
  exact ⟨Prod.ext hid (Prod.ext hprotocol hports), (String.append_right_inj _).1 h⟩

/-- A term in a function text tells all of the term. -/
theorem Term.text_reveals : Reveals Term.text id := by
  intro a b r s h
  cases a with
  | condition memberType key operator value =>
    cases b with
    | condition memberType' key' operator' value' =>
      simp only [text_condition, String.append_assoc] at h
      obtain ⟨hmember, h⟩ := quoted_reveals ((String.append_right_inj _).1 h)
      obtain ⟨hkey, h⟩ := quoted_reveals ((String.append_right_inj _).1 h)
      obtain ⟨hoperator, h⟩ := quoted_reveals ((String.append_right_inj _).1 h)
      obtain ⟨hvalue, h⟩ := quoted_reveals ((String.append_right_inj _).1 h)
      have hrest := (String.append_right_inj _).1 h
      obtain rfl : memberType = memberType' := hmember
      obtain rfl : key = key' := hkey
      obtain rfl : operator = operator' := hoperator
      obtain rfl : value = value' := hvalue
      exact ⟨rfl, hrest⟩
    -- the names of the two forms differ at the fourth character
    | conjunction operator' =>
      exact absurd h (ne_of_char_ne 3 (by simp [text_condition, text_conjunction]))
  | conjunction operator =>
    cases b with
    | condition memberType' key' operator' value' =>
      exact absurd h (ne_of_char_ne 3 (by simp [text_condition, text_conjunction]))
    | conjunction operator' =>
      simp only [text_conjunction, String.append_assoc] at h
      obtain ⟨hoperator, h⟩ := quoted_reveals ((String.append_right_inj _).1 h)
      have hrest := (String.append_right_inj _).1 h
      obtain rfl : operator = operator' := hoperator
      exact ⟨rfl, hrest⟩

/-! ## Lists of parts -/

/-- Tags in a function text tell the tags in order. -/
theorem Tag.listText_reveals : Reveals Tag.listText Tag.sorted := by
  intro ts us r s h
  have hlisted := Tag.text_reveals.listed fun a r s => ne_of_char_ne 0 (by unfold text; simp)
  unfold listText at h
  obtain ⟨hmap, hrs⟩ := hlisted h
  exact ⟨by simpa only [List.map_id] using hmap, hrs⟩

/-- Service entries in a function text tell the content of each. -/
theorem ServiceEntry.listed_reveals : Reveals
    (fun es : List ServiceEntry => listed (es.map ServiceEntry.text)) (List.map content) :=
  text_reveals.listed fun a r s => ne_of_char_ne 0 (by unfold text; simp)

/-- Terms in a function text tell the terms. -/
theorem Term.listed_reveals :
    Reveals (fun ts : List Term => listed (ts.map Term.text)) (List.map id) := by
  refine text_reveals.listed fun a r s => ne_of_char_ne 0 ?_
  cases a with
  | condition memberType key operator value => rw [text_condition]; simp
  | conjunction operator => rw [text_conjunction]; simp

end FirewallOperator
