import FirewallOperator.Object.Managed
import FirewallOperator.Proofs.Delimiting
import Mathlib.Data.List.Basic
import Std.Data.String.ToInt

/-! # Which objects say the same

Objects are compared by digests of their function texts. `functionTexts_identify` says what such a
text identifies: of two objects with one identity, the texts are equal exactly when the objects
agree on what they do and have the same tags, in whatever order.

Display names stand in a text as they are, and may hold anything, even what looks like the rest of a
text. They can still be told from what follows (`displayName_eq_of_append_eq`): a `Reader` counts
the semicolons outside quotes, and what follows a display name has a fixed number of them. -/

namespace FirewallOperator

/-! ## Semicolons outside quotes -/

/-- What a reader of a text knows at a place. -/
structure Reader where
  /-- Whether a quote is open. -/
  quoting : Bool
  /-- Whether the last character was a backslash that escapes the next one. -/
  escaping : Bool
  /-- The number of semicolons outside quotes so far. -/
  semicolons : Nat

namespace Reader

/-- A reader outside quotes that has seen some semicolons. -/
def outside (n : Nat) : Reader := ⟨false, false, n⟩

/-- Reads a character. -/
def read (s : Reader) (c : Char) : Reader where
  quoting := s.quoting != (c == '"' && !s.escaping)
  escaping := c == '\\' && !s.escaping
  semicolons := if c == ';' && !s.quoting then s.semicolons + 1 else s.semicolons

/-- Reads characters one after the other. -/
def readAll (s : Reader) (cs : List Char) : Reader := cs.foldl read s

/-- Reading nothing leaves a reader as it is. -/
@[simp] theorem readAll_nil (s : Reader) : s.readAll [] = s := rfl

/-- Characters are read from the left. -/
@[simp] theorem readAll_cons (s : Reader) (c : Char) (cs : List Char) :
    s.readAll (c :: cs) = (s.read c).readAll cs := rfl

/-- Two pieces are read one after the other. -/
theorem readAll_append (s : Reader) (cs ds : List Char) :
    s.readAll (cs ++ ds) = (s.readAll cs).readAll ds := List.foldl_append

/-- A semicolon counts outside quotes, and ends an escape. -/
theorem read_semicolon (s : Reader) :
    s.read ';' = ⟨s.quoting, false, if s.quoting then s.semicolons else s.semicolons + 1⟩ := by
  cases hq : s.quoting <;> simp [read, hq]

/-- Whether a quote is open at the end is the other way round for a reader that starts the other way
round. -/
theorem quoting_readAll_ne {s t : Reader} (hquoting : s.quoting ≠ t.quoting)
    (hescaping : s.escaping = t.escaping) (cs : List Char) :
    (s.readAll cs).quoting ≠ (t.readAll cs).quoting := by
  induction cs generalizing s t with
  | nil => exact hquoting
  | cons c cs ih =>
    refine ih ?_ (by simp [read, hescaping])
    simpa [read, hescaping] using hquoting

/-- Semicolons are not forgotten. -/
theorem semicolons_le_readAll (s : Reader) (cs : List Char) :
    s.semicolons ≤ (s.readAll cs).semicolons := by
  induction cs generalizing s with
  | nil => exact Nat.le_refl _
  | cons c cs ih =>
    have hread : s.semicolons ≤ (s.read c).semicolons := by
      simp only [read]
      split <;> omega
    exact Nat.le_trans hread (ih _)

end Reader

/-- Read from outside quotes, a text ends outside quotes and has a number of semicolons there. -/
def Spans (n : Nat) (t : String) : Prop :=
  ∀ k, (Reader.outside k).readAll t.toList = Reader.outside (k + n)

/-- The semicolons of two pieces add up. -/
theorem Spans.append {m n : Nat} {s t : String} (hs : Spans m s) (ht : Spans n t) :
    Spans (m + n) (s ++ t) := by
  intro k
  rw [String.toList_append, Reader.readAll_append, hs k, ht, Nat.add_assoc]

/-- Characters that mean nothing to a reader. -/
def isInert (c : Char) : Bool := c != '"' && c != '\\' && c != ';'

/-- A reader outside quotes takes no notice of a character that means nothing to it. -/
theorem Reader.read_of_isInert {c : Char} (h : isInert c) (k : Nat) :
    (Reader.outside k).read c = Reader.outside k := by
  simp only [isInert, Bool.and_eq_true, bne_iff_ne] at h
  simp [Reader.read, Reader.outside, h]

/-- Characters that mean nothing to a reader have no semicolon among them. -/
theorem spans_of_isInert {t : String} (h : t.toList.all isInert) : Spans 0 t := by
  intro k
  generalize t.toList = cs at h
  induction cs with
  | nil => rfl
  | cons c cs ih =>
    obtain ⟨hc, hcs⟩ := Bool.and_eq_true_iff.1 (List.all_cons ▸ h)
    rw [Reader.readAll_cons, Reader.read_of_isInert hc, ih hcs]

/-- What is written out between fields means nothing to a reader. -/
theorem spans_inert (t : String) (h : t.toList.all isInert := by simp [isInert]) : Spans 0 t :=
  spans_of_isInert h

/-- Nor does a label, but for the semicolon that it starts with. -/
theorem spans_label (t : String) (hhead : t.toList.head? = some ';' := by simp)
    (htail : t.toList.tail.all isInert := by simp [isInert]) : Spans 1 t := by
  intro k
  obtain ⟨cs, hcs⟩ := List.head?_eq_some_iff.1 hhead
  have hinert : Spans 0 (String.ofList cs) := by
    refine spans_of_isInert ?_
    rwa [hcs, List.tail_cons, ← String.toList_ofList (l := cs)] at htail
  have hread : (Reader.outside k).read ';' = Reader.outside (k + 1) := by
    simp [Reader.read_semicolon, Reader.outside]
  rw [hcs, Reader.readAll_cons, hread]
  simpa using hinert (k + 1)

/-- One more field, with its label, adds one semicolon. -/
theorem Spans.field {n : Nat} {t label value : String} (ht : Spans n t) (hlabel : Spans 1 label)
    (hvalue : Spans 0 value) : Spans (n + 1) (t ++ label ++ value) :=
  (ht.append hlabel).append hvalue

/-- Within quotes, a quoted character leaves a reader as it was. -/
theorem Reader.readAll_quotedChar (c : Char) (k : Nat) :
    (Reader.mk true false k).readAll (quotedChar c) = ⟨true, false, k⟩ := by
  have hplain : ∀ digits : List Char, (∀ d ∈ digits, d ≠ '"' ∧ d ≠ '\\') →
      (Reader.mk true false k).readAll digits = ⟨true, false, k⟩ := by
    intro digits h
    induction digits with
    | nil => rfl
    | cons d ds ih =>
      obtain ⟨hquote, hbackslash⟩ := h d List.mem_cons_self
      have hread : (Reader.mk true false k).read d = ⟨true, false, k⟩ := by
        simp [Reader.read, hquote, hbackslash]
      rw [Reader.readAll_cons, hread, ih fun d hd => h d (List.mem_cons_of_mem _ hd)]
  rcases quotedChar_cases c with ⟨h, hquote, hbackslash⟩ | ⟨e, digits, h, hdigits, -⟩
  · rw [h]
    exact hplain [c] (by simp [hquote, hbackslash])
  -- the backslash keeps what comes next, even a quote, from meaning anything
  · have hescape : ((Reader.mk true false k).read '\\').read e = ⟨true, false, k⟩ := by
      simp [Reader.read]
    rw [h, Reader.readAll_cons, Reader.readAll_cons, hescape, hplain digits hdigits]

/-- What is in quotes has no semicolon that counts. -/
theorem spans_quoted (s : String) : Spans 0 (quoted s) := by
  intro k
  have hinside : ∀ cs : List Char,
      (Reader.mk true false k).readAll (cs.flatMap quotedChar) = ⟨true, false, k⟩ := by
    intro cs
    induction cs with
    | nil => rfl
    | cons c cs ih => rw [List.flatMap_cons, Reader.readAll_append, Reader.readAll_quotedChar, ih]
  have hopen : (Reader.outside k).read '"' = ⟨true, false, k⟩ := rfl
  rw [toList_quoted, List.cons_append, Reader.readAll_cons, hopen, Reader.readAll_append, hinside]
  rfl

/-- Commas between items add no semicolon. -/
theorem spans_commaSeparated {items : List String} (h : ∀ x ∈ items, Spans 0 x) :
    Spans 0 (commaSeparated items) := by
  induction items with
  | nil => exact spans_inert ""
  | cons x rest ih =>
    have hrest := ih fun y hy => h y (List.mem_cons_of_mem _ hy)
    cases rest with
    | nil => exact h x List.mem_cons_self
    | cons y ys =>
      exact ((h x List.mem_cons_self).append (spans_inert ", ")).append hrest

/-- Nor do the brackets of a list. -/
theorem spans_listed {items : List String} (h : ∀ x ∈ items, Spans 0 x) :
    Spans 0 (listed items) :=
  ((spans_inert "[").append (spans_commaSeparated h)).append (spans_inert "]")

/-- A list of quoted texts has no semicolon that counts. -/
theorem spans_quotedList (texts : List String) : Spans 0 (quotedList texts) := by
  refine spans_listed fun x hx => ?_
  obtain ⟨t, -, rfl⟩ := List.mem_map.1 hx
  exact spans_quoted t

/-! ## Display names -/

/-- A text that starts with a semicolon, and has the same number of semicolons outside quotes as an
end of it that starts with one, is all of that end. -/
theorem eq_nil_of_spans_append {n : Nat} {x t : List Char}
    (hall : Spans n (String.ofList (x ++ ';' :: t))) (hend : Spans n (String.ofList (';' :: t)))
    (hstart : ∀ c ∈ x.head?, c = ';') : x = [] := by
  cases x with
  | nil => rfl
  | cons c x =>
    obtain rfl : c = ';' := hstart c rfl
    let s := (Reader.outside 0).readAll (';' :: x)
    have hall : s.readAll (';' :: t) = Reader.outside (0 + n) := by
      rw [← hall 0, String.toList_ofList, Reader.readAll_append]
    have hsome : 1 ≤ s.semicolons :=
      Reader.semicolons_le_readAll ((Reader.outside 0).read ';') x
    cases hquoting : s.quoting with
    | false =>
      -- outside quotes the end is read as it is on its own, so it has fewer semicolons
      have hsame : s.read ';' = (Reader.outside s.semicolons).read ';' := by
        simp [Reader.read_semicolon, Reader.outside, hquoting]
      have hend := hend s.semicolons
      rw [String.toList_ofList, Reader.readAll_cons, ← hsame, ← Reader.readAll_cons, hall] at hend
      have hcount := congrArg Reader.semicolons hend
      simp only [Reader.outside] at hcount
      omega
    | true =>
      -- within quotes every quote of the end is taken the other way round
      have hend := hend 0
      rw [String.toList_ofList] at hend
      have hflip := Reader.quoting_readAll_ne (s := s.read ';') (t := (Reader.outside 0).read ';')
        (by simp [Reader.read_semicolon, Reader.outside, hquoting])
        (by simp [Reader.read_semicolon]) t
      rw [← Reader.readAll_cons, ← Reader.readAll_cons, hall, hend] at hflip
      exact absurd rfl hflip

/-- A display name can be told from what follows it, whatever it holds. -/
theorem displayName_eq_of_append_eq {n : Nat} {a b s t : String} (hs : Spans n s) (ht : Spans n t)
    (hs₀ : s.toList.head? = some ';') (ht₀ : t.toList.head? = some ';') (h : a ++ s = b ++ t) :
    a = b ∧ s = t := by
  obtain ⟨s', hs'⟩ := List.head?_eq_some_iff.1 hs₀
  obtain ⟨t', ht'⟩ := List.head?_eq_some_iff.1 ht₀
  have hs : Spans n (String.ofList (';' :: s')) := by rwa [← hs', String.ofList_toList]
  have ht : Spans n (String.ofList (';' :: t')) := by rwa [← ht', String.ofList_toList]
  have hlists := congrArg String.toList h
  rw [String.toList_append, String.toList_append, hs', ht', List.append_eq_append_iff] at hlists
  have hnil : ∀ x : List Char, ∀ u v : List Char, ';' :: u = x ++ ';' :: v →
      Spans n (String.ofList (';' :: u)) → Spans n (String.ofList (';' :: v)) → x = [] := by
    intro x u v huv hu hv
    rw [huv] at hu
    refine eq_nil_of_spans_append hu hv fun c hc => ?_
    cases x with
    | nil => cases hc
    | cons d x =>
      cases hc
      exact (List.cons.inj huv).1.symm
  -- the longer display name goes on by a text that has to be empty
  rcases hlists with ⟨x, hb, hx⟩ | ⟨x, ha, hx⟩
  · obtain rfl := hnil x _ _ hx hs ht
    rw [List.append_nil] at hb
    exact ⟨String.toList_inj.1 hb.symm, String.toList_inj.1 (by rw [hs', ht', hx, List.nil_append])⟩
  · obtain rfl := hnil x _ _ hx ht hs
    rw [List.append_nil] at ha
    exact ⟨String.toList_inj.1 ha, String.toList_inj.1 (by rw [hs', ht', hx, List.nil_append])⟩

/-! ## Tags in order -/

namespace Tag

/-- Tags are ordered by their scopes, and by their values if these are equal. -/
theorem atMost_iff {a b : Tag} :
    a.atMost b ↔ a.scope < b.scope ∨ a.scope = b.scope ∧ a.value ≤ b.value := by
  simp [atMost]

/-- Of two tags, one is at most the other. -/
theorem atMost_total (a b : Tag) : a.atMost b ∨ b.atMost a := by
  rw [atMost_iff, atMost_iff]
  rcases Std.lt_trichotomy a.scope b.scope with h | h | h
  · exact .inl (.inl h)
  · exact (String.le_total a.value b.value).imp (fun hv => .inr ⟨h, hv⟩) fun hv => .inr ⟨h.symm, hv⟩
  · exact .inr (.inl h)

/-- The order of tags is transitive. -/
theorem atMost_trans {a b c : Tag} (hab : a.atMost b) (hbc : b.atMost c) : a.atMost c := by
  rw [atMost_iff] at hab hbc ⊢
  rcases hab with hab | ⟨hab, hv⟩
  · rcases hbc with hbc | ⟨hbc, -⟩
    · exact .inl (String.lt_trans hab hbc)
    · exact .inl (hbc ▸ hab)
  · rcases hbc with hbc | ⟨hbc, hv'⟩
    · exact .inl (hab ▸ hbc)
    · exact .inr ⟨hab.trans hbc, String.le_trans hv hv'⟩

/-- Two tags that are at most each other are the same. -/
theorem atMost_antisymm {a b : Tag} (hab : a.atMost b) (hba : b.atMost a) : a = b := by
  rw [atMost_iff] at hab hba
  rcases hab with hab | ⟨hscope, hv⟩
  · rcases hba with hba | ⟨hba, -⟩
    · exact absurd hba (String.lt_asymm hab)
    · exact absurd hba.symm (String.ne_of_lt hab)
  · rcases hba with hba | ⟨-, hv'⟩
    · exact absurd hscope.symm (String.ne_of_lt hba)
    · cases a
      cases b
      simp only at hscope hv hv'
      rw [hscope, String.le_antisymm hv hv']

/-- A tag that is inserted in its place leaves tags in order. -/
theorem pairwise_insertOrdered (t : Tag) {ts : List Tag} (h : ts.Pairwise fun a b => a.atMost b) :
    (insertOrdered t ts).Pairwise fun a b => a.atMost b := by
  induction ts with
  | nil => exact List.pairwise_singleton _ _
  | cons u rest ih =>
    obtain ⟨hu, hrest⟩ := List.pairwise_cons.1 h
    rw [insertOrdered]
    split
    case isTrue htu =>
      refine List.pairwise_cons.2 ⟨fun v hv => ?_, h⟩
      rcases List.mem_cons.1 hv with rfl | hv
      · exact htu
      · exact atMost_trans htu (hu v hv)
    case isFalse htu =>
      have hut : u.atMost t := (atMost_total t u).resolve_left htu
      refine List.pairwise_cons.2 ⟨fun v hv => ?_, ih hrest⟩
      rcases List.mem_cons.1 ((insertOrdered_perm t rest).mem_iff.1 hv) with rfl | hv
      · exact hut
      · exact hu v hv

/-- Sorted tags are in order. -/
theorem pairwise_sorted (ts : List Tag) : (sorted ts).Pairwise fun a b => a.atMost b := by
  induction ts with
  | nil => exact .nil
  | cons t rest ih => exact pairwise_insertOrdered t ih

/-- Tags are the same in order exactly when they are the same in some order. -/
theorem sorted_eq_iff_perm {ts us : List Tag} : sorted ts = sorted us ↔ ts.Perm us := by
  constructor
  · intro h
    exact (sorted_perm ts).symm.trans (h ▸ sorted_perm us)
  · intro h
    refine List.Perm.eq_of_pairwise (fun a b _ _ hab hba => atMost_antisymm hab hba)
      (pairwise_sorted ts) (pairwise_sorted us) ?_
    exact (sorted_perm ts).trans (h.trans (sorted_perm us).symm)

/-- Tags are written alike exactly if they are the same in another order. -/
theorem listText_eq_iff {ts us : List Tag} : listText ts = listText us ↔ ts.Perm us := by
  rw [← sorted_eq_iff_perm]
  constructor
  · intro h
    exact (listText_reveals (r := "") (s := "") (by rw [h])).1
  · intro h
    rw [listText, listText, h]

/-- Tags that are written have no semicolon that counts. -/
theorem spans_listText (ts : List Tag) : Spans 0 (listText ts) := by
  refine spans_listed fun x hx => ?_
  obtain ⟨t, -, rfl⟩ := List.mem_map.1 hx
  exact ((((spans_inert "Tag \x7b scope: ").append (spans_quoted _)).append
    (spans_inert ", tag: ")).append (spans_quoted _)).append (spans_inert " \x7d")

end Tag

/-! ## Numbers and names -/

/-- A numeral has digits and perhaps a sign, all of them inert. -/
theorem all_isInert_toString (i : Int) : (toString i).toList.all isInert := by
  have hdigits : ∀ n : Nat, n.repr.toList.all isInert := by
    intro n
    rw [Nat.repr_eq_ofList_toDigits, String.toList_ofList, List.all_eq_true]
    intro c hc
    have hdigit := Nat.isDigit_of_mem_toDigits (by decide) (by decide) hc
    simp only [isInert, Bool.and_eq_true, bne_iff_ne]
    exact ⟨⟨by rintro rfl; simp at hdigit, by rintro rfl; simp at hdigit⟩,
      by rintro rfl; simp at hdigit⟩
  rw [Int.toString_eq_repr, Int.repr_eq_if]
  split
  · exact hdigits _
  · rw [String.toList_append, List.all_append, hdigits]
    rfl

/-- Characters that mean nothing to a reader are no semicolons. -/
theorem semicolon_notMem_of_all_isInert {t : String} (h : t.toList.all isInert) :
    ';' ∉ t.toList := by
  intro hmem
  have hinert := List.all_eq_true.1 h _ hmem
  simp [isInert] at hinert

/-- A direction is known by its name. -/
theorem Direction.name_injective : Function.Injective Direction.name := by
  intro a b h
  cases a <;> cases b <;> first | rfl | exact absurd h (by decide)

/-- An action is known by its name. -/
theorem Action.name_injective : Function.Injective Action.name := by
  intro a b h
  cases a <;> cases b <;> first | rfl | exact absurd h (by decide)

/-- The name of a direction means nothing to a reader. -/
theorem all_isInert_name_direction (d : Direction) : d.name.toList.all isInert := by
  cases d <;> rfl

/-- The name of an action means nothing to a reader. -/
theorem all_isInert_name_action (a : Action) : a.name.toList.all isInert := by
  cases a <;> rfl

/-! ## Numbers at the end -/

/-- The last fields of policies and rules: their place, and their tags. -/
def lastFields (sequence : Int64) (tags : List Tag) : String :=
  ";seq=" ++ toString sequence.toInt ++ ";tags=" ++ Tag.listText tags

/-- The last two fields start with a semicolon each, and have no other that counts. -/
theorem spans_lastFields (sequence : Int64) (tags : List Tag) :
    Spans 2 (lastFields sequence tags) :=
  ((spans_label ";seq=").append (spans_of_isInert (all_isInert_toString _))).field
    (spans_label ";tags=") (Tag.spans_listText tags)

/-- The last two fields are written alike exactly if the sequence numbers are equal and the tags are
the same in another order. -/
theorem lastFields_eq_iff {m n : Int64} {ts us : List Tag} :
    lastFields m ts = lastFields n us ↔ m = n ∧ ts.Perm us := by
  constructor
  · intro h
    unfold lastFields at h
    simp only [String.append_assoc] at h
    have hfree := fun i => semicolon_notMem_of_all_isInert (all_isInert_toString i)
    obtain ⟨hsequence, h⟩ := eq_of_append_stop (hfree m.toInt) (hfree n.toInt) (by simp)
      (by simp) ((String.append_right_inj _).1 h)
    rw [Int.toString_eq_repr, Int.toString_eq_repr, Int.repr_inj, Int64.toInt_inj] at hsequence
    exact ⟨hsequence, Tag.listText_eq_iff.1 ((String.append_right_inj _).1 h)⟩
  · rintro ⟨rfl, htags⟩
    rw [lastFields, lastFields, Tag.listText_eq_iff.2 htags]

/-! ## Policies -/

namespace Policy

/-- Policies that do the same. -/
structure Agrees (p q : Policy) : Prop where
  displayName : p.displayName = q.displayName
  scope : p.scope = q.scope
  sequence : p.sequence = q.sequence
  tags : p.tags.Perm q.tags

/-- A policy's function text behind its display name. -/
def functionTail (p : Policy) : String :=
  ";scope=" ++ quotedList p.scope ++ lastFields p.sequence p.tags

/-- The text of a policy is its id, its display name, and a tail. -/
theorem functionText_eq (p : Policy) :
    p.functionText = "id=" ++ p.id ++ ";name=" ++ (p.displayName ++ p.functionTail) := by
  unfold functionText functionTail lastFields
  simp only [String.append_assoc]

/-- The tail of a policy has three semicolons that count. -/
theorem spans_functionTail (p : Policy) : Spans 3 p.functionTail :=
  ((spans_label ";scope=").append (spans_quotedList p.scope)).append
    (spans_lastFields p.sequence p.tags)

/-- The tail of a policy starts with one of them. -/
theorem head?_functionTail (p : Policy) : p.functionTail.toList.head? = some ';' := by
  unfold functionTail
  simp

/-- A policy's function text tells, with its identity known, all that the policy does. -/
theorem functionText_eq_iff {p q : Policy} (hid : p.id = q.id) :
    p.functionText = q.functionText ↔ p.Agrees q := by
  rw [functionText_eq, functionText_eq, hid, String.append_right_inj]
  constructor
  · intro h
    obtain ⟨hname, h⟩ := displayName_eq_of_append_eq p.spans_functionTail q.spans_functionTail
      p.head?_functionTail q.head?_functionTail h
    unfold functionTail at h
    simp only [String.append_assoc] at h
    obtain ⟨hscope, h⟩ := quotedList_reveals ((String.append_right_inj _).1 h)
    obtain ⟨hsequence, htags⟩ := lastFields_eq_iff.1 h
    exact ⟨hname, hscope, hsequence, htags⟩
  · intro h
    unfold functionTail
    rw [h.displayName, h.scope, lastFields_eq_iff.2 ⟨h.sequence, h.tags⟩]

end Policy

/-! ## Rules -/

/-- A service entry is written from its content alone. -/
theorem ServiceEntry.map_text_eq {es fs : List ServiceEntry} (h : es.map content = fs.map content) :
    es.map text = fs.map text := by
  have htext : text = (fun c : String × String × List String =>
      "(" ++ commaSeparated [quoted c.1, quoted c.2.1, quotedList c.2.2] ++ ")") ∘ content := rfl
  rw [htext, ← List.map_map, h, List.map_map]

/-- The ports of a rule have no semicolon that counts. -/
theorem ServiceEntry.spans_listed (es : List ServiceEntry) : Spans 0 (listed (es.map text)) := by
  refine FirewallOperator.spans_listed fun x hx => ?_
  obtain ⟨e, -, rfl⟩ := List.mem_map.1 hx
  refine ((spans_inert "(").append (spans_commaSeparated fun x hx => ?_)).append (spans_inert ")")
  simp only [List.mem_cons, List.not_mem_nil, or_false] at hx
  rcases hx with rfl | rfl | rfl
  · exact spans_quoted _
  · exact spans_quoted _
  · exact spans_quotedList _

namespace Rule

/-- Rules that do the same. -/
structure Agrees (p q : Rule) : Prop where
  displayName : p.displayName = q.displayName
  direction : p.direction = q.direction
  action : p.action = q.action
  sources : p.sources = q.sources
  destinations : p.destinations = q.destinations
  services : p.services.map ServiceEntry.content = q.services.map ServiceEntry.content
  scope : p.scope = q.scope
  sequence : p.sequence = q.sequence
  tags : p.tags.Perm q.tags

/-- A rule's function text behind its display name. -/
def functionTail (r : Rule) : String :=
  ";dir=" ++ r.direction.name ++ ";action=" ++ r.action.name ++ ";src=" ++ quotedList r.sources
    ++ ";dst=" ++ quotedList r.destinations ++ ";svc=" ++ listed (r.services.map ServiceEntry.text)
    ++ ";scope=" ++ quotedList r.scope ++ lastFields r.sequence r.tags

/-- The text of a rule is its id, its display name, and a tail. -/
theorem functionText_eq (r : Rule) :
    r.functionText = "id=" ++ r.id ++ ";name=" ++ (r.displayName ++ r.functionTail) := by
  unfold functionText functionTail lastFields
  simp only [String.append_assoc]

/-- The tail of a rule has eight semicolons that count. -/
theorem spans_functionTail (r : Rule) : Spans 8 r.functionTail := by
  have hdirection := (spans_label ";dir=").append
    (spans_of_isInert (all_isInert_name_direction r.direction))
  have haction := hdirection.field (spans_label ";action=")
    (spans_of_isInert (all_isInert_name_action r.action))
  have hsources := haction.field (spans_label ";src=") (spans_quotedList r.sources)
  have hdestinations := hsources.field (spans_label ";dst=") (spans_quotedList r.destinations)
  have hservices := hdestinations.field (spans_label ";svc=") (ServiceEntry.spans_listed r.services)
  have hscope := hservices.field (spans_label ";scope=") (spans_quotedList r.scope)
  exact hscope.append (spans_lastFields r.sequence r.tags)

/-- The tail of a rule starts with one of them. -/
theorem head?_functionTail (r : Rule) : r.functionTail.toList.head? = some ';' := by
  unfold functionTail
  simp

/-- A rule's function text tells, with its identity known, all that the rule does. -/
theorem functionText_eq_iff {p q : Rule} (hid : p.id = q.id) :
    p.functionText = q.functionText ↔ p.Agrees q := by
  rw [functionText_eq, functionText_eq, hid, String.append_right_inj]
  constructor
  · intro h
    obtain ⟨hname, h⟩ := displayName_eq_of_append_eq p.spans_functionTail q.spans_functionTail
      p.head?_functionTail q.head?_functionTail h
    unfold functionTail at h
    simp only [String.append_assoc] at h
    -- direction and action are not quoted, but no name of one has the semicolon that ends it
    have hdirections := fun d => semicolon_notMem_of_all_isInert (all_isInert_name_direction d)
    have hactions := fun a => semicolon_notMem_of_all_isInert (all_isInert_name_action a)
    obtain ⟨hdirection, h⟩ := eq_of_append_stop (hdirections p.direction)
      (hdirections q.direction) (by simp) (by simp) ((String.append_right_inj _).1 h)
    obtain ⟨haction, h⟩ := eq_of_append_stop (hactions p.action) (hactions q.action)
      (by simp) (by simp) ((String.append_right_inj _).1 h)
    obtain ⟨hsources, h⟩ := quotedList_reveals ((String.append_right_inj _).1 h)
    obtain ⟨hdestinations, h⟩ := quotedList_reveals ((String.append_right_inj _).1 h)
    obtain ⟨hservices, h⟩ := ServiceEntry.listed_reveals ((String.append_right_inj _).1 h)
    obtain ⟨hscope, h⟩ := quotedList_reveals ((String.append_right_inj _).1 h)
    obtain ⟨hsequence, htags⟩ := lastFields_eq_iff.1 h
    exact ⟨hname, Direction.name_injective hdirection, Action.name_injective haction, hsources,
      hdestinations, hservices, hscope, hsequence, htags⟩
  · intro h
    unfold functionTail
    rw [h.displayName, h.direction, h.action, h.sources, h.destinations,
      ServiceEntry.map_text_eq h.services, h.scope, lastFields_eq_iff.2 ⟨h.sequence, h.tags⟩]

end Rule

/-! ## Groups -/

/-- A term of an expression has no semicolon that counts. -/
theorem Term.spans_text (t : Term) : Spans 0 t.text := by
  cases t with
  | condition memberType key operator value =>
    rw [text_condition]
    have hmember := (spans_inert "Condition \x7b member_type: ").append (spans_quoted memberType)
    have hkey := (hmember.append (spans_inert ", key: ")).append (spans_quoted key)
    have hoperator := (hkey.append (spans_inert ", operator: ")).append (spans_quoted operator)
    have hvalue := (hoperator.append (spans_inert ", value: ")).append (spans_quoted value)
    exact hvalue.append (spans_inert " \x7d")
  | conjunction operator =>
    rw [text_conjunction]
    exact ((spans_inert "ConjunctionOperator \x7b conjunction_operator: ").append
      (spans_quoted operator)).append (spans_inert " \x7d")

namespace Group

/-- Groups that do the same. -/
structure Agrees (p q : Group) : Prop where
  displayName : p.displayName = q.displayName
  expression : p.expression = q.expression
  tags : p.tags.Perm q.tags

/-- A group's function text behind its display name. -/
def functionTail (g : Group) : String :=
  ";expr=" ++ listed (g.expression.map Term.text) ++ ";tags=" ++ Tag.listText g.tags

/-- The text of a group is its id, its display name, and a tail. -/
theorem functionText_eq (g : Group) :
    g.functionText = "id=" ++ g.id ++ ";name=" ++ (g.displayName ++ g.functionTail) := by
  unfold functionText functionTail
  simp only [String.append_assoc]

/-- The tail of a group has two semicolons that count. -/
theorem spans_functionTail (g : Group) : Spans 2 g.functionTail := by
  have hterms : Spans 0 (listed (g.expression.map Term.text)) := by
    refine spans_listed fun x hx => ?_
    obtain ⟨t, -, rfl⟩ := List.mem_map.1 hx
    exact t.spans_text
  exact ((spans_label ";expr=").append hterms).field (spans_label ";tags=")
    (Tag.spans_listText g.tags)

/-- The tail of a group starts with one of them. -/
theorem head?_functionTail (g : Group) : g.functionTail.toList.head? = some ';' := by
  unfold functionTail
  simp

/-- A group's function text tells, with its identity known, all that the group does. -/
theorem functionText_eq_iff {p q : Group} (hid : p.id = q.id) :
    p.functionText = q.functionText ↔ p.Agrees q := by
  rw [functionText_eq, functionText_eq, hid, String.append_right_inj]
  constructor
  · intro h
    obtain ⟨hname, h⟩ := displayName_eq_of_append_eq p.spans_functionTail q.spans_functionTail
      p.head?_functionTail q.head?_functionTail h
    unfold functionTail at h
    simp only [String.append_assoc] at h
    obtain ⟨hexpression, h⟩ := Term.listed_reveals ((String.append_right_inj _).1 h)
    exact ⟨hname, by simpa only [List.map_id] using hexpression,
      Tag.listText_eq_iff.1 ((String.append_right_inj _).1 h)⟩
  · intro h
    unfold functionTail
    rw [h.displayName, h.expression, Tag.listText_eq_iff.2 h.tags]

end Group

/-! ## Every kind -/

/-- **What function texts tell.** Objects with one identity have the same function text exactly when
they do the same and have the same tags in some order. So neither the order of tags nor the
backend's bookkeeping makes an object look changed, and nothing that a text field can hold makes a
changed object look the same. -/
theorem functionTexts_identify :
    (∀ p q : Policy, p.id = q.id → (p.functionText = q.functionText ↔ p.Agrees q)) ∧
      (∀ r s : Rule, r.id = s.id → (r.functionText = s.functionText ↔ r.Agrees s)) ∧
      ∀ g h : Group, g.id = h.id → (g.functionText = h.functionText ↔ g.Agrees h) :=
  ⟨fun _ _ => Policy.functionText_eq_iff, fun _ _ => Rule.functionText_eq_iff,
    fun _ _ => Group.functionText_eq_iff⟩

/-- A display name that looks like fields does not pass for them, nor does a tag that looks like two
of them. A rule that the backend gives back with its tags in another order says the same. -/
theorem functionTexts_identify_lookalikes :
    let p : Policy := { id := "sp_u", displayName := "web", scope := ["a"] }
    let q : Policy := { id := "sp_u", displayName := "web;scope=[\"a\"];seq=0;tags=[]" }
    let r : Rule := { id := "sp_u_0", tags := [⟨"a", "1"⟩, ⟨"b", "2"⟩] }
    let s : Rule := {
      id := "sp_u_0", tags := [⟨"b", "2"⟩, ⟨"a", "1"⟩], marked := true, revision := some 7 }
    let g : Group := { id := "sp_u_scope", tags := [⟨"a", "1\", tag: \"2"⟩] }
    let h : Group := { id := "sp_u_scope", tags := [⟨"a", "1"⟩, ⟨"a", "2"⟩] }
    p.id = q.id ∧ p.functionText ≠ q.functionText ∧ r.id = s.id ∧
      r.functionText = s.functionText ∧ g.id = h.id ∧ g.functionText ≠ h.functionText := by
  intro p q r s g h
  obtain ⟨hpolicies, hrules, hgroups⟩ := functionTexts_identify
  have hname : p.displayName ≠ q.displayName := by decide
  have htags : r.tags.Perm s.tags := .swap _ _ _
  have hcount : g.tags.length ≠ h.tags.length := by decide
  refine ⟨rfl, ?_, rfl, ?_, rfl, ?_⟩
  · exact fun heq => hname ((hpolicies p q rfl).1 heq).displayName
  · exact (hrules r s rfl).2 ⟨rfl, rfl, rfl, rfl, rfl, rfl, rfl, rfl, htags⟩
  · exact fun heq => hcount ((hgroups g h rfl).1 heq).tags.length_eq

end FirewallOperator
