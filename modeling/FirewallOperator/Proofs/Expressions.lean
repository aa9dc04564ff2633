import FirewallOperator.Build
import Mathlib.Data.List.Basic

/-! # What group expressions mean

A group's expression is a flat row of conditions with conjunctions between them. `Member.meets`
says which members it stands for: a row is first taken apart at every `OR` and then at every `AND`,
so the latter binds tighter.

Expressions are built from criteria, each of them a few conditions on members of one type.
`Criterion.meets_anyOf` says that what is built of criteria means any of them, and
`Criterion.wellFormed_anyOf` that it is a proper row. -/

namespace FirewallOperator

/-- A workload as the backend knows it. -/
structure Member where
  type : String
  /-- The tags, each as its scope and its value with a bar between. -/
  tags : TextSet
  deriving DecidableEq

namespace Member

/-- Whether a member has a tag. -/
def hasTag (m : Member) (scope value : String) : Bool := m.tags.contains (scope ++ "|" ++ value)

/-- Whether a member meets a single condition. -/
def meetsOne (m : Member) : List Term → Bool
  | [.condition memberType _ _ value] => m.type == memberType && m.tags.contains value
  | _ => false

/-- Whether a member meets all conditions of a row without `OR`. -/
def meetsAll (m : Member) (block : List Term) : Bool := (block.splitOn .and).all m.meetsOne

/-- Whether a member meets an expression. -/
def meets (m : Member) (e : List Term) : Bool := (e.splitOn .or).any m.meetsAll

end Member

/-! ## Rows of conditions -/

namespace Term

/-- Whether a term is a condition. -/
def isCondition : Term → Bool
  | condition .. => true
  | conjunction _ => false

/-- The type of the members that a condition is about. -/
def memberType? : Term → Option String
  | condition memberType .. => some memberType
  | conjunction _ => none

end Term

/-- Conditions with a conjunction between each two of them. -/
inductive Alternates : List Term → Prop
  | single {t : Term} (ht : t.isCondition = true) : Alternates [t]
  | cons {t : Term} {operator : String} {rest : List Term} (ht : t.isCondition = true)
      (h : Alternates rest) : Alternates (t :: .conjunction operator :: rest)

namespace Alternates

variable {e f : List Term}

/-- Two rows with a conjunction between them are a row. -/
theorem append (he : Alternates e) (hf : Alternates f) (operator : String) :
    Alternates (e ++ .conjunction operator :: f) := by
  induction he with
  | single ht => exact .cons ht hf
  | cons ht _ ih => exact .cons ht ih

/-- An expression in which conditions and operators alternate has an odd number of terms. -/
theorem length_odd (he : Alternates e) : e.length % 2 = 1 := by
  induction he with
  | single => rfl
  | cons ht h ih =>
    rw [List.length_cons, List.length_cons]
    omega

/-- Conditions stand at the even places. -/
theorem isCondition_getElem (he : Alternates e) (i : Nat) (hi : i < e.length) :
    e[i].isCondition = (i % 2 == 0) := by
  induction he generalizing i with
  | single ht =>
    obtain rfl : i = 0 := by simpa using hi
    exact ht
  | cons ht h ih =>
    match i with
    | 0 => exact ht
    | 1 => rfl
    | i + 2 =>
      have hrest := ih i (by simpa using hi)
      rw [List.getElem_cons_succ, List.getElem_cons_succ, hrest, Nat.add_mod_right]

end Alternates

/-- A proper expression: conditions and conjunctions by turns, a condition at either end, and
between each two `OR`s conditions on members of one type. -/
structure WellFormed (e : List Term) : Prop where
  nonempty : e ≠ []
  odd : e.length % 2 = 1
  alternates : ∀ (i : Nat) (hi : i < e.length), e[i].isCondition = (i % 2 == 0)
  first : ∃ t, e.head? = some t ∧ t.isCondition = true
  last : ∃ t, e.getLast? = some t ∧ t.isCondition = true
  typed : ∀ block ∈ e.splitOn .or, ∃ memberType, ∀ t ∈ block, ∀ type ∈ t.memberType?,
    type = memberType

/-- Conditions and operators by turns are well formed if each block asks for one member type. -/
theorem Alternates.wellFormed {e : List Term} (he : Alternates e)
    (htyped : ∀ block ∈ e.splitOn .or, ∃ memberType, ∀ t ∈ block, ∀ type ∈ t.memberType?,
      type = memberType) : WellFormed e := by
  have hodd := he.length_odd
  have hpos : 0 < e.length := by omega
  have hlast := he.isCondition_getElem (e.length - 1) (by omega)
  refine ⟨List.ne_nil_of_length_pos hpos, hodd, he.isCondition_getElem, ?_, ?_, htyped⟩
  · exact ⟨e[0], List.head?_eq_getElem? ▸ List.getElem?_eq_getElem hpos,
      he.isCondition_getElem 0 hpos⟩
  · refine ⟨e[e.length - 1], ?_, ?_⟩
    · rw [List.getLast?_eq_getElem?]
      exact List.getElem?_eq_getElem _
    · rw [hlast, beq_iff_eq]
      omega

/-! ## Parts between separators -/

/-- What stands between members is one of them or a separator. -/
theorem mem_intersperse {α : Type} {separator x : α} {xs : List α}
    (hx : x ∈ xs.intersperse separator) : x ∈ xs ∨ x = separator := by
  induction xs with
  | nil => exact .inl hx
  | cons y rest ih =>
    cases rest with
    | nil => exact .inl hx
    | cons z zs =>
      rw [List.intersperse_cons_cons, List.mem_cons, List.mem_cons] at hx
      rcases hx with rfl | rfl | hx
      · exact .inl List.mem_cons_self
      · exact .inr rfl
      · exact (ih hx).imp (List.mem_cons_of_mem _) id

/-- Members with a separator between them are parts of one member each. -/
theorem intercalate_map_singleton {α : Type} (separator : α) (xs : List α) :
    [separator].intercalate (xs.map ([·])) = xs.intersperse separator := by
  induction xs with
  | nil => rfl
  | cons x rest ih =>
    cases rest with
    | nil => rfl
    | cons y ys =>
      rw [List.map_cons] at ih
      rw [List.map_cons, List.map_cons, List.intercalate_cons_cons, ih,
        List.intersperse_cons_cons]
      rfl

/-! ## Criteria -/

/-- Tags that members of one type have to have, at least one. -/
structure Criterion where
  memberType : String
  values : List String
  nonempty : values ≠ []

namespace Criterion

/-- The conditions of a criterion. -/
def conditions (c : Criterion) : List Term :=
  c.values.map (.condition c.memberType "Tag" "EQUALS")

/-- A criterion as it stands in an expression. -/
def terms (c : Criterion) : List Term := allOf c.conditions

/-- A member is of the type and has all tags. -/
def Admits (c : Criterion) (m : Member) : Prop :=
  m.type = c.memberType ∧ ∀ value ∈ c.values, m.tags.contains value = true

variable {c : Criterion} {cs : List Criterion} {m : Member}

/-- A criterion has at least one condition. -/
theorem conditions_ne_nil (c : Criterion) : c.conditions ≠ [] := by
  simpa [conditions] using c.nonempty

/-- In a criterion, conditions and operators alternate. -/
theorem alternates_terms (c : Criterion) : Alternates c.terms := by
  have hall : ∀ conditions : List Term, conditions ≠ [] →
      (∀ t ∈ conditions, t.isCondition = true) → Alternates (allOf conditions) := by
    intro conditions hne h
    induction conditions with
    | nil => exact absurd rfl hne
    | cons t rest ih =>
      have ht := h t List.mem_cons_self
      cases rest with
      | nil => exact .single ht
      | cons u us =>
        have hrest := ih (List.cons_ne_nil _ _) fun v hv => h v (List.mem_cons_of_mem _ hv)
        exact .cons ht hrest
  refine hall _ c.conditions_ne_nil fun t ht => ?_
  obtain ⟨value, -, rfl⟩ := List.mem_map.1 ht
  rfl

/-- A term of a criterion is a condition on its type of members, or an `AND`. -/
theorem mem_terms {t : Term} (ht : t ∈ c.terms) :
    (∃ value, t = .condition c.memberType "Tag" "EQUALS" value) ∨ t = .and := by
  refine (mem_intersperse ht).imp (fun hmem => ?_) id
  obtain ⟨value, -, rfl⟩ := List.mem_map.1 hmem
  exact ⟨value, rfl⟩

/-- Between the `AND`s of a criterion stand its conditions. -/
theorem splitOn_terms (c : Criterion) : c.terms.splitOn .and = c.conditions.map ([·]) := by
  rw [terms, allOf, ← intercalate_map_singleton, List.splitOn_intercalate]
  · intro part hpart hand
    obtain ⟨t, ht, rfl⟩ := List.mem_map.1 hpart
    obtain ⟨value, -, rfl⟩ := List.mem_map.1 ht
    cases List.mem_singleton.1 hand
  · simpa using c.conditions_ne_nil

/-- A member meets all terms of a criterion exactly if the criterion admits it. -/
theorem meetsAll_terms : m.meetsAll c.terms = true ↔ c.Admits m := by
  -- every condition asks for the type, and there is at least one condition
  obtain ⟨v, hv⟩ := List.exists_mem_of_ne_nil _ c.nonempty
  have hmeets : m.meetsAll c.terms = true ↔
      ∀ value ∈ c.values, m.type = c.memberType ∧ m.tags.contains value = true := by
    simp [Member.meetsAll, splitOn_terms, conditions, Member.meetsOne]
  rw [hmeets]
  constructor
  · intro h
    exact ⟨(h v hv).1, fun value hvalue => (h value hvalue).2⟩
  · intro h value hvalue
    exact ⟨h.1, h.2 value hvalue⟩

/-- Criteria that are not empty are all kept. -/
theorem anyOf_terms (cs : List Criterion) :
    anyOf (cs.map terms) = [Term.or].intercalate (cs.map terms) := by
  have hkept : (cs.map terms).filter (fun c => !c.isEmpty) = cs.map terms := by
    refine List.filter_eq_self.2 fun e he => ?_
    obtain ⟨c, -, rfl⟩ := List.mem_map.1 he
    have hodd := c.alternates_terms.length_odd
    cases hterms : c.terms with
    | nil => rw [hterms] at hodd; cases hodd
    | cons t rest => rfl
  rw [anyOf, hkept, List.intercalate]

/-- Between the `OR`s of what is built of criteria stand the criteria. -/
theorem splitOn_anyOf (hne : cs ≠ []) : (anyOf (cs.map terms)).splitOn .or = cs.map terms := by
  rw [anyOf_terms, List.splitOn_intercalate]
  · intro e he hor
    obtain ⟨c, -, rfl⟩ := List.mem_map.1 he
    rcases mem_terms hor with ⟨value, h⟩ | h
    · cases h
    · exact absurd h (by decide)
  · simpa using hne

/-- What is built of criteria means any of them. -/
theorem meets_anyOf (hne : cs ≠ []) :
    m.meets (anyOf (cs.map terms)) = true ↔ ∃ c ∈ cs, c.Admits m := by
  simp only [Member.meets, splitOn_anyOf hne, List.any_map, List.any_eq_true, Function.comp_apply,
    meetsAll_terms]

/-- `AND` binds tighter, so the second tag alone is not enough. -/
example :
    let row := anyOf [terms ⟨"VirtualMachine", ["os|a"], by decide⟩,
      terms ⟨"VirtualMachine", ["os|b", "zone|c"], by decide⟩]
    Member.meets ⟨"VirtualMachine", .ofList ["os|a"]⟩ row = true ∧
      Member.meets ⟨"VirtualMachine", .ofList ["os|b"]⟩ row = false := by decide

/-- What is built of criteria is a proper expression. -/
theorem wellFormed_anyOf (hne : cs ≠ []) : WellFormed (anyOf (cs.map terms)) := by
  -- by induction on the criteria: an `OR` stands between the row of the first and that of the rest
  have halternates : Alternates (anyOf (cs.map terms)) := by
    rw [anyOf_terms]
    induction cs with
    | nil => exact absurd rfl hne
    | cons c rest ih =>
      cases rest with
      | nil =>
        rw [List.map_cons, List.map_nil, List.intercalate_singleton]
        exact c.alternates_terms
      | cons d ds =>
        rw [List.map_cons, List.map_cons, List.intercalate_cons_cons, List.append_assoc]
        exact c.alternates_terms.append (ih (List.cons_ne_nil _ _)) _
  -- what is left between the `OR`s is the criteria, and a criterion has one type
  refine halternates.wellFormed fun block hblock => ?_
  rw [splitOn_anyOf hne] at hblock
  obtain ⟨c, -, rfl⟩ := List.mem_map.1 hblock
  refine ⟨c.memberType, fun t ht type htype => ?_⟩
  rcases mem_terms ht with ⟨value, rfl⟩ | rfl
  · cases htype
    rfl
  · cases htype

end Criterion

end FirewallOperator
