import FirewallOperator.Proofs.MergePatch
import FirewallOperator.Resource.Definition
import Mathlib.Data.Nat.Cast.Field
import Mathlib.Data.Int.CharZero
import Mathlib.Algebra.Order.Field.Rat
import Mathlib.Algebra.Field.Rat

/-! # Schemas as documents

The definition of resources that is printed holds schemas as JSON, and whoever reads it takes them
for what JSON Schema says of their keywords: `Json.validates`. `Schema.validates_toJson` is that
a schema, once written, means what it meant: the document validates what `Schema.admits`. -/

namespace FirewallOperator

/-! ## Maps of lists -/

namespace SortedMap

variable {α : Type} {k : String} {v : α} {es : List (String × α)}

/-- Where no key occurs twice, look-up finds what is there. -/
theorem lookup_eq_some_iff_mem (h : (es.map Prod.fst).Nodup) :
    es.lookup k = some v ↔ (k, v) ∈ es := by
  induction es with
  | nil => simp
  | cons e rest ih =>
    obtain ⟨hkey, hrest⟩ := List.nodup_cons.1 h
    rw [lookup_cons_eq, List.mem_cons, Prod.eq_iff_fst_eq_snd_eq]
    by_cases hk : k = e.1
    · have hnot : (k, v) ∉ rest := fun hm => hkey (List.mem_map.2 ⟨_, hm, hk⟩)
      simp [hk, hk ▸ hnot, eq_comm]
    · simp [hk, ih hrest]

/-- Of several entries with one key the last counts. -/
theorem get?_ofList (es : List (String × α)) (k : String) :
    (ofList es).get? k = es.reverse.lookup k := by
  have hfold (m : SortedMap α) : (es.foldl (fun m e => m.insert e.1 e.2) m).get? k =
      (es.reverse.lookup k).or (m.get? k) := by
    induction es generalizing m with
    | nil => simp
    | cons e rest ih =>
      rw [List.foldl_cons, ih, get?_insert, List.reverse_cons, List.lookup_append, lookup_cons_eq,
        List.lookup_nil]
      cases rest.reverse.lookup k <;> by_cases hk : k = e.1 <;> simp [hk]
  rw [ofList, hfold, get?_empty, Option.or_none]

/-- Where no key occurs twice, the entries are those of the list. -/
theorem mem_entries_ofList (h : (es.map Prod.fst).Nodup) {e : String × α} :
    e ∈ (ofList es).entries ↔ e ∈ es := by
  have hrev : (es.reverse.map Prod.fst).Nodup := by rwa [List.map_reverse, List.nodup_reverse]
  obtain ⟨k, v⟩ := e
  rw [mem_entries_iff, get?_ofList, lookup_eq_some_iff_mem hrev, List.mem_reverse]

/-- All entries of a map that was made of entries with different keys are all of these. -/
theorem all_entries_ofList (h : (es.map Prod.fst).Nodup) (p : String × α → Bool) :
    (ofList es).entries.all p = es.all p := by
  rw [Bool.eq_iff_iff, List.all_eq_true, List.all_eq_true]
  exact forall_congr' fun e => by rw [mem_entries_ofList h]

/-- Where no key occurs twice, the first entry with a key is the last one. -/
theorem lookup_entries_ofList (h : (es.map Prod.fst).Nodup) :
    (ofList es).entries.lookup k = es.lookup k := by
  refine Option.ext fun v => ?_
  rw [← mem_iff_lookup (ofList es).ordered, mem_entries_ofList h, ← lookup_eq_some_iff_mem h]

end SortedMap

namespace Json

/-- A member that is found is one of the object. -/
theorem mem_of_member? {name : String} {v : Json} {ms : List (String × Json)}
    (h : (Json.obj ms).member? name = some v) : (name, v) ∈ ms := by
  have h : ms.reverse.lookup name = some v := h
  obtain ⟨before, after, hms, -⟩ := List.lookup_eq_some_iff.1 h
  rw [← List.mem_reverse, hms]
  simp

/-! ## Numbers -/

/-- The number that a value is. -/
def number? : Json → Option ℚ
  | .int n => some n
  | .decimal negative digits exponent =>
    some (if negative then -(digits * 10 ^ exponent) else digits * 10 ^ exponent)
  | _ => none

/-- Signs do not matter to whether a number is whole. -/
theorem signed_eq_iff {negative : Bool} {m : ℕ} {q : ℚ} (hq : q = m) {n : Int} :
    (if negative then -(m : Int) else m) = n ↔ (if negative then -q else q) = n := by
  subst hq
  rw [← Int.cast_inj (α := ℚ)]
  cases negative <;> simp

/-- Whole numbers are the numbers that are integers. -/
theorem whole?_eq_some_iff {j : Json} {n : Int} : j.whole? = some n ↔ j.number? = some (n : ℚ) := by
  cases j with
  | int m => simp [whole?, number?]
  | decimal negative digits exponent =>
    set scale : ℕ := Nat.pow 10 exponent.natAbs with hscale
    have hne : (scale : ℚ) ≠ 0 := by exact_mod_cast (Nat.pow_pos (by decide)).ne'
    by_cases he : 0 ≤ exponent
    · have hpow : (10 : ℚ) ^ exponent = scale := by
        obtain ⟨e, rfl⟩ := Int.eq_ofNat_of_zero_le he
        simp [scale]
      have hq : (digits * 10 ^ exponent : ℚ) = (digits * scale : ℕ) := by rw [hpow, Nat.cast_mul]
      simp only [whole?, number?, he, if_true, Option.some.injEq]
      exact signed_eq_iff hq
    · have hpow : (10 : ℚ) ^ exponent = (scale : ℚ)⁻¹ := by
        obtain ⟨e, rfl⟩ : ∃ e : ℕ, exponent = -e := ⟨exponent.natAbs, by omega⟩
        simp [scale]
      by_cases hd : digits % scale = 0
      · have hq : (digits * 10 ^ exponent : ℚ) = (digits / scale : ℕ) := by
          rw [hpow, Nat.cast_div (Nat.dvd_of_mod_eq_zero hd) hne, div_eq_mul_inv]
        simp only [whole?, number?, he, if_false, ← hscale, hd, if_true, Option.some.injEq]
        exact signed_eq_iff hq
      · simp only [whole?, number?, he, if_false, ← hscale, hd, Option.some.injEq, reduceCtorEq,
          false_iff]
        -- an integer would make the digits a multiple of the scale
        intro hn
        have hdigits : (digits : ℚ) = (if negative then -n else n : Int) * scale := by
          cases negative <;> simp [← hn, hpow, hne]
        have hdvd : (scale : Int) ∣ digits := ⟨if negative then -n else n, by
          rw [mul_comm]; exact_mod_cast hdigits⟩
        exact hd (Nat.mod_eq_zero_of_dvd (Int.natCast_dvd_natCast.1 hdvd))
  | _ => simp [whole?, number?]

/-- A bound, as it is written, is the number that it was. -/
theorem number?_bound (l : Int) : (decimal (l < 0) l.natAbs 0).number? = some (l : ℚ) := by
  rw [← whole?_eq_some_iff]
  show some (if decide (l < 0) then -((l.natAbs * 1 : ℕ) : Int) else (l.natAbs * 1 : ℕ)) = some l
  rw [Nat.mul_one, Option.some.injEq]
  by_cases hl : l < 0
  · rw [if_pos (decide_eq_true hl), Int.ofNat_natAbs_of_nonpos hl.le, neg_neg]
  · rw [if_neg (by rwa [decide_eq_true_iff]), Int.natAbs_of_nonneg (not_lt.1 hl)]

/-! ## Keywords -/

/-- The items of an array; other values have none. -/
def itemsOf : Json → List Json
  | .arr items => items
  | _ => []

/-- Whether a value is of a type, by the name of the type. -/
def hasType (type : String) (j : Json) : Bool :=
  match type, j with
  | "null", .null => true
  | "boolean", .bool _ => true
  | "string", .str _ => true
  | "array", .arr _ => true
  | "object", .obj _ => true
  | "number", j => j.number?.isSome
  | "integer", j => j.number?.any Rat.isInt
  | _, _ => false

/-- An integer is what reads as a whole number. -/
theorem hasType_integer (j : Json) : hasType "integer" j = j.whole?.isSome := by
  have hint (q : ℚ) : q.isInt = true ↔ ∃ n : Int, q = n := by
    rw [Rat.isInt, beq_iff_eq]
    refine ⟨fun h => ⟨q.num, (Rat.den_eq_one_iff q).1 h ▸ rfl⟩, ?_⟩
    rintro ⟨n, rfl⟩
    exact Rat.den_intCast n
  rw [Bool.eq_iff_iff, Option.isSome_iff_exists]
  simp only [whole?_eq_some_iff]
  cases hj : j.number? with
  | none => simp [hasType, hj]
  | some q => simp [hasType, hj, hint]

/-- Whether two scalars are the same. -/
def sameScalar : Json → Json → Bool
  | .null, .null => true
  | .bool a, .bool b => a == b
  | .str a, .str b => a == b
  | a, b => a.number?.any fun x => b.number? == some x

/-- What the other keywords of a document say that matters to one of them. -/
structure Context where
  /-- Whether null is of the type, whatever that is. -/
  nullable : Bool
  /-- The names of the members that are described one by one. -/
  named : List String

/-- What the keywords of a document say to each other. -/
def context (keywords : List (String × Json)) : Context where
  nullable := ((keywords.lookup "nullable").bind asBool?).getD false
  named := (((keywords.lookup "properties").map membersOf).getD []).map Prod.fst

mutual

/-- Whether a value is valid under a schema document. -/
def validates : Json → Json → Bool
  | .obj keywords, j => validatesAll (context keywords) keywords j
  | .bool b, _ => b
  | _, _ => false
termination_by structural x => x

/-- Whether a value is as all keywords say. Keywords that are annotations say nothing. -/
def validatesAll (c : Context) : List (String × Json) → Json → Bool
  | [], _ => true
  | (key, v) :: rest, j =>
    (match key with
      | "type" => v.asText?.any fun type => hasType type j || (c.nullable && j.isNull)
      | "enum" => v.itemsOf.any fun choice => choice.sameScalar j
      | "minimum" => v.number?.all fun least => j.number?.all fun x => decide (least ≤ x)
      | "required" =>
        !hasType "object" j
          || v.itemsOf.all fun name => name.asText?.all fun n => (j.member? n).isSome
      | "properties" => validatesMembers v j
      | "additionalProperties" =>
        j.membersOf.all fun m => c.named.contains m.1 || validates v m.2
      | "items" => j.itemsOf.all fun i => validates v i
      | _ => true) && validatesAll c rest j

/-- Whether the members that a document describes are valid in a value that has them. -/
def validatesMembers : Json → Json → Bool
  | .obj described, j => validatesEach described j
  | _, _ => true

/-- Whether each of the described members is valid, if it is there. -/
def validatesEach : List (String × Json) → Json → Bool
  | [], _ => true
  | (name, v) :: rest, j => ((j.member? name).all fun x => validates v x) && validatesEach rest j

end

/-! ## What one keyword says -/

/-- Whether a value is as a keyword says that stands in some context. -/
def keywordHolds (c : Context) (key : String) (v j : Json) : Bool :=
  match key with
  | "type" => v.asText?.any fun type => hasType type j || (c.nullable && j.isNull)
  | "enum" => v.itemsOf.any fun choice => choice.sameScalar j
  | "minimum" => v.number?.all fun least => j.number?.all fun x => decide (least ≤ x)
  | "required" =>
    !hasType "object" j || v.itemsOf.all fun name => name.asText?.all fun n => (j.member? n).isSome
  | "properties" => validatesMembers v j
  | "additionalProperties" =>
    j.membersOf.all fun m => c.named.contains m.1 || validates v m.2
  | "items" => j.itemsOf.all fun i => validates v i
  | _ => true

/-- All keywords hold if each of them does. -/
theorem validatesAll_eq_all (c : Context) (keywords : List (String × Json)) (j : Json) :
    validatesAll c keywords j = keywords.all fun m => keywordHolds c m.1 m.2 j := by
  induction keywords with
  | nil => rfl
  | cons m rest ih => rw [List.all_cons, ← ih]; rfl

/-- All described members are valid if each of them is that is there. -/
theorem validatesEach_eq_all (described : List (String × Json)) (j : Json) :
    validatesEach described j =
      described.all fun m => (j.member? m.1).all fun x => validates m.2 x := by
  induction described with
  | nil => rfl
  | cons m rest ih => rw [List.all_cons, ← ih]; rfl

end Json

open Json (context keywordHolds hasType validates memberIfSome memberIfAny)

namespace Schema

/-! ## Documents that are written -/

/-- The keywords for the traits of a schema. -/
def traitNames : List String := ["type", "title", "description", "default", "format", "nullable"]

/-- The traits of a schema are written in a fixed order. -/
theorem names_members (t : Traits) (type : String) :
    ((t.members type).map Prod.fst).Sublist traitNames := by
  have hnull : (((if t.nullable then [("nullable", .bool true)] else []) :
      List (String × Json)).map Prod.fst).Sublist ["nullable"] := by
    cases t.nullable
    · exact List.nil_sublist _
    · exact .refl _
  simp only [Traits.members, List.map_append]
  exact ((((List.Sublist.refl ["type"]).append (Json.names_memberIfSome _ _)).append
    (Json.names_memberIfSome _ _)).append (Json.names_memberIfSome _ _)).append
    (Json.names_memberIfSome _ _) |>.append hnull

section Keywords

variable {α : Type} {name : String} {p : String × Json → Bool}

/-- What holds of all of a member that may be left out, holds of its value if there is one. -/
theorem all_memberIfSome (encode : α → Json) (value : Option α) :
    (memberIfSome name encode value).all p = value.all fun x => p (name, encode x) := by
  cases value with
  | none => rfl
  | some x => simp [memberIfSome]

/-- What holds of all of a list that may be left out, holds of the list unless it is empty. -/
theorem all_memberIfAny (encode : α → Json) (xs : List α) :
    (memberIfAny name encode xs).all p = (xs.isEmpty || p (name, .ofList encode xs)) := by
  cases xs with
  | nil => rfl
  | cons x rest => simp [memberIfAny]

end Keywords

/-- Of the traits only the type is about validity, and whether null is of it. -/
theorem all_members (c : Json.Context) (t : Traits) (type : String) (j : Json) :
    ((t.members type).all fun m => keywordHolds c m.1 m.2 j) =
      (hasType type j || (c.nullable && j.isNull)) := by
  have hany {β : Type} (value : Option β) : (value.all fun _ => true) = true := by
    cases value <;> rfl
  cases hnull : t.nullable <;>
    simp [Traits.members, hnull, all_memberIfSome, keywordHolds, hany]

/-- A schema says that it is nullable if it is. -/
theorem lookup_members_nullable (t : Traits) (type : String) :
    (t.members type).lookup "nullable" = if t.nullable then some (.bool true) else none := by
  cases hnull : t.nullable <;>
    simp [Traits.members, hnull, List.lookup_append, Json.lookup_memberIfSome,
      SortedMap.lookup_cons_eq]

/-- The traits of a schema describe no members. -/
theorem lookup_members_properties (t : Traits) (type : String) :
    (t.members type).lookup "properties" = none := by
  cases hnull : t.nullable <;>
    simp [Traits.members, hnull, List.lookup_append, Json.lookup_memberIfSome,
      SortedMap.lookup_cons_eq]

/-- What keywords say to each other does not depend on their order. -/
theorem inKeyOrder_perm {xs ys : List (String × Json)} (hxs : (xs.map Prod.fst).Nodup)
    (h : xs.Perm ys) : inKeyOrder xs = inKeyOrder ys := by
  have hys : (ys.map Prod.fst).Nodup := (h.map _).nodup_iff.1 hxs
  have hmaps : SortedMap.ofList xs = SortedMap.ofList ys := by
    refine SortedMap.ext_get? fun k => Option.ext fun v => ?_
    rw [← SortedMap.mem_entries_iff, ← SortedMap.mem_entries_iff, SortedMap.mem_entries_ofList hxs,
      SortedMap.mem_entries_ofList hys, h.mem_iff]
  rw [inKeyOrder, hmaps, inKeyOrder]

/-- A document says of a value that it is of the type and what the keywords say that do not belong
to the traits. -/
theorem validates_form {t : Traits} {type : String} {own keywords : List (String × Json)}
    (hnames : (traitNames ++ own.map Prod.fst).Nodup) (h : keywords.Perm (t.members type ++ own))
    (j : Json) :
    (inKeyOrder keywords).validates j =
      ((hasType type j || (t.nullable && j.isNull)) &&
        own.all fun m => keywordHolds ⟨t.nullable, (context own).named⟩ m.1 m.2 j) := by
  have hall : ((t.members type ++ own).map Prod.fst).Nodup := by
    rw [List.map_append]
    exact ((names_members t type).append_right _).nodup hnames
  have hown : own.lookup "nullable" = none := by
    rw [List.lookup_eq_none_iff]
    intro m hm
    rw [bne_iff_ne]
    intro hname
    exact (List.nodup_append.1 hnames).2.2 "nullable" (by decide) m.1 (List.mem_map_of_mem hm) hname
  have hcontext : context (SortedMap.ofList (t.members type ++ own)).entries =
      ⟨t.nullable, (context own).named⟩ := by
    simp only [context, SortedMap.lookup_entries_ofList hall, List.lookup_append, hown,
      lookup_members_nullable, lookup_members_properties, Option.none_or, Option.or_none]
    cases t.nullable <;> rfl
  rw [inKeyOrder_perm ((h.map _).nodup_iff.2 hall) h]
  show Json.validatesAll (context (SortedMap.ofList (t.members type ++ own)).entries) _ j = _
  rw [Json.validatesAll_eq_all, hcontext, SortedMap.all_entries_ofList hall, List.all_append,
    all_members]

/-! ## A schema and its document -/

/-- If the other keywords allow null wherever the type does, it does not matter whether they are
asked about it. -/
theorem or_and_of_null {isType isNull others : Bool} (h : isNull → others) :
    ((isType || isNull) && others) = (isNull || (isType && others)) := by
  cases isNull with
  | false => rw [Bool.or_false, Bool.false_or]
  | true => rw [h rfl, Bool.or_true, Bool.true_or, Bool.true_and]

/-- What is accepted as null is null. -/
theorem eq_null {nullable : Bool} {j : Json} (h : (nullable && j.isNull) = true) : j = .null := by
  rw [Bool.and_eq_true] at h
  cases j with
  | null => rfl
  | _ => cases h.2

/-- The document of a text schema accepts what the schema admits. -/
theorem validates_text {t : Traits} {choices : List String}
    (h : t.nullable = false ∨ choices = []) (j : Json) :
    (text t choices).toJson.validates j = (text t choices).admits j := by
  have hnames : (traitNames ++ (memberIfAny "enum" Json.str choices).map Prod.fst).Nodup :=
    ((List.Sublist.refl traitNames).append (Json.names_memberIfAny _ _)).nodup (by decide)
  rw [toJson, validates_form hnames (.refl _), all_memberIfAny, or_and_of_null]
  · cases j with
    | str s =>
      have hsame : ((choices.map Json.str).any fun choice => choice.sameScalar (.str s)) =
          choices.contains s := by
        rw [List.any_map, Bool.eq_iff_iff, List.any_eq_true, List.contains_iff_mem]
        simp [Json.sameScalar]
      show (_ || (true && (_ || (choices.map Json.str).any fun choice =>
        choice.sameScalar (.str s)))) = _
      rw [hsame, Bool.true_and]
      rfl
    | _ => rfl
  · intro hnull
    rcases h with h | h
    · rw [h] at hnull
      cases hnull
    · rw [h]
      rfl

/-- The document of a number schema accepts what the schema admits. -/
theorem validates_whole {t : Traits} {least : Option Int} (j : Json) :
    (whole t least).toJson.validates j = (whole t least).admits j := by
  have hnames (bound : Int → Json) :
      (traitNames ++ (memberIfSome "minimum" bound least).map Prod.fst).Nodup :=
    ((List.Sublist.refl traitNames).append (Json.names_memberIfSome _ _)).nodup (by decide)
  have hleast (c : Json.Context) (l : Int) : keywordHolds c "minimum"
      (.decimal (l < 0) l.natAbs 0) j = j.number?.all fun x => decide ((l : ℚ) ≤ x) := by
    rw [keywordHolds, Json.number?_bound, Option.all_some]
  rw [toJson, validates_form (hnames _) (.refl _), all_memberIfSome]
  simp only [hleast]
  rw [or_and_of_null, Json.hasType_integer]
  · show _ = ((t.nullable && j.isNull) || j.whole?.any fun n => least.all fun l => decide (l ≤ n))
    cases hw : j.whole? with
    | none => rfl
    | some n =>
      simp only [Json.whole?_eq_some_iff.1 hw, Option.all_some, Option.any_some,
        Option.isSome_some, Bool.true_and, Rat.intCast_le_intCast]
  · intro hnull
    rw [eq_null hnull]
    cases least <;> rfl

/-- The document of a list schema accepts what the schema admits, if that of its items does. -/
theorem validates_list {t : Traits} {item : Schema}
    (h : ∀ j, item.toJson.validates j = item.admits j) (j : Json) :
    (list t item).toJson.validates j = (list t item).admits j := by
  have hnames : (traitNames ++ [("items", item.toJson)].map Prod.fst).Nodup := by
    simp [traitNames]
  rw [toJson, validates_form hnames (List.perm_append_singleton _ _).symm]
  show (_ && ((j.itemsOf.all fun i => item.toJson.validates i) && true)) = _
  rw [Bool.and_true, or_and_of_null]
  · simp only [h]
    cases j <;> rfl
  · intro hnull
    rw [eq_null hnull]
    rfl

/-- The document of a table schema accepts what the schema admits, if that of its values does. -/
theorem validates_table {t : Traits} {value : Schema}
    (h : ∀ j, value.toJson.validates j = value.admits j) (j : Json) :
    (table t value).toJson.validates j = (table t value).admits j := by
  have hnames : (traitNames ++ [("additionalProperties", value.toJson)].map Prod.fst).Nodup := by
    simp [traitNames]
  rw [toJson, validates_form hnames (List.perm_append_singleton _ _).symm]
  -- there are no other members, so none of them is described by itself
  show (_ && ((j.membersOf.all fun m => false || value.toJson.validates m.2) && true)) = _
  rw [Bool.and_true, or_and_of_null]
  · simp only [h, Bool.false_or]
    cases j <;> rfl
  · intro hnull
    rw [eq_null hnull]
    rfl

/-- The members of a record are written one by one. -/
theorem toJsonMembers_eq_map (members : List (String × Schema)) :
    toJsonMembers members = members.map fun m => (m.1, m.2.toJson) := by
  induction members with
  | nil => rfl
  | cons m rest ih => rw [List.map_cons, ← ih]; rfl

/-- A record admits members if each that is there is admitted. -/
theorem admitsMembers_eq_all (members : List (String × Schema)) (j : Json) :
    admitsMembers members j = members.all fun m => (j.member? m.1).all fun v => m.2.admits v := by
  induction members with
  | nil => rfl
  | cons m rest ih => rw [List.all_cons, ← ih]; rfl

/-- A record admits an object that has the required members, and whose members are admitted. -/
theorem admits_obj {t : Traits} {members : List (String × Schema)} {required : List String}
    {ms : List (String × Json)} :
    (record t members required).admits (.obj ms) =
      ((required.all fun name => ((Json.obj ms).member? name).isSome)
        && admitsMembers members (.obj ms)) := by
  show ((t.nullable && false) || _) = _
  rw [Bool.and_false, Bool.false_or]

/-- The described members of a document accept what the members of the schema admit, in whatever
order. -/
theorem validatesMembers_inKeyOrder {members : List (String × Schema)}
    (hmembers : (members.map Prod.fst).Nodup)
    (h : ∀ m ∈ members, ∀ j, m.2.toJson.validates j = m.2.admits j) (j : Json) :
    Json.validatesMembers (inKeyOrder (toJsonMembers members)) j = admitsMembers members j := by
  have hkeys : ((toJsonMembers members).map Prod.fst).Nodup := by
    rwa [toJsonMembers_eq_map, List.map_map]
  rw [admitsMembers_eq_all]
  show Json.validatesEach (SortedMap.ofList (toJsonMembers members)).entries j = _
  -- members are looked up by name, so their order does not matter
  rw [Json.validatesEach_eq_all, SortedMap.all_entries_ofList hkeys, toJsonMembers_eq_map,
    List.all_map, Bool.eq_iff_iff, List.all_eq_true, List.all_eq_true]
  exact forall₂_congr fun m hm => by simp only [Function.comp_apply, h m hm]

/-- The names of required members are written in their order, and not at all if there are none. -/
theorem all_required (required : List String) (present : String → Bool) :
    ((TextSet.ofList required).keys.isEmpty ||
      (Json.ofList Json.str (TextSet.ofList required).keys).itemsOf.all fun name =>
        name.asText?.all present) = required.all present := by
  have hall (names : List String) : ((Json.ofList Json.str names).itemsOf.all fun name =>
      name.asText?.all present) = names.all present := by
    simp [Json.itemsOf, Json.ofList, Function.comp_def]
  have hkeys (name : String) : name ∈ (TextSet.ofList required).keys ↔ name ∈ required := by
    rw [← SortedMap.contains_iff_mem_keys, TextSet.contains_ofList, List.contains_iff_mem]
  rw [hall, Bool.eq_iff_iff, Bool.or_eq_true, List.isEmpty_iff, List.all_eq_true,
    List.all_eq_true]
  simp only [hkeys]
  refine ⟨fun h name hname => ?_, .inr⟩
  rcases h with h | h
  · rw [← hkeys, h] at hname
    cases hname
  · exact h name hname

/-- The document of a record schema accepts what the schema admits, if those of its members do. -/
theorem validates_record {t : Traits} {members : List (String × Schema)} {required : List String}
    (hmembers : (members.map Prod.fst).Nodup)
    (h : ∀ m ∈ members, ∀ j, m.2.toJson.validates j = m.2.admits j) (j : Json) :
    (record t members required).toJson.validates j = (record t members required).admits j := by
  have hnames : (traitNames ++
      (("properties", inKeyOrder (toJsonMembers members)) ::
        memberIfAny "required" Json.str (TextSet.ofList required).keys).map Prod.fst).Nodup :=
    ((List.Sublist.refl traitNames).append
      ((Json.names_memberIfAny _ _).cons_cons "properties")).nodup (by decide)
  rw [toJson, List.cons_append, validates_form hnames List.perm_middle.symm, List.all_cons,
    all_memberIfAny, or_and_of_null]
  · show (_ || (_ && (Json.validatesMembers (inKeyOrder (toJsonMembers members)) j && _))) = _
    rw [validatesMembers_inKeyOrder hmembers h]
    cases j with
    | obj given =>
      show (t.nullable && false || (true && (_ && (_ || (Json.ofList Json.str _).itemsOf.all
        fun name => name.asText?.all fun n => ((Json.obj given).member? n).isSome)))) = _
      rw [admits_obj, Bool.and_false, Bool.false_or, Bool.true_and,
        all_required required fun n => ((Json.obj given).member? n).isSome, Bool.and_comm]
    | _ => rfl
  · intro hnull
    rw [eq_null hnull]
    show (Json.validatesMembers (inKeyOrder (toJsonMembers members)) .null && (_ || true)) = true
    rw [validatesMembers_inKeyOrder hmembers h, admitsMembers_eq_all, Bool.or_true, Bool.and_true]
    exact List.all_eq_true.2 fun _ _ => rfl

mutual

/-- Whether a document can say what the schema says: null is not one of the choices, and no member
is described twice. -/
def isProper : Schema → Bool
  | .text t choices => !t.nullable || choices.isEmpty
  | .whole _ _ => true
  | .list _ item => item.isProper
  | .table _ value => value.isProper
  | .record _ members _ => decide (members.map Prod.fst).Nodup && areProper members

/-- Whether documents can say what the schemas of members say. -/
def areProper : List (String × Schema) → Bool
  | [] => true
  | (_, s) :: rest => s.isProper && areProper rest

end

mutual

/-- **A schema and its document.** The document validates what the schema admits. -/
theorem validates_toJson : ∀ (s : Schema), s.isProper → ∀ j, s.toJson.validates j = s.admits j
  | .text t choices, h, j => by
    rw [isProper, Bool.or_eq_true, Bool.not_eq_true', List.isEmpty_iff] at h
    exact validates_text h j
  | .whole _ _, _, j => validates_whole j
  | .list _ item, h, j => validates_list (validates_toJson item h) j
  | .table _ value, h, j => validates_table (validates_toJson value h) j
  | .record _ members _, h, j => by
    rw [isProper, Bool.and_eq_true, decide_eq_true_iff] at h
    exact validates_record h.1 (validates_toJsonMembers members h.2) j
termination_by structural s => s

/-- The documents of all members accept what these admit. -/
theorem validates_toJsonMembers : ∀ (members : List (String × Schema)), areProper members →
    ∀ m ∈ members, ∀ j, m.2.toJson.validates j = m.2.admits j
  | [], _, _, hm, _ => nomatch hm
  | (_, s) :: rest, h, m, hm, j => by
    rw [areProper, Bool.and_eq_true] at h
    rcases List.mem_cons.1 hm with rfl | hm
    · exact validates_toJson s h.1 j
    · exact validates_toJsonMembers rest h.2 m hm j
termination_by structural members => members

end

end Schema

/-! ## The printed definition -/

namespace Resource

/-- The schema of a part of a resource that the printed definition has. -/
def definedPart? (name : String) : Option Json := do
  let versions ← (← definition.member? "spec").member? "versions"
  let schema ← (← versions.itemsOf.head?).member? "schema"
  (← (← schema.member? "openAPIV3Schema").member? "properties").member? name

/-- Whether a value is valid as a part of a resource, by the printed definition. -/
def isValidPart (name : String) (j : Json) : Bool := (definedPart? name).any (·.validates j)

/-- The definition describes the specification by its schema. -/
theorem definedPart?_spec : definedPart? "spec" = some Spec.schema.toJson := by
  rfl

/-- The definition describes the status by its schema. -/
theorem definedPart?_status : definedPart? "status" = some Status.schema.toJson := by
  rfl

/-- The definition accepts as specification what the schema admits. -/
theorem isValidPart_spec (j : Json) : isValidPart "spec" j = Spec.schema.admits j := by
  rw [isValidPart, definedPart?_spec, Option.any_some, Schema.validates_toJson _ (by decide)]

/-- The definition accepts as status what the schema admits. -/
theorem isValidPart_status (j : Json) : isValidPart "status" j = Status.schema.admits j := by
  rw [isValidPart, definedPart?_status, Option.any_some, Schema.validates_toJson _ (by decide)]

end Resource

end FirewallOperator
