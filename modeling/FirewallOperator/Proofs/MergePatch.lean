import FirewallOperator.Data.SortedMap
import FirewallOperator.Json.Record
import FirewallOperator.Json.Schema
import Mathlib.Data.List.Nodup

/-! # Merging a patch into a value

A merge patch says what is to change in a JSON value: an object is merged member by
member, null removes a member, and anything else takes the place of what was there. What a patch
leaves out is left alone: `Json.lookup_mergedMembers`. The records that are read from objects
before and after a merge are compared member by member, too (`Json.record?_obj`). -/

namespace FirewallOperator

namespace Json

variable {α : Type} {name other : String} {ms changes : List (String × Json)}

/-! ## Members -/

/-- The members of an object; other values have none. -/
def membersOf : Json → List (String × Json)
  | .obj ms => ms
  | _ => []

/-- Members with the value of a name replaced, or the name removed. -/
def replaced (name : String) (value : Option Json) (ms : List (String × Json)) :
    List (String × Json) :=
  ms.filter (fun m => m.1 ≠ name) ++ value.toList.map (name, ·)

/-- A replaced member has its new value, and the others have theirs. -/
theorem lookup_replaced {value : Option Json} :
    (replaced name value ms).lookup other = if other = name then value else ms.lookup other := by
  rw [replaced, List.lookup_append, SortedMap.lookup_filter_ne]
  by_cases h : other = name
  · subst h
    cases value <;> simp
  · cases value <;> simp [h, SortedMap.lookup_cons_eq]

/-- The member with a name that was replaced is the new one, and any other is as it was. -/
theorem member?_replaced {value : Option Json} :
    (obj (replaced name value ms)).member? other =
      if other = name then value else (obj ms).member? other := by
  show (replaced name value ms).reverse.lookup other = if other = name then value
    else ms.reverse.lookup other
  rw [replaced, List.reverse_append, List.lookup_append, ← List.filter_reverse,
    SortedMap.lookup_filter_ne]
  by_cases h : other = name
  · cases value <;> simp [h]
  · cases value <;> simp [h, SortedMap.lookup_cons_eq]

/-- Names that were distinct still are, among any that are looked at. -/
theorem nodup_replaced {p : String × Json → Bool} {value : Option Json}
    (h : ((ms.filter p).map Prod.fst).Nodup) :
    (((replaced name value ms).filter p).map Prod.fst).Nodup := by
  have hkept : (((ms.filter (fun m => m.1 ≠ name)).filter p).map Prod.fst).Nodup :=
    h.sublist ((List.filter_sublist.filter p).map _)
  have hnew : (((value.toList.map (name, ·)).filter p).map Prod.fst).Nodup := by
    cases value with
    | none => exact .nil
    | some v =>
      refine List.Nodup.sublist ((List.filter_sublist).map Prod.fst) ?_
      exact List.nodup_singleton name
  rw [replaced, List.filter_append, List.map_append, List.nodup_append]
  refine ⟨hkept, hnew, ?_⟩
  rintro n hn n' hn' rfl
  obtain ⟨m, hm, rfl⟩ := List.mem_map.1 hn
  obtain ⟨m', hm', hname⟩ := List.mem_map.1 hn'
  obtain ⟨v, -, rfl⟩ := List.mem_map.1 (List.mem_filter.1 hm').1
  have hne := (List.mem_filter.1 (List.mem_filter.1 hm).1).2
  simp only [← hname, ne_eq, not_true_eq_false, decide_false, Bool.false_eq_true] at hne

/-! ## Merging -/

mutual

/-- A value with a patch merged into it. -/
def merged (target : Json) : Json → Json
  | .obj changes => .obj (mergedMembers target.membersOf changes)
  | patch => patch

/-- Members with the changes of a patch made one after the other. -/
def mergedMembers (ms : List (String × Json)) : List (String × Json) → List (String × Json)
  | [] => ms
  | (name, change) :: rest =>
    let value := if change.isNull then none
      else some (merged ((ms.lookup name).getD .null) change)
    mergedMembers (replaced name value ms) rest

end

/-- A text takes the place of what it is merged into. -/
@[simp] theorem merged_str (target : Json) (s : String) : target.merged (.str s) = .str s := by
  simp [merged]

/-- A number takes the place of what it is merged into. -/
@[simp] theorem merged_int (target : Json) (n : Int) : target.merged (.int n) = .int n := by
  simp [merged]

/-- An array takes the place of what it is merged into, as a whole. -/
@[simp] theorem merged_arr (target : Json) (items : List Json) :
    target.merged (.arr items) = .arr items := by
  simp [merged]

/-- After a merge, a member that the patch has is merged, or removed; any other is as it was. -/
theorem lookup_mergedMembers (h : (changes.map Prod.fst).Nodup) :
    (mergedMembers ms changes).lookup name =
      match changes.lookup name with
      | none => ms.lookup name
      | some change =>
        if change.isNull then none else some (((ms.lookup name).getD .null).merged change) := by
  induction changes generalizing ms with
  | nil => rw [mergedMembers, List.lookup_nil]
  | cons c rest ih =>
    obtain ⟨key, change⟩ := c
    obtain ⟨hkey, hrest⟩ := List.nodup_cons.1 h
    rw [mergedMembers, ih hrest, SortedMap.lookup_cons_eq, lookup_replaced]
    by_cases hn : name = key
    -- the patch has the name once, so what comes later leaves it alone
    · subst hn
      have hnone : rest.lookup name = none := by
        rw [List.lookup_eq_none_iff]
        intro m hm
        rw [bne_iff_ne]
        rintro rfl
        exact hkey (List.mem_map.2 ⟨m, hm, rfl⟩)
      simp only [hnone, if_true]
    · simp only [hn, if_false]

/-- No name comes in twice by a merge. -/
theorem nodup_mergedMembers {p : String × Json → Bool} (h : ((ms.filter p).map Prod.fst).Nodup) :
    (((mergedMembers ms changes).filter p).map Prod.fst).Nodup := by
  induction changes generalizing ms with
  | nil => rwa [mergedMembers]
  | cons c rest ih =>
    rw [mergedMembers]
    exact ih (nodup_replaced h)

/-! ## Members that are written -/

/-- A member that may be left out has its value if there is one. -/
theorem lookup_memberIfSome (encode : α → Json) (value : Option α) :
    (memberIfSome name encode value).lookup other =
      if other = name then value.map encode else none := by
  cases value with
  | none => simp [memberIfSome]
  | some x => rw [memberIfSome, SortedMap.lookup_cons_eq, List.lookup_nil, Option.map_some]

/-- A list that may be left out has its items if there are any. -/
theorem lookup_memberIfAny (encode : α → Json) (xs : List α) :
    (memberIfAny name encode xs).lookup other =
      if other = name ∧ xs ≠ [] then some (ofList encode xs) else none := by
  cases xs with
  | nil => simp [memberIfAny]
  | cons x rest =>
    rw [memberIfAny, SortedMap.lookup_cons_eq, List.lookup_nil]
    · simp
    · simp

/-- A member that may be left out has its own name only. -/
theorem names_memberIfSome (encode : α → Json) (value : Option α) :
    ((memberIfSome name encode value).map Prod.fst).Sublist [name] := by
  cases value with
  | none => exact List.nil_sublist _
  | some x => exact .refl _

/-- A list that may be left out has its own name only. -/
theorem names_memberIfAny (encode : α → Json) (xs : List α) :
    ((memberIfAny name encode xs).map Prod.fst).Sublist [name] := by
  cases xs with
  | nil => exact List.nil_sublist _
  | cons x rest => exact .refl _

/-- A list is decoded back when each of its own members is. -/
theorem asList?_ofList_of_mem {item : Json → Option α} {encode : α → Json} {xs : List α}
    (h : ∀ x ∈ xs, item (encode x) = some x) : asList? item (ofList encode xs) = some xs := by
  induction xs with
  | nil => rfl
  | cons x xs ih =>
    have hrest := ih fun y hy => h y (List.mem_cons_of_mem _ hy)
    simp only [asList?, ofList, List.map_cons, List.mapM_cons,
      h x List.mem_cons_self] at hrest ⊢
    rw [hrest]
    rfl

/-! ## Records that are read -/

/-- Names are distinct if none comes twice. -/
theorem distinctNames_iff : distinctNames ms = true ↔ (ms.map Prod.fst).Nodup := by
  induction ms with
  | nil => simp [distinctNames]
  | cons m rest ih =>
    obtain ⟨key, j⟩ := m
    have hany : (!rest.any (·.1 == key)) = true ↔ key ∉ rest.map Prod.fst := by
      rw [Bool.not_eq_true', ← Bool.not_eq_true, not_iff_not, List.any_eq_true, List.mem_map]
      simp only [beq_iff_eq]
    rw [distinctNames, Bool.and_eq_true, hany, ih, List.map_cons, List.nodup_cons]

/-- An object is read as a record when none of the record's names occurs twice in it. -/
theorem record?_obj {names : List String} {r : Record} :
    record? names (.obj ms) = some r ↔
      ((ms.filter fun m => names.contains m.1).map Prod.fst).Nodup ∧
        r = ⟨ms.filter fun m => names.contains m.1, false⟩ := by
  rw [record?, keyedRecord?]
  · split
    case isTrue hd =>
      rw [Option.some.injEq, ← distinctNames_iff]
      exact ⟨fun h => ⟨hd, h.symm⟩, fun h => h.2.symm⟩
    case isFalse hd =>
      rw [← distinctNames_iff]
      exact ⟨fun h => (nomatch h), fun h => absurd h.1 hd⟩
  · simp

/-- A field of a record is the member with its name. -/
theorem get?_fields {names : List String} (h : name ∈ names) :
    (⟨ms.filter fun m => names.contains m.1, false⟩ : Record).get? name = ms.lookup name := by
  show (ms.filter fun m => names.contains m.1).lookup name = ms.lookup name
  induction ms with
  | nil => rfl
  | cons m rest ih =>
    rw [SortedMap.lookup_cons_eq]
    by_cases hm : names.contains m.1
    · rw [List.filter_cons, if_pos hm, SortedMap.lookup_cons_eq, ih]
    · rw [List.filter_cons, if_neg hm, ih, if_neg]
      rintro rfl
      exact hm (List.contains_iff_mem.2 h)

/-- All members of an object as fields. -/
def fieldsOf (ms : List (String × Json)) : Record := ⟨ms, false⟩

section Fields

variable {names : List String} (h : name ∈ names)
include h

/-- A value with a default is read from all members as from those that a record knows. -/
theorem withDefault_fields (default : α) (decode : Json → Option α) :
    (⟨ms.filter fun m => names.contains m.1, false⟩ : Record).withDefault name default decode =
      (fieldsOf ms).withDefault name default decode := by
  rw [Record.withDefault, get?_fields h]
  rfl

/-- A required value is read from all members as from those that a record knows. -/
theorem required_fields (decode : Json → Option α) :
    (⟨ms.filter fun m => names.contains m.1, false⟩ : Record).required name decode =
      (fieldsOf ms).required name decode := by
  rw [Record.required, get?_fields h]
  rfl

/-- A value that may be missing is read from all members as from those that a record knows. -/
theorem optional_fields (decode : Json → Option α) :
    (⟨ms.filter fun m => names.contains m.1, false⟩ : Record).optional name decode =
      (fieldsOf ms).optional name decode := by
  rw [Record.optional, get?_fields h]
  rfl

end Fields

/-- A field after a merge that gives it a value. -/
theorem withDefault_mergedMembers {changes : List (String × Json)} {decode : Json → Option α}
    {default : α} {value : Json} (hd : (changes.map Prod.fst).Nodup)
    (hnew : changes.lookup name = some value) (hnull : value.isNull = false)
    (hwhole : ∀ target, merged target value = value) :
    (fieldsOf (mergedMembers ms changes)).withDefault name default decode = decode value := by
  have hget : (fieldsOf (mergedMembers ms changes)).get? name = _ := lookup_mergedMembers hd
  rw [Record.withDefault, hget, hnew]
  simp only [hnull, Bool.false_eq_true, if_false, hwhole]

/-- An optional field after a merge: what the patch gives, or else what was there. -/
theorem optional_mergedMembers {changes : List (String × Json)} {decode : Json → Option α}
    {encode : α → Json} {new old : Option α} (hd : (changes.map Prod.fst).Nodup)
    (hnew : changes.lookup name = new.map encode)
    (hwhole : ∀ target x, merged target (encode x) = encode x)
    (hnull : ∀ x, (encode x).isNull = false)
    (hdecode : ∀ x, (encode x).nullable? decode = some (some x))
    (hold : (fieldsOf ms).optional name decode = some old) :
    (fieldsOf (mergedMembers ms changes)).optional name decode = some (new.or old) := by
  have hget : (fieldsOf (mergedMembers ms changes)).get? name = _ := lookup_mergedMembers hd
  rw [Record.optional, hget, hnew]
  cases new with
  | none => exact hold
  | some x => simp only [Option.map_some, hnull, Bool.false_eq_true, if_false, hwhole, hdecode,
      Option.some_or]

end Json

end FirewallOperator
