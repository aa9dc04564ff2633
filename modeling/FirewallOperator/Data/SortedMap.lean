/-! # Finite maps ordered by key

A `SortedMap α` holds at most one value for each text key. Its entries stand in increasing order of
their keys, by code point, so there is one representation of each map: two maps that give the same
answers are equal (`SortedMap.ext_get?`). Label selectors, stores of objects and owner indexes are
such maps. -/

namespace FirewallOperator

/-- A finite map from texts, with its entries in increasing key order. -/
structure SortedMap (α : Type) where
  /-- The keys with their values. -/
  entries : List (String × α)
  /-- Keys increase strictly, so no key occurs twice. -/
  ordered : entries.Pairwise (fun a b => a.1 < b.1)
  deriving DecidableEq

namespace SortedMap

variable {α β : Type}

/-! ## Insertion into ordered entries -/

/-- Ordered entries with the value at `k` set to `v`. -/
def insertEntry (k : String) (v : α) : List (String × α) → List (String × α)
  | [] => [(k, v)]
  | e :: rest =>
    if k < e.1 then (k, v) :: e :: rest
    else if k = e.1 then (k, v) :: rest
    else e :: insertEntry k v rest

/-- Inserting an entry brings nothing else in. -/
theorem mem_insertEntry_of_mem {k : String} {v : α} {e : String × α} :
    ∀ {es : List (String × α)}, e ∈ insertEntry k v es → e = (k, v) ∨ e ∈ es
  | [], h => by simpa [insertEntry] using h
  | d :: rest, h => by
    rw [insertEntry] at h
    split at h
    · simpa using h
    · split at h
      · rcases List.mem_cons.1 h with h | h
        · exact .inl h
        · exact .inr (List.mem_cons_of_mem _ h)
      · rcases List.mem_cons.1 h with h | h
        · exact .inr (h ▸ List.mem_cons_self)
        · exact (mem_insertEntry_of_mem h).imp id (List.mem_cons_of_mem _)

/-- Insertion keeps entries in order. -/
theorem ordered_insertEntry (k : String) (v : α) :
    ∀ {es : List (String × α)}, es.Pairwise (fun a b => a.1 < b.1) →
      (insertEntry k v es).Pairwise (fun a b => a.1 < b.1)
  | [], _ => by simp [insertEntry]
  | e :: rest, h => by
    obtain ⟨he, hr⟩ := List.pairwise_cons.1 h
    rw [insertEntry]
    split
    case isTrue hk =>
      refine List.pairwise_cons.2 ⟨fun d hd => ?_, h⟩
      rcases List.mem_cons.1 hd with rfl | hd
      · exact hk
      · exact String.lt_trans hk (he d hd)
    case isFalse hk =>
      split
      case isTrue heq => exact List.pairwise_cons.2 ⟨fun d hd => heq ▸ he d hd, hr⟩
      case isFalse hne =>
        refine List.pairwise_cons.2 ⟨fun d hd => ?_, ordered_insertEntry k v hr⟩
        rcases mem_insertEntry_of_mem hd with rfl | hd
        · exact Std.lt_of_le_of_ne (Std.not_lt.1 hk) (Ne.symm hne)
        · exact he d hd

/-! ## The operations -/

/-- The map without entries. -/
def empty : SortedMap α := ⟨[], .nil⟩

instance : Inhabited (SortedMap α) := ⟨empty⟩

/-- The value at a key. -/
def get? (m : SortedMap α) (k : String) : Option α := m.entries.lookup k

/-- Whether a key has a value. -/
def contains (m : SortedMap α) (k : String) : Bool := (m.get? k).isSome

/-- The map with the value at `k` set to `v`. -/
def insert (m : SortedMap α) (k : String) (v : α) : SortedMap α :=
  ⟨insertEntry k v m.entries, ordered_insertEntry k v m.ordered⟩

/-- The map without the key `k`. -/
def erase (m : SortedMap α) (k : String) : SortedMap α :=
  ⟨m.entries.filter (fun e => e.1 ≠ k), m.ordered.sublist List.filter_sublist⟩

/-- The map of a list of entries; of several entries with one key the last counts. -/
def ofList (es : List (String × α)) : SortedMap α :=
  es.foldl (fun m e => m.insert e.1 e.2) empty

/-- The keys in increasing order. -/
def keys (m : SortedMap α) : List String := m.entries.map (·.1)

/-- The values in increasing order of their keys. -/
def values (m : SortedMap α) : List α := m.entries.map (·.2)

/-- The number of entries. -/
def size (m : SortedMap α) : Nat := m.entries.length

/-- Whether the map has no entries. -/
def isEmpty (m : SortedMap α) : Bool := m.entries.isEmpty

/-- The empty map has no entries. -/
@[simp] theorem entries_empty : (empty : SortedMap α).entries = [] := rfl

/-- Nothing is found in the empty map. -/
@[simp] theorem get?_empty (k : String) : (empty : SortedMap α).get? k = none := rfl

/-- No entries make the empty map. -/
@[simp] theorem ofList_nil : (ofList [] : SortedMap α) = empty := rfl

/-! ## Look-up after each operation -/

/-- A look-up in a list of entries tries the first one, and then the rest. -/
theorem lookup_cons_eq (k : String) (e : String × α) (rest : List (String × α)) :
    (e :: rest).lookup k = if k = e.1 then some e.2 else rest.lookup k := by
  show (match k == e.1 with
    | true => some e.2
    | false => rest.lookup k) = _
  by_cases h : k = e.1
  · rw [if_pos h, beq_iff_eq.2 h]
  · rw [if_neg h, beq_eq_false_iff_ne.2 h]

/-- An inserted entry is found under its key, and every other one as before. -/
theorem lookup_insertEntry (k k' : String) (v : α) :
    ∀ es : List (String × α),
      (insertEntry k v es).lookup k' = if k' = k then some v else es.lookup k'
  | [] => by simp [insertEntry, lookup_cons_eq]
  | e :: rest => by
    have ih := lookup_insertEntry k k' v rest
    rw [insertEntry]
    split
    · simp only [lookup_cons_eq]
    · split
      · rename_i heq
        simp only [lookup_cons_eq, heq]
        split <;> rfl
      · rename_i hne
        simp only [lookup_cons_eq, ih]
        by_cases h : k' = e.1
        · subst h; simp [Ne.symm hne]
        · simp [h]

/-- A map into which a value was put has it under its key, and is the same elsewhere. -/
theorem get?_insert (m : SortedMap α) (k k' : String) (v : α) :
    (m.insert k v).get? k' = if k' = k then some v else m.get? k' :=
  lookup_insertEntry k k' v m.entries

/-- What was put under a key is found there. -/
@[simp] theorem get?_insert_self (m : SortedMap α) (k : String) (v : α) :
    (m.insert k v).get? k = some v := by simp [get?_insert]

/-- Without the entries of a key, nothing is found under it, and the same elsewhere. -/
theorem lookup_filter_ne (k k' : String) :
    ∀ es : List (String × α),
      (es.filter (fun e => e.1 ≠ k)).lookup k' = if k' = k then none else es.lookup k'
  | [] => by simp
  | e :: rest => by
    have ih := lookup_filter_ne k k' rest
    by_cases he : e.1 = k
    · rw [List.filter_cons_of_neg (by simpa using he), ih, lookup_cons_eq]
      by_cases h : k' = k <;> simp [h, he]
    · rw [List.filter_cons_of_pos (by simpa using he), lookup_cons_eq, lookup_cons_eq, ih]
      by_cases h : k' = e.1
      · subst h; simp [he]
      · simp [h]

/-- Where a key was erased nothing is found, and the same elsewhere. -/
theorem get?_erase (m : SortedMap α) (k k' : String) :
    (m.erase k).get? k' = if k' = k then none else m.get? k' :=
  lookup_filter_ne k k' m.entries

/-- Nothing is found under an erased key. -/
@[simp] theorem get?_erase_self (m : SortedMap α) (k : String) : (m.erase k).get? k = none := by
  simp [get?_erase]

/-! ## Entries and equality -/

/-- In a list that is ordered by keys, the entries are those that are found. -/
theorem mem_iff_lookup {k : String} {v : α} :
    ∀ {es : List (String × α)}, es.Pairwise (fun a b => a.1 < b.1) →
      ((k, v) ∈ es ↔ es.lookup k = some v)
  | [], _ => by simp
  | (l, w) :: rest, h => by
    obtain ⟨he, hr⟩ := List.pairwise_cons.1 h
    rw [lookup_cons_eq, List.mem_cons, Prod.mk.injEq]
    by_cases hk : k = l
    · subst hk
      have hn : (k, v) ∉ rest := fun hm => String.lt_irrefl k (he _ hm)
      simp [hn, eq_comm]
    · simp [hk, mem_iff_lookup hr]

/-- The entries are exactly the keys with the values that look-up gives. -/
theorem mem_entries_iff {m : SortedMap α} {k : String} {v : α} :
    (k, v) ∈ m.entries ↔ m.get? k = some v := mem_iff_lookup m.ordered

/-- Lists that are ordered by keys are the same when they have the same entries. -/
theorem eq_of_same_members :
    ∀ {xs ys : List (String × α)}, xs.Pairwise (fun a b => a.1 < b.1) →
      ys.Pairwise (fun a b => a.1 < b.1) → (∀ e, e ∈ xs ↔ e ∈ ys) → xs = ys
  | [], [], _, _, _ => rfl
  | [], y :: _, _, _, h => absurd ((h y).2 List.mem_cons_self) List.not_mem_nil
  | x :: _, [], _, _, h => absurd ((h x).1 List.mem_cons_self) List.not_mem_nil
  | x :: xs, y :: ys, hx, hy, h => by
    obtain ⟨hx1, hx2⟩ := List.pairwise_cons.1 hx
    obtain ⟨hy1, hy2⟩ := List.pairwise_cons.1 hy
    have hxy : x = y := by
      rcases List.mem_cons.1 ((h x).1 List.mem_cons_self) with hxy | hm
      · exact hxy
      · rcases List.mem_cons.1 ((h y).2 List.mem_cons_self) with hyx | hm'
        · exact hyx.symm
        · exact absurd (String.lt_trans (hx1 _ hm') (hy1 _ hm)) (String.lt_irrefl _)
    subst hxy
    rw [eq_of_same_members hx2 hy2]
    intro e
    constructor
    · intro he
      rcases List.mem_cons.1 ((h e).1 (List.mem_cons_of_mem _ he)) with rfl | hm
      · exact absurd (hx1 _ he) (String.lt_irrefl _)
      · exact hm
    · intro he
      rcases List.mem_cons.1 ((h e).2 (List.mem_cons_of_mem _ he)) with rfl | hm
      · exact absurd (hy1 _ he) (String.lt_irrefl _)
      · exact hm

/-- Maps that give the same answer for every key are equal. -/
theorem ext_get? {m n : SortedMap α} (h : ∀ k, m.get? k = n.get? k) : m = n := by
  have he : m.entries = n.entries := by
    refine eq_of_same_members m.ordered n.ordered fun ⟨k, v⟩ => ?_
    rw [mem_entries_iff, mem_entries_iff, h]
  cases m; cases n; simp_all

/-- The keys are exactly the texts that have a value. -/
theorem mem_keys_iff {m : SortedMap α} {k : String} : k ∈ m.keys ↔ (m.get? k).isSome := by
  constructor
  · intro h
    obtain ⟨⟨k', v⟩, he, rfl⟩ := List.mem_map.1 h
    simp [mem_entries_iff.1 he]
  · intro h
    obtain ⟨v, hv⟩ := Option.isSome_iff_exists.1 h
    exact List.mem_map.2 ⟨(k, v), mem_entries_iff.2 hv, rfl⟩

/-- The keys of a map are given in their order, each one once. -/
theorem keys_ordered (m : SortedMap α) : m.keys.Pairwise (· < ·) :=
  List.pairwise_map.2 m.ordered

/-- A map has something under its keys, and under nothing else. -/
theorem contains_iff_mem_keys {m : SortedMap α} {k : String} : m.contains k ↔ k ∈ m.keys :=
  mem_keys_iff.symm

end SortedMap

/-! ## Sets of texts -/

/-- A finite set of texts, in increasing order. -/
abbrev TextSet := SortedMap Unit

namespace TextSet

/-- The set of the members of a list. -/
def ofList (xs : List String) : TextSet := SortedMap.ofList (xs.map fun x => (x, ()))

/-- The set with one more member. -/
def add (s : TextSet) (x : String) : TextSet := s.insert x ()

/-- The members of either set. -/
def union (s t : TextSet) : TextSet := t.keys.foldl add s

/-- The members of `s` that are not in `t`, in increasing order. -/
def difference (s t : TextSet) : List String := s.keys.filter fun x => !t.contains x

/-- A set to which a text was added has this one too. -/
theorem contains_add (s : TextSet) (x y : String) :
    (s.add x).contains y = (y == x || s.contains y) := by
  by_cases h : y = x <;> simp [add, SortedMap.contains, SortedMap.get?_insert, h]

/-- A set to which texts were added, one after the other, has these too. -/
theorem contains_foldl_add (xs : List String) (y : String) :
    ∀ s : TextSet, (xs.foldl add s).contains y = (xs.contains y || s.contains y) := by
  induction xs with
  | nil => intro s; simp
  | cons x xs ih =>
    intro s
    rw [List.foldl_cons, ih, contains_add, List.contains_cons, Bool.or_left_comm, Bool.or_assoc]

/-- The set of a list has its members. -/
theorem contains_ofList (xs : List String) (y : String) :
    (ofList xs).contains y = xs.contains y := by
  have hfold : ofList xs = xs.foldl add .empty := List.foldl_map
  rw [hfold, contains_foldl_add]
  simp [SortedMap.contains]

/-- A union has the members of both sets. -/
theorem contains_union (s t : TextSet) (y : String) :
    (s.union t).contains y = (t.contains y || s.contains y) := by
  rw [union, contains_foldl_add]
  congr 1
  by_cases h : y ∈ t.keys
  · simp [h, SortedMap.contains_iff_mem_keys.2 h]
  · have : t.contains y = false := by
      simpa using fun h' => h (SortedMap.contains_iff_mem_keys.1 h')
    simp [h, this]

/-- A difference has the members of the first set that the second one lacks. -/
theorem mem_difference {s t : TextSet} {y : String} :
    y ∈ s.difference t ↔ s.contains y ∧ ¬ t.contains y := by
  simp [difference, ← SortedMap.contains_iff_mem_keys]

end TextSet

end FirewallOperator
