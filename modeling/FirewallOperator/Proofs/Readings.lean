import FirewallOperator.Proofs.Documents

/-! # What is valid and can be read

The schema of specs says less than the types that specs are read into: it takes any whole number,
and names a width only as an annotation. `Spec.isSome_ofJson?_iff` is that nothing else comes
between the two: a valid spec is read exactly if its numbers are written as whole numbers
of the widths that the schema names, `Schema.fits`. -/

namespace FirewallOperator

namespace Json

/-! ## Names that occur once -/

mutual

/-- Whether no object in a value has two members of one name. -/
def hasDistinctNames : Json → Bool
  | .arr items => haveDistinctNames items
  | .obj ms => distinctNames ms && membersHaveDistinctNames ms
  | _ => true

/-- Whether no object in any of the items has two members of one name. -/
def haveDistinctNames : List Json → Bool
  | [] => true
  | j :: rest => j.hasDistinctNames && haveDistinctNames rest

/-- Whether no object in any of the members' values has two members of one name. -/
def membersHaveDistinctNames : List (String × Json) → Bool
  | [] => true
  | (_, j) :: rest => j.hasDistinctNames && membersHaveDistinctNames rest

end

variable {α β : Type} {name : String} {items : List Json} {ms : List (String × Json)}

/-- Items have distinct names if each of them has. -/
theorem haveDistinctNames_eq_all : haveDistinctNames items = items.all hasDistinctNames := by
  induction items with
  | nil => rfl
  | cons i rest ih => rw [List.all_cons, ← ih]; rfl

/-- The values of members have distinct names if each of them has. -/
theorem membersHaveDistinctNames_eq_all :
    membersHaveDistinctNames ms = ms.all fun m => m.2.hasDistinctNames := by
  induction ms with
  | nil => rfl
  | cons m rest ih => rw [List.all_cons, ← ih]; rfl

/-- An array has distinct names if its items have. -/
theorem hasDistinctNames_arr :
    (Json.arr items).hasDistinctNames ↔ ∀ j ∈ items, j.hasDistinctNames := by
  rw [hasDistinctNames, haveDistinctNames_eq_all, List.all_eq_true]

/-- An object has distinct names if its members do not share one, and their values have. -/
theorem hasDistinctNames_obj :
    (Json.obj ms).hasDistinctNames ↔
      (ms.map Prod.fst).Nodup ∧ ∀ m ∈ ms, m.2.hasDistinctNames := by
  rw [hasDistinctNames, Bool.and_eq_true, distinctNames_iff, membersHaveDistinctNames_eq_all,
    List.all_eq_true]

/-- The record of an object that names nothing twice. -/
structure Record.IsOf (r : Record) (names : List String) (ms : List (String × Json)) : Prop where
  /-- Nothing is named twice. -/
  distinct : (Json.obj ms).hasDistinctNames
  /-- A field is the member of its name. -/
  get : ∀ name ∈ names, r.get? name = (Json.obj ms).member? name

/-- An object that names nothing twice is read as a record. -/
theorem exists_record? (h : (Json.obj ms).hasDistinctNames) (names : List String) :
    ∃ r : Record, (Json.obj ms).record? names = some r ∧ r.IsOf names ms := by
  obtain ⟨hnames, -⟩ := hasDistinctNames_obj.1 h
  have hkept : ((ms.filter fun m => names.contains m.1).map Prod.fst).Nodup :=
    hnames.sublist (List.filter_sublist.map _)
  have hrev : (ms.reverse.map Prod.fst).Nodup := by rwa [List.map_reverse, List.nodup_reverse]
  refine ⟨_, record?_obj.2 ⟨hkept, rfl⟩, h, fun name hname => ?_⟩
  refine (get?_fields hname).trans (Option.ext fun v => ?_)
  show _ ↔ ms.reverse.lookup name = some v
  rw [SortedMap.lookup_eq_some_iff_mem hnames, SortedMap.lookup_eq_some_iff_mem hrev,
    List.mem_reverse]

/-! ## Decoders that succeed -/

/-- Two reads succeed if both do. -/
theorem isSome_bind {x : Option α} {next : α → Option β} {a b : Bool} (hx : x.isSome = a)
    (hnext : ∀ v, (next v).isSome = b) : (x >>= next).isSome = (a && b) := by
  subst hx
  cases x with
  | none => rfl
  | some v => exact hnext v

/-- A list is decoded when each of its items is. -/
theorem isSome_mapM (f : α → Option β) (xs : List α) :
    (xs.mapM f).isSome = xs.all fun x => (f x).isSome := by
  induction xs with
  | nil => rfl
  | cons x rest ih =>
    rw [List.mapM_cons, List.all_cons, ← ih]
    cases f x with
    | none => rfl
    | some y => cases rest.mapM f <;> rfl

end Json

open Json (nullable? asList? asText? asNamed? asInt32? asUInt16?)

namespace Schema

/-! ## Numbers of a width -/

/-- The numbers of a format: from the first on, and less than the second. -/
def bounds? : String → Option (Int × Int)
  | "int32" => some (-0x80000000, 0x80000000)
  | "int64" => some (-0x8000000000000000, 0x8000000000000000)
  | "uint16" => some (0, 0x10000)
  | _ => none

mutual

/-- Whether the numbers that a schema describes in a valid value are written as whole numbers, and
are of the width that their format names. -/
def fits : Schema → Json → Bool
  | .text _ _, _ => true
  | .whole t _, j =>
    (t.nullable && j.isNull) || match j with
      | .int n => (t.format.bind bounds?).all fun b => decide (b.1 ≤ n ∧ n < b.2)
      | _ => false
  | .list t item, j =>
    (t.nullable && j.isNull) || match j with
      | .arr items => items.all fun i => item.fits i
      | _ => false
  | .table t value, j =>
    (t.nullable && j.isNull) || match j with
      | .obj members => members.all fun m => value.fits m.2
      | _ => false
  | .record t members _, j =>
    (t.nullable && j.isNull) || match j with
      | .obj given => fitsMembers members (.obj given)
      | _ => false

/-- Whether the numbers in the described members that an object has are as they should be. -/
def fitsMembers : List (String × Schema) → Json → Bool
  | [], _ => true
  | (name, s) :: rest, j => ((j.member? name).all fun v => s.fits v) && fitsMembers rest j

end

variable {α : Type} {s : Schema} {decode : Json → Option α} {description : String}

/-- A decoder reads what a schema describes if, of the valid values, it takes those that fit. -/
def ReadBy (s : Schema) (decode : Json → Option α) : Prop :=
  ∀ j, j.hasDistinctNames → s.admits j → (decode j).isSome = s.fits j

/-! ## Values -/

/-- A schema that admits null, too. -/
def orNull : Schema → Schema
  | .text t choices => .text { t with nullable := true } choices
  | .whole t least => .whole { t with nullable := true } least
  | .list t item => .list { t with nullable := true } item
  | .table t value => .table { t with nullable := true } value
  | .record t members required => .record { t with nullable := true } members required

/-- What reads a schema also reads it with null. -/
theorem orNull_readBy (h : s.ReadBy decode) : s.orNull.ReadBy (nullable? decode) := by
  intro j hnames hadm
  by_cases hnull : j.isNull
  -- null is read as no value
  · cases j with
    | null => cases s <;> rfl
    | _ => cases hnull
  -- and anything else as it would be without null
  · have hadmits : s.orNull.admits j = s.admits j := by cases s <;> simp [orNull, admits, hnull]
    have hfits : s.orNull.fits j = s.fits j := by cases s <;> simp [orNull, fits, hnull]
    have hdecode : nullable? decode j = (decode j).map some := by
      cases j with
      | null => exact absurd rfl hnull
      | _ => rfl
    rw [hdecode, Option.isSome_map, hfits, h j hnames (hadmits ▸ hadm)]

/-- A text is read by the reader for texts. -/
theorem plainText_readBy : (plainText description).ReadBy asText? := fun j _ h => by
  cases j with
  | str s => rfl
  | _ => cases h

/-- A choice of names is read by the reader for these names. -/
theorem named_readBy {names : List (String × α)} {default : Option String} (hnames : names ≠ []) :
    (named description names default).ReadBy (asNamed? names) := fun j _ h => by
  cases j with
  | str s =>
    have hs : s ∈ names.map (·.1) := by simpa [named, admits, hnames, Json.isNull] using h
    show (names.lookup s).isSome = true
    rw [List.lookup_isSome_iff]
    obtain ⟨m, hm, rfl⟩ := List.mem_map.1 hs
    exact ⟨m, hm, beq_self_eq_true _⟩
  | _ => cases h

/-- A number is read by a reader that takes the numbers of the format's width and nothing else. -/
theorem whole_readBy {t : Traits} {least : Option Int} {b : Int × Int} (ht : t.nullable = false)
    (hb : t.format.bind bounds? = some b)
    (hint : ∀ n, (decode (.int n)).isSome = decide (b.1 ≤ n ∧ n < b.2))
    (hother : ∀ j, (∀ n, j ≠ .int n) → decode j = none) : (whole t least).ReadBy decode := by
  intro j _ _
  cases j with
  | int n => simp [fits, ht, hb, hint]
  | _ => rw [hother _ (by simp)]; simp [fits, ht]

/-- A port number is read by the reader for 16 bits without a sign. -/
theorem portNumber_readBy : (portNumber description).ReadBy asUInt16? :=
  whole_readBy rfl rfl
    (fun n => by rw [asUInt16?]; split <;> simp_all)
    (fun j hj => by cases j <;> first | rfl | exact absurd rfl (hj _))

/-- A number of 32 bits is read by the reader for these. -/
theorem int32_readBy {description : String} {default : Option Json} :
    (Schema.whole { description, default, format := "int32" } none).ReadBy asInt32? :=
  whole_readBy rfl rfl
    (fun n => by rw [asInt32?]; split <;> simp_all)
    (fun j hj => by cases j <;> first | rfl | exact absurd rfl (hj _))

/-- Labels are read by their reader. -/
theorem labels_readBy : (labels description).ReadBy (nullable? Labels.ofJson?) := by
  have htable : (Schema.table { description } (.text {} [])).ReadBy Labels.ofJson? := by
    intro j _ h
    cases j with
    | obj ms =>
      have htexts : (ms.all fun m => (Schema.text {} []).admits m.2) = true := h
      have hread : (ms.mapM fun m : String × Json => m.2.asText?.map (m.1, ·)).isSome = true := by
        rw [Json.isSome_mapM, List.all_eq_true]
        intro m hm
        have htext := List.all_eq_true.1 htexts m hm
        cases hj : m.2 with
        | str s => rfl
        | _ => rw [hj] at htext; cases htext
      have hfits : (Schema.table { description } (.text {} [])).fits (.obj ms) = true := by
        simp [fits]
      rw [hfits, Labels.ofJson?]
      exact Json.isSome_bind hread fun _ => rfl
    | _ => cases h
  exact orNull_readBy htable

/-- A list is read by the reader for lists, if its items are read by theirs. -/
theorem listOf_readBy {item : Schema} (hitem : item.ReadBy decode) :
    (listOf description item).ReadBy (asList? decode) := fun j hnames h => by
  cases j with
  | arr items =>
    have hitems : items.all item.admits := h
    rw [Json.hasDistinctNames_arr] at hnames
    rw [List.all_eq_true] at hitems
    show (items.mapM decode).isSome = items.all item.fits
    rw [Json.isSome_mapM, Bool.eq_iff_iff, List.all_eq_true, List.all_eq_true]
    exact forall₂_congr fun j hj => by rw [hitem j (hnames j hj) (hitems j hj)]
  | _ => cases h

/-! ## Records -/

section Fields

variable {ms : List (String × Json)} {r : Json.Record} {names : List String} {name : String}
  (hr : r.IsOf names ms) (hadm : ((Json.obj ms).member? name).all fun v => s.admits v)
include hr hadm

/-- A member that is there is read if it fits. -/
theorem isSome_of_member? (h : s.ReadBy decode) {v : Json}
    (hv : (Json.obj ms).member? name = some v) : (decode v).isSome = s.fits v := by
  refine h v ?_ ?_
  · exact (Json.hasDistinctNames_obj.1 hr.distinct).2 _ (Json.mem_of_member? hv)
  · rwa [hv] at hadm

variable (hname : name ∈ names)
include hname

/-- A member with a default is read if it fits or is missing. -/
theorem isSome_withDefault (h : s.ReadBy decode) (default : α) :
    (r.withDefault name default decode).isSome =
      ((Json.obj ms).member? name).all fun v => s.fits v := by
  rw [Json.Record.withDefault, hr.get name hname]
  cases hv : (Json.obj ms).member? name with
  | none => rfl
  | some v => exact isSome_of_member? hr hadm h hv

/-- A member that may be missing is read if it fits or is missing. -/
theorem isSome_optional (h : s.ReadBy (nullable? decode)) :
    (r.optional name decode).isSome = ((Json.obj ms).member? name).all fun v => s.fits v := by
  rw [Json.Record.optional, hr.get name hname]
  cases hv : (Json.obj ms).member? name with
  | none => rfl
  | some v => exact isSome_of_member? hr hadm h hv

/-- A required member that is there is read if it fits. -/
theorem isSome_required (h : s.ReadBy decode) (hpresent : ((Json.obj ms).member? name).isSome) :
    (r.required name decode).isSome = ((Json.obj ms).member? name).all fun v => s.fits v := by
  rw [Json.Record.required, hr.get name hname]
  cases hv : (Json.obj ms).member? name with
  | none => rw [hv] at hpresent; cases hpresent
  | some v => exact isSome_of_member? hr hadm h hv

end Fields

/-- A record is read by a decoder that reads its members. -/
theorem record_readBy {t : Traits} {members : List (String × Schema)} {required : List String}
    {names : List String} {fields : Json.Record → Option α} (ht : t.nullable = false)
    (hdecode : ∀ j, decode j = j.record? names >>= fields)
    (h : ∀ ms r, r.IsOf names ms → (∀ n ∈ required, ((Json.obj ms).member? n).isSome) →
      admitsMembers members (.obj ms) → (fields r).isSome = fitsMembers members (.obj ms)) :
    (record t members required).ReadBy decode := by
  intro j hnames hadm
  cases j with
  | obj ms =>
    obtain ⟨r, hrecord, hr⟩ := Json.exists_record? hnames names
    rw [admits_obj, Bool.and_eq_true, List.all_eq_true] at hadm
    have hfits : (record t members required).fits (.obj ms) = fitsMembers members (.obj ms) := by
      simp [fits, Json.isNull]
    rw [hdecode, hrecord, hfits]
    exact h ms r hr hadm.1 hadm.2
  | _ => simp [admits, ht] at hadm

end Schema

open Schema

/-- A target of a policy is read by its reader. -/
theorem Target.readBy_schema : Target.schema.ReadBy Target.ofJson? := by
  refine record_readBy rfl (fun _ => rfl) fun ms r hr _ h => ?_
  simp only [admitsMembers_cons, admitsMembers_nil, Bool.and_eq_true] at h
  obtain ⟨hpods, hmachines, -⟩ := h
  exact Json.isSome_bind (isSome_optional hr hpods (by simp) labels_readBy) fun _ =>
    Json.isSome_bind (isSome_optional hr hmachines (by simp) labels_readBy) fun _ => rfl

/-- A peer of a rule is read by its reader. -/
theorem Peer.readBy_schema : Peer.schema.ReadBy Peer.ofJson? := by
  refine record_readBy rfl (fun _ => rfl) fun ms r hr _ h => ?_
  simp only [admitsMembers_cons, admitsMembers_nil, Bool.and_eq_true] at h
  obtain ⟨hpods, hmachines, hnamespaces, -⟩ := h
  exact Json.isSome_bind (isSome_optional hr hpods (by simp) labels_readBy) fun _ =>
    Json.isSome_bind (isSome_optional hr hmachines (by simp) labels_readBy) fun _ =>
      Json.isSome_bind (isSome_optional hr hnamespaces (by simp) labels_readBy) fun _ => rfl

/-- A port is read by its reader. -/
theorem Port.readBy_schema : Port.schema.ReadBy Port.ofJson? := by
  refine record_readBy rfl (fun _ => rfl) fun ms r hr hrequired h => ?_
  simp only [admitsMembers_cons, admitsMembers_nil, Bool.and_eq_true] at h
  obtain ⟨hprotocol, hport, hlast, -⟩ := h
  have hpresent := hrequired "port" List.mem_cons_self
  have hprotocols : Protocol.names ≠ [] := by simp [Protocol.names]
  exact Json.isSome_bind
      (isSome_withDefault hr hprotocol (by simp) (named_readBy hprotocols) _) fun _ =>
    Json.isSome_bind (isSome_required hr hport (by simp) portNumber_readBy hpresent) fun _ =>
      Json.isSome_bind
        (isSome_optional hr hlast (by simp) (orNull_readBy portNumber_readBy)) fun _ => rfl

/-- A declared rule is read by its reader. -/
theorem RuleSpec.readBy_schema : RuleSpec.schema.ReadBy RuleSpec.ofJson? := by
  refine record_readBy rfl (fun _ => rfl) fun ms r hr _ h => ?_
  simp only [admitsMembers_cons, admitsMembers_nil, Bool.and_eq_true] at h
  obtain ⟨hname, haction, hflow, htargets, hsources, hdestinations, hports, -⟩ := h
  have hactions : Action.specNames ≠ [] := by simp [Action.specNames]
  have hflows : Flow.names ≠ [] := by simp [Flow.names]
  refine Json.isSome_bind (isSome_optional hr hname (by simp) (orNull_readBy plainText_readBy))
    fun _ => ?_
  refine Json.isSome_bind (isSome_withDefault hr haction (by simp) (named_readBy hactions) _)
    fun _ => ?_
  refine Json.isSome_bind (isSome_withDefault hr hflow (by simp) (named_readBy hflows) _)
    fun _ => ?_
  refine Json.isSome_bind
    (isSome_withDefault hr htargets (by simp) (listOf_readBy Target.readBy_schema) _) fun _ => ?_
  refine Json.isSome_bind
    (isSome_withDefault hr hsources (by simp) (listOf_readBy Peer.readBy_schema) _) fun _ => ?_
  refine Json.isSome_bind
    (isSome_withDefault hr hdestinations (by simp) (listOf_readBy Peer.readBy_schema) _)
    fun _ => ?_
  exact Json.isSome_bind
    (isSome_withDefault hr hports (by simp) (listOf_readBy Port.readBy_schema) _) fun _ => rfl

/-- The specification of a resource is read by its reader. -/
theorem Spec.readBy_schema : Spec.schema.ReadBy Spec.ofJson? := by
  refine record_readBy rfl (fun _ => rfl) fun ms r hr _ h => ?_
  simp only [admitsMembers_cons, admitsMembers_nil, Bool.and_eq_true] at h
  obtain ⟨hpriority, htargets, hrules, -⟩ := h
  exact Json.isSome_bind (isSome_withDefault hr hpriority (by simp) int32_readBy _) fun _ =>
    Json.isSome_bind
        (isSome_withDefault hr htargets (by simp) (listOf_readBy Target.readBy_schema) _) fun _ =>
      Json.isSome_bind
        (isSome_withDefault hr hrules (by simp) (listOf_readBy RuleSpec.readBy_schema) _)
        fun _ => rfl

end FirewallOperator
