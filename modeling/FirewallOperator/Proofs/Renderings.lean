import FirewallOperator.Cluster
import FirewallOperator.Proofs.Documents
import FirewallOperator.Proofs.Statuses

/-! # What is written is valid

The schemas of resources describe what this program writes itself: `Resource.isValidPart_written`.
A record is valid when all its members are described and valid and the required ones are among them
(`Schema.admits_record`), so each schema is checked against the members that are written, one by
one. -/

namespace FirewallOperator

open Json (memberIfSome memberIfAny)

namespace Schema

variable {α : Type} {s : Schema} {write : α → Json} {name : String}
  {members : List (String × Schema)} {ms : List (String × Json)}

/-- A schema describes a way of writing if all that is written is valid. -/
def Describes (s : Schema) (write : α → Json) : Prop := ∀ x, s.admits (write x)

/-- Descriptions cover members if all of these are described and valid. -/
def Covers (members : List (String × Schema)) (ms : List (String × Json)) : Prop :=
  ∀ m ∈ ms, ∃ s, members.lookup m.1 = some s ∧ s.admits m.2

/-- The members that a schema describes one by one. -/
def described : Schema → List (String × Schema)
  | .record _ members _ => members
  | _ => []

/-! ## Values -/

/-- A text is written as its schema describes. -/
theorem describes_plainText {description : String} {nullable : Bool} :
    Describes (plainText description nullable) Json.str :=
  fun s => by simp [plainText, admits]

/-- A choice of names is written as its schema describes, if all names that are written are among
them. -/
theorem describes_named {description : String} {names : List (String × α)}
    {default : Option String} {nameOf : α → String} (h : ∀ x, nameOf x ∈ names.map (·.1)) :
    Describes (named description names default) fun x => .str (nameOf x) :=
  fun x => by simp only [named, admits, Json.asText?_str, Option.any_some,
    List.contains_iff_mem.2 (h x), Bool.or_true]

/-- A number is written as its schema describes, if it is not less than the least. -/
theorem describes_whole {t : Traits} {least : Option Int} {valueOf : α → Int}
    (h : ∀ x, ∀ l ∈ least, l ≤ valueOf x) : Describes (whole t least) fun x => .int (valueOf x) :=
  fun x => by
    cases least with
    | none => simp [admits, Json.whole?]
    | some l => simp [admits, Json.whole?, h x l rfl]

/-- A number of 64 bits is written as its schema describes. -/
theorem describes_number {description format : String} {nullable : Bool} :
    Describes (number description format nullable) Json.ofInt64 :=
  describes_whole fun _ _ h => nomatch h

/-- A port number is written as its schema describes. -/
theorem describes_portNumber {description : String} {nullable : Bool} :
    Describes (portNumber description nullable) Json.ofUInt16 := by
  have hleast : ∀ p : UInt16, ∀ l ∈ some 0, l ≤ (p.toNat : Int) := by
    rintro p l hl
    obtain rfl : 0 = l := Option.some.inj hl
    exact Int.natCast_nonneg _
  exact describes_whole hleast

/-- A list is written as its schema describes, if its items are. -/
theorem describes_list {description : String} {item : Schema} (h : Describes item write) :
    Describes (listOf description item) (Json.ofList write) :=
  fun xs => by simp [listOf, admits, Json.ofList, h _]

/-- Labels are written as their schema describes. -/
theorem describes_labels {description : String} : Describes (labels description) Labels.toJson :=
  fun ls => by simp [labels, admits, Labels.toJson]

/-! ## Members -/

/-- Two rows of members are covered if both are. -/
theorem covers_append {ms' : List (String × Json)} (h : Covers members ms)
    (h' : Covers members ms') : Covers members (ms ++ ms') := by
  intro m hm
  rcases List.mem_append.1 hm with hm | hm
  · exact h m hm
  · exact h' m hm

/-- Members are covered if the first one is described and valid, and the others are covered. -/
theorem covers_cons {m : String × Json} (hname : members.lookup m.1 = some s) (hs : s.admits m.2)
    (h : Covers members ms) : Covers members (m :: ms) := by
  intro m' hm
  rcases List.mem_cons.1 hm with rfl | hm
  · exact ⟨s, hname, hs⟩
  · exact h m' hm

/-- No members are covered by any descriptions. -/
theorem covers_nil : Covers members [] := fun _ hm => nomatch hm

/-- A member that may be left out is covered if it is described as it is written. -/
theorem covers_memberIfSome (hname : members.lookup name = some s) (h : Describes s write)
    (value : Option α) : Covers members (memberIfSome name write value) := by
  cases value with
  | none => exact covers_nil
  | some x => exact covers_cons hname (h x) covers_nil

/-- A list that may be left out is covered if its items are described as they are written. -/
theorem covers_memberIfAny {description : String}
    (hname : members.lookup name = some (listOf description s)) (h : Describes s write)
    (xs : List α) : Covers members (memberIfAny name write xs) := by
  cases xs with
  | nil => exact covers_nil
  | cons x rest => exact covers_cons hname (describes_list h (x :: rest)) covers_nil

/-- A member is described once. -/
theorem eq_of_lookup {m : String × Schema} (hnames : (members.map Prod.fst).Nodup)
    (hm : m ∈ members) (h : members.lookup m.1 = some s) : m.2 = s := by
  rw [(SortedMap.lookup_eq_some_iff_mem hnames).2 hm] at h
  exact Option.some.inj h

/-- A record is valid if its members are described and valid and the required ones are there. -/
theorem admits_record {t : Traits} {required : List String}
    (hnames : (members.map Prod.fst).Nodup) (h : Covers members ms)
    (hrequired : ∀ n ∈ required, n ∈ ms.map Prod.fst) :
    (record t members required).admits (.obj ms) := by
  have hpresent : ∀ n ∈ required, ((Json.obj ms).member? n).isSome := by
    intro n hn
    show (ms.reverse.lookup n).isSome
    rw [List.lookup_isSome_iff]
    obtain ⟨m, hm, rfl⟩ := List.mem_map.1 (hrequired n hn)
    exact ⟨m, List.mem_reverse.2 hm, beq_self_eq_true _⟩
  have hvalid : ∀ m ∈ members, ((Json.obj ms).member? m.1).all fun v => m.2.admits v := by
    intro m hm
    rw [Option.all_eq_true]
    intro v hv
    obtain ⟨s, hs, hadm⟩ := h _ (Json.mem_of_member? hv)
    rwa [eq_of_lookup hnames hm hs]
  rw [admits_obj, admitsMembers_eq_all, Bool.and_eq_true, List.all_eq_true, List.all_eq_true]
  exact ⟨hpresent, hvalid⟩

/-! ## Changes -/

/-- Whether no valid value has members, so that a change takes the place of all there was. -/
def isFlat : Schema → Bool
  | .text _ _ | .whole _ _ | .list _ _ => true
  | .table _ _ | .record _ _ _ => false

/-- A change of a value without members takes the place of all there was. -/
theorem merged_of_isFlat (hflat : s.isFlat) {change : Json} (h : s.admits change)
    (target : Json) : target.merged change = change := by
  cases change with
  | obj changes => cases s <;> simp_all [isFlat, admits, Json.isNull, Json.asText?, Json.whole?]
  | _ => simp [Json.merged]

/-- Members stay valid when a described one is replaced by a valid value. -/
theorem admitsMembers_replaced {value : Option Json} (hnames : (members.map Prod.fst).Nodup)
    (h : admitsMembers members (.obj ms)) (hname : members.lookup name = some s)
    (hvalue : ∀ v ∈ value, s.admits v) :
    admitsMembers members (.obj (Json.replaced name value ms)) := by
  rw [admitsMembers_eq_all, List.all_eq_true] at h ⊢
  intro m hm
  rw [Json.member?_replaced]
  split
  case isTrue hother =>
    rw [eq_of_lookup hnames hm (hother ▸ hname)]
    exact (Option.all_eq_true _ _).2 hvalue
  case isFalse => exact h m hm

/-- A change to members that are replaced as a whole keeps a record valid. -/
theorem admitsMembers_mergedMembers {changes : List (String × Json)}
    (hnames : (members.map Prod.fst).Nodup) (hflat : ∀ m ∈ members, m.2.isFlat)
    (hms : admitsMembers members (.obj ms)) (h : Covers members changes) :
    admitsMembers members (.obj (Json.mergedMembers ms changes)) := by
  induction changes generalizing ms with
  | nil => rwa [Json.mergedMembers]
  | cons c rest ih =>
    obtain ⟨s, hname, hs⟩ := h c List.mem_cons_self
    have hflat := hflat _ ((SortedMap.lookup_eq_some_iff_mem hnames).1 hname)
    rw [Json.mergedMembers]
    refine ih (admitsMembers_replaced hnames hms hname fun v hv => ?_)
      fun m hm => h m (List.mem_cons_of_mem _ hm)
    rw [merged_of_isFlat hflat hs] at hv
    split at hv
    case isTrue => cases hv
    case isFalse => exact Option.some.inj hv ▸ hs

end Schema

open Schema

/-! ## What is declared -/

/-- A target of a policy is written as its schema describes. -/
theorem Target.describes_schema : Describes Target.schema Target.toJson := fun t =>
  admits_record (by decide)
    (covers_append (covers_memberIfSome rfl describes_labels t.pods)
      (covers_memberIfSome rfl describes_labels t.machines))
    (by simp)

/-- A peer of a rule is written as its schema describes. -/
theorem Peer.describes_schema : Describes Peer.schema Peer.toJson := fun p =>
  admits_record (by decide)
    (covers_append
      (covers_append (covers_memberIfSome rfl describes_labels p.pods)
        (covers_memberIfSome rfl describes_labels p.machines))
      (covers_memberIfSome rfl describes_labels p.namespaces))
    (by simp)

/-- A port is written as its schema describes. -/
theorem Port.describes_schema : Describes Port.schema Port.toJson := by
  intro p
  have hprotocol : ∀ x : Protocol, x.name ∈ Protocol.names.map (·.1) := by rintro (_ | _) <;> decide
  refine admits_record (by decide) ?_ (by simp)
  exact covers_append
    (covers_cons rfl (describes_named hprotocol p.protocol)
      (covers_cons rfl (describes_portNumber p.port) covers_nil))
    (covers_memberIfSome rfl describes_portNumber p.last)

/-- A declared rule is written as its schema describes. -/
theorem RuleSpec.describes_schema : Describes RuleSpec.schema RuleSpec.toJson := by
  intro r
  have haction : ∀ x : Action, x.specName ∈ Action.specNames.map (·.1) := by
    rintro (_ | _ | _) <;> decide
  have hflow : ∀ x : Flow, x.name ∈ Flow.names.map (·.1) := by rintro (_ | _) <;> decide
  refine admits_record (by decide) ?_ (by simp)
  refine covers_append (covers_append (covers_append (covers_append (covers_append ?_ ?_) ?_) ?_)
    ?_) ?_
  · exact covers_memberIfSome rfl describes_plainText r.name
  · exact covers_cons rfl (describes_named haction r.action)
      (covers_cons rfl (describes_named hflow r.flow) covers_nil)
  · exact covers_memberIfAny rfl Target.describes_schema r.appliedTo
  · exact covers_memberIfAny rfl Peer.describes_schema r.sources
  · exact covers_memberIfAny rfl Peer.describes_schema r.destinations
  · exact covers_memberIfAny rfl Port.describes_schema r.ports

/-- The specification of a resource is written as its schema describes. -/
theorem Spec.describes_schema : Describes Spec.schema Spec.toJson := by
  intro s
  refine admits_record (by decide) ?_ (by simp)
  refine covers_append (covers_append ?_ ?_) ?_
  · exact covers_cons rfl (describes_whole (by simp) s.priority) covers_nil
  · exact covers_memberIfAny rfl Target.describes_schema s.appliedTo
  · exact covers_memberIfAny rfl RuleSpec.describes_schema s.rules

/-! ## The status -/

/-- A condition is written as its schema describes. -/
theorem Condition.describes_schema : Describes Condition.schema Condition.toJson := by
  intro c
  have hholds : ∀ x : Holds, x.name ∈ Holds.names.map (·.1) := by rintro (_ | _ | _) <;> decide
  refine admits_record (by decide) ?_ (by simp)
  refine covers_append (covers_append ?_ ?_) ?_
  · exact covers_cons rfl (describes_plainText c.type)
      (covers_cons rfl (describes_named hholds c.holds)
        (covers_cons rfl (describes_plainText c.reason)
          (covers_cons rfl (describes_plainText c.message) covers_nil)))
  · exact covers_memberIfSome rfl describes_number c.observedGeneration
  · exact covers_cons rfl (by rfl) covers_nil

namespace Status

/-- The schema of a status covers all its parts. -/
theorem covers_parts (s : Status) : Covers schema.described s.parts := by
  have hphase : ∀ x : Phase, x.name ∈ Phase.names.map (·.1) := by rintro (_ | _ | _) <;> decide
  refine covers_append (covers_append (covers_append ?_ ?_) ?_) ?_
  · exact covers_cons rfl (describes_named hphase s.phase) covers_nil
  · exact covers_memberIfSome rfl describes_plainText s.message
  · exact covers_memberIfSome rfl describes_number s.observedGeneration
  · exact covers_memberIfAny rfl Condition.describes_schema s.conditions

/-- A status is written as its schema describes. -/
theorem describes_schema : Describes schema toJson := fun s =>
  admits_record (by decide) s.covers_parts (by simp)

/-- A status that is merged into a valid one leaves a valid one. -/
theorem admits_merged {prev : Json} (h : schema.admits prev) (s : Status) :
    schema.admits (prev.merged s.toJson) := by
  have hprev : admitsMembers schema.described (.obj prev.membersOf) := by
    -- what is no object is taken for one without members
    cases prev with
    | obj ms => exact (Bool.and_eq_true _ _ ▸ admits_obj ▸ h).2
    | _ => simp [admitsMembers_eq_all, Json.membersOf, Json.member?]
  have hmerged : prev.merged s.toJson = .obj (Json.mergedMembers prev.membersOf s.parts) := by
    show prev.merged (.obj s.parts) = _
    rw [Json.merged]
  rw [hmerged]
  exact admitsMembers_mergedMembers (by decide) (by decide) hprev s.covers_parts

end Status

/-! ## What the cluster checks -/

/-- **What is written is valid.** By the definition that is printed, every spec and every status
that is written is a valid part of a resource. So is what a report leaves in a resource whose status
was missing or valid. -/
theorem Resource.isValidPart_written (spec : Spec) (status : Status) :
    isValidPart "spec" spec.toJson ∧ isValidPart "status" status.toJson ∧
      ∀ ms : List (String × Json),
        (∀ prev, ms.lookup "status" = some prev → isValidPart "status" prev) →
          ∃ left, ((Json.obj ms).merged (Cluster.statusChange status)).membersOf.lookup "status" =
            some left ∧ isValidPart "status" left := by
  simp only [isValidPart_spec, isValidPart_status]
  refine ⟨Spec.describes_schema spec, Status.describes_schema status, fun ms hprev => ?_⟩
  refine ⟨((ms.lookup "status").getD .null).merged status.toJson, ?_, ?_⟩
  · show (((Json.obj ms).merged (.obj [("status", .obj status.parts)])).membersOf).lookup _ = _
    rw [Json.merged, Json.mergedMembers, Json.mergedMembers, Json.membersOf, Json.membersOf,
      Json.lookup_replaced]
    rfl
  · refine Status.admits_merged ?_ status
    cases hs : ms.lookup "status" with
    | none => rfl
    | some prev => exact hprev prev hs

/-- A status is merged into that of an earlier failure, whose message stays. -/
theorem Resource.isValidPart_written_over_report :
    let spec : Spec := { rules := [{ ports := [{ port := 80 }] }] }
    let status : Status := { phase := .ready, observedGeneration := some 2 }
    let ms := [("status", Json.obj [("phase", .str "Failed"), ("message", .str "no target")])]
    (∀ prev, ms.lookup "status" = some prev → isValidPart "status" prev) ∧
      isValidPart "spec" spec.toJson ∧ isValidPart "status" status.toJson ∧
        ∃ left, ((Json.obj ms).merged (Cluster.statusChange status)).membersOf.lookup "status" =
          some left ∧ isValidPart "status" left := by
  intro spec status ms
  have hprev : ∀ prev, ms.lookup "status" = some prev → isValidPart "status" prev := by
    rintro prev hms
    obtain rfl := Option.some.inj hms
    decide +kernel
  obtain ⟨hspec, hstatus, hleft⟩ := isValidPart_written spec status
  exact ⟨hprev, hspec, hstatus, hleft ms hprev⟩

end FirewallOperator
