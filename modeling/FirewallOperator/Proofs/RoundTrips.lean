import FirewallOperator.Proofs.Documents
import FirewallOperator.Proofs.Statuses
import FirewallOperator.Proofs.Texts

/-! # Objects are read back as they were written

Every type that is exchanged has a written form and a reader for it. For each of them: the reader
takes the written form back to what was written, and the written form is a tree that a text can hold.
`objects_readBack` puts the two together for the objects of the backend and the parts of a
resource. -/

namespace FirewallOperator

namespace Json

variable {α β : Type} {name : String} {ms : List (String × Json)} {names : List String}

/-! ## Records that are written -/

/-- A written object that names fields of a record in their order is read as these fields. -/
theorem record?_written (hn : names.Nodup) (h : (ms.map Prod.fst).Sublist names) :
    record? names (.obj ms) = some (fieldsOf ms) := by
  have hkept : ms.filter (fun m => names.contains m.1) = ms := by
    refine List.filter_eq_self.2 fun m hm => ?_
    exact List.contains_iff_mem.2 (h.subset (List.mem_map_of_mem hm))
  rw [record?_obj, hkept]
  exact ⟨hn.sublist h, rfl⟩

/-- A step that succeeds, and then the rest, which succeeds with what the step gave. -/
theorem bind_of_eq {x : Option α} {next : α → Option β} {a : α} {b : β} (hx : x = some a)
    (hnext : next a = some b) : (x >>= next) = some b := by
  subst hx
  exact hnext

section Fields

variable {decode : Json → Option α} {encode : α → Json} {j : Json} {x : α}

/-- A required value is found if it was written. -/
theorem required_written (h : ms.lookup name = some j) (hd : decode j = some x) :
    (fieldsOf ms).required name decode = some x := by
  show (ms.lookup name).bind decode = some x
  rw [h, Option.bind_some, hd]

/-- The default of a value is not used if the value was written. -/
theorem withDefault_written {default : α} (h : ms.lookup name = some j) (hd : decode j = some x) :
    (fieldsOf ms).withDefault name default decode = some x := by
  have hget : (fieldsOf ms).get? name = some j := h
  rw [Record.withDefault, hget]
  exact hd

/-- A text is found if it was written. -/
theorem text_written {s : String} (h : ms.lookup name = some (.str s)) :
    (fieldsOf ms).text name = some s := withDefault_written h rfl

/-- A list is found if it was written, item by item. -/
theorem list_written {xs : List α} (hd : ∀ x ∈ xs, decode (encode x) = some x)
    (h : ms.lookup name = some (ofList encode xs)) :
    (fieldsOf ms).list name decode = some xs := withDefault_written h (asList?_ofList_of_mem hd)

/-- A list of texts is found if it was written. -/
theorem texts_written {xs : List String} (h : ms.lookup name = some (ofList .str xs)) :
    (fieldsOf ms).list name asText? = some xs := list_written (fun _ _ => rfl) h

/-- A list of tags is found if it was written. -/
theorem tags_written {ts : List Tag} (h : ms.lookup name = some (ofList Tag.toJson ts)) :
    (fieldsOf ms).list name Tag.ofJson? = some ts := list_written (fun t _ => t.ofJson?_toJson) h

/-- A value that is left out when there is none. -/
theorem optional_written (hd : ∀ x, (encode x).nullable? decode = some (some x)) {o : Option α}
    (h : ms.lookup name = o.map encode) : (fieldsOf ms).optional name decode = some o := by
  have hget : (fieldsOf ms).get? name = o.map encode := h
  rw [Record.optional, hget]
  cases o with
  | none => rfl
  | some x => exact hd x

/-- A list that is left out when it is empty. -/
theorem list_writtenIfAny {xs : List α} (hd : ∀ x ∈ xs, decode (encode x) = some x)
    (h : ms.lookup name = if xs ≠ [] then some (ofList encode xs) else none) :
    (fieldsOf ms).list name decode = some xs := by
  by_cases hxs : xs = []
  · have hget : (fieldsOf ms).get? name = none := h.trans (if_neg (not_not_intro hxs))
    rw [Record.list, Record.withDefault, hget, hxs]
  · exact list_written hd (h.trans (if_pos hxs))

end Fields

/-! ## Trees that a text can hold -/

variable {depth : Nat}

/-- The items of an array are readable if each of them is. -/
theorem readableItems_eq_all (xs : List Json) : readableItems xs = xs.all readable := by
  induction xs with
  | nil => rfl
  | cons x rest ih => rw [readableItems, List.all_cons, ih]

/-- The members of an object are readable if each of them is. -/
theorem readableMembers_eq_all (ms : List (String × Json)) :
    readableMembers ms = ms.all (·.2.readable) := by
  induction ms with
  | nil => rfl
  | cons m rest ih => rw [readableMembers, List.all_cons, ih]

/-- What a text can hold is readable in all its parts. -/
theorem Holdable.readable {j : Json} (h : Holdable depth j) : j.readable = true := by
  induction h with
  | null | bool | int | str => rw [Json.readable] <;> nofun
  | arr _ ih =>
    rw [Json.readable, readableItems_eq_all]
    exact List.all_eq_true.2 ih
  | obj _ ih =>
    rw [Json.readable, readableMembers_eq_all]
    exact List.all_eq_true.2 ih

/-- A text can hold a list one level below what it can hold the items at. -/
theorem holdable_ofList {encode : α → Json} {xs : List α}
    (h : ∀ x ∈ xs, Holdable depth (encode x)) : Holdable (depth + 1) (ofList encode xs) := by
  refine .arr fun j hj => ?_
  obtain ⟨x, hx, rfl⟩ := List.mem_map.1 hj
  exact h x hx

/-- A text can hold a list of texts. -/
theorem holdable_texts (xs : List String) : Holdable (depth + 1) (ofList .str xs) :=
  holdable_ofList fun _ _ => .str _

/-- A text can hold a whole number of 64 bits with a sign. -/
theorem holdable_int {n : Int} (hlow : -0x8000000000000000 ≤ n) (hhigh : n < 0x8000000000000000) :
    Holdable depth (.int n) := by
  refine .int hlow ?_
  show n ≤ (0xffffffffffffffff : Nat)
  omega

/-- A text can hold every number of 64 bits. -/
theorem holdable_ofInt64 (n : Int64) : Holdable depth (ofInt64 n) :=
  holdable_int n.le_toInt n.toInt_lt

/-- A text can hold every number of 32 bits. -/
theorem holdable_ofInt32 (n : Int32) : Holdable depth (ofInt32 n) := by
  have hlow := n.le_toInt
  have hhigh := n.toInt_lt
  exact holdable_int (by omega) (by omega)

/-- A text can hold every number of 16 bits without a sign. -/
theorem holdable_ofUInt16 (n : UInt16) : Holdable depth (ofUInt16 n) := by
  have hhigh := n.toNat_lt
  exact holdable_int (by omega) (by omega)

/-- A member that may be left out is holdable if its value is. -/
theorem holdable_memberIfSome {encode : α → Json} (h : ∀ x, Holdable depth (encode x))
    (o : Option α) : ∀ m ∈ memberIfSome name encode o, Holdable depth m.2 := by
  cases o with
  | none => nofun
  | some x =>
    rintro m ⟨⟩
    · exact h x
    · contradiction

/-- A list that may be left out is holdable if its items are, one level below. -/
theorem holdable_memberIfAny {encode : α → Json} {xs : List α}
    (h : ∀ x ∈ xs, Holdable depth (encode x)) :
    ∀ m ∈ memberIfAny name encode xs, Holdable (depth + 1) m.2 := by
  cases xs with
  | nil => nofun
  | cons x rest =>
    rintro m ⟨⟩
    · exact holdable_ofList h
    · contradiction

end Json

open Json

/-! ## Objects of the backend -/

section Backend

variable {depth : Nat}

/-- A text can hold a tag. -/
theorem Tag.holdable (t : Tag) : Holdable (depth + 1) t.toJson := by
  refine .obj ?_
  simp [Holdable.str]

/-- A text can hold the ports of a rule, which have lists in them. -/
theorem ServiceEntry.holdable (s : ServiceEntry) : Holdable (depth + 2) s.toJson := by
  refine .obj ?_
  simp [Holdable.str, holdable_texts]

/-- A text can hold a rule, with its ports and tags. -/
theorem Rule.holdable (r : Rule) : Holdable (depth + 4) r.toJson := by
  refine .obj (List.forall_mem_append.2 ⟨?_, holdable_memberIfSome holdable_ofInt64 _⟩)
  simp [Holdable.str, Holdable.bool, holdable_ofInt64, holdable_ofList, Tag.holdable,
    ServiceEntry.holdable]

/-- A text can hold a policy, with its rules. -/
theorem Policy.holdable (p : Policy) : Holdable (depth + 6) p.toJson := by
  refine .obj (List.forall_mem_append.2 ⟨?_, holdable_memberIfSome holdable_ofInt64 _⟩)
  simp [Holdable.str, Holdable.bool, holdable_ofInt64, holdable_ofList, Tag.holdable, Rule.holdable]

/-- A text can hold a term of an expression. -/
theorem Term.holdable (t : Term) : Holdable (depth + 1) t.toJson := by
  cases t <;> refine .obj ?_ <;> simp [Holdable.str]

/-- A text can hold a group, with its expression. -/
theorem Group.holdable (g : Group) : Holdable (depth + 3) g.toJson := by
  refine .obj (List.forall_mem_append.2 ⟨?_, holdable_memberIfSome holdable_ofInt64 _⟩)
  simp [Holdable.str, Holdable.bool, holdable_ofList, Tag.holdable, Term.holdable]

/-- A text can hold a child of a domain, whatever it is. -/
theorem Child.holdable (c : Child) : Holdable (depth + 7) c.toJson := by
  cases c <;> refine .obj ?_ <;>
    simp [Holdable.str, Holdable.bool, Group.holdable, Policy.holdable]

/-- A text can hold a domain, with its children. -/
theorem Domain.holdable (d : Domain) : Holdable (depth + 9) d.toJson := by
  refine .obj ?_
  simp [Holdable.str, holdable_ofList, Child.holdable]

/-- A text can hold the entry of a domain. -/
theorem DomainEntry.holdable (e : DomainEntry) : Holdable (depth + 10) e.toJson := by
  refine .obj ?_
  simp [Holdable.str, Holdable.bool, Domain.holdable]

/-- A text can hold a patch. -/
theorem Patch.holdable (p : Patch) : Holdable (depth + 12) p.toJson := by
  refine .obj ?_
  simp [Holdable.str, holdable_ofList, DomainEntry.holdable]

end Backend


/-- The ports of a rule are read back. -/
theorem ServiceEntry.ofJson?_toJson (s : ServiceEntry) : ofJson? s.toJson = some s := by
  refine bind_of_eq (record?_written (by decide) (.refl _)) ?_
  refine bind_of_eq (required_written rfl rfl) ?_
  refine bind_of_eq (withDefault_written rfl rfl) ?_
  refine bind_of_eq (required_written rfl rfl) ?_
  exact bind_of_eq (texts_written rfl) rfl

/-- A rule is read back, however the names of variants are given. -/
theorem Rule.decode?_toJson (naming : Naming) (r : Rule) : decode? naming r.toJson = some r := by
  refine bind_of_eq (record?_written (by decide) ?_) ?_
  · rw [List.map_append]
    exact (List.Sublist.refl _).append (names_memberIfSome _ _)
  refine bind_of_eq (required_written rfl rfl) ?_
  refine bind_of_eq (text_written rfl) ?_
  refine bind_of_eq (withDefault_written rfl rfl) ?_
  have hdirection : naming.value? Direction.names (.str r.direction.name) = some r.direction := by
    cases r.direction <;> rfl
  refine bind_of_eq (withDefault_written rfl hdirection) ?_
  have haction : naming.value? Action.names (.str r.action.name) = some r.action := by
    cases r.action <;> rfl
  refine bind_of_eq (withDefault_written rfl haction) ?_
  refine bind_of_eq (texts_written rfl) ?_
  refine bind_of_eq (texts_written rfl) ?_
  refine bind_of_eq (list_written (fun s _ => s.ofJson?_toJson) rfl) ?_
  refine bind_of_eq (texts_written rfl) ?_
  refine bind_of_eq (withDefault_written rfl (asInt64?_ofInt64 _)) ?_
  refine bind_of_eq (tags_written rfl) ?_
  refine bind_of_eq (withDefault_written rfl rfl) ?_
  exact bind_of_eq (optional_written nullable?_ofInt64 (lookup_memberIfSome _ _)) rfl

/-- A policy is read back, with its rules. -/
theorem Policy.decode?_toJson (naming : Naming) (p : Policy) : decode? naming p.toJson = some p := by
  refine bind_of_eq (record?_written (by decide) ?_) ?_
  · rw [List.map_append]
    exact (List.Sublist.refl _).append (names_memberIfSome _ _)
  refine bind_of_eq (required_written rfl rfl) ?_
  refine bind_of_eq (text_written rfl) ?_
  refine bind_of_eq (withDefault_written rfl rfl) ?_
  refine bind_of_eq (texts_written rfl) ?_
  refine bind_of_eq (withDefault_written rfl (asInt64?_ofInt64 _)) ?_
  refine bind_of_eq (list_written (fun r _ => r.decode?_toJson naming) rfl) ?_
  refine bind_of_eq (tags_written rfl) ?_
  refine bind_of_eq (withDefault_written rfl rfl) ?_
  exact bind_of_eq (optional_written nullable?_ofInt64 (lookup_memberIfSome _ _)) rfl

/-- A term of an expression is read back. -/
theorem Term.decode?_toJson (naming : Naming) (t : Term) : decode? naming t.toJson = some t := by
  cases t <;> cases naming <;> rfl

/-- A group is read back, with its expression. -/
theorem Group.decode?_toJson (naming : Naming) (g : Group) : decode? naming g.toJson = some g := by
  refine bind_of_eq (record?_written (by decide) ?_) ?_
  · rw [List.map_append]
    exact (List.Sublist.refl _).append (names_memberIfSome _ _)
  refine bind_of_eq (required_written rfl rfl) ?_
  refine bind_of_eq (text_written rfl) ?_
  refine bind_of_eq (withDefault_written rfl rfl) ?_
  refine bind_of_eq (list_written (fun t _ => t.decode?_toJson naming) rfl) ?_
  refine bind_of_eq (tags_written rfl) ?_
  refine bind_of_eq (withDefault_written rfl rfl) ?_
  exact bind_of_eq (optional_written nullable?_ofInt64 (lookup_memberIfSome _ _)) rfl

/-- What is inside a child is looked through before the child is read, so all of it has to be
readable. -/
theorem Child.ofJson?_toJson (c : Child) : ofJson? c.toJson = some c := by
  have hholdable : Holdable (0 + 7) c.toJson := c.holdable
  have hreadable : c.toJson.readable = true := hholdable.readable
  cases c with
  | group marked g =>
    have hvariant : variant? .strictly variants (toJson (.group marked g)) = some ("ChildGroup",
        fieldsOf [("marked_for_delete", .bool marked), ("Group", g.toJson)]) := by
      unfold variant?
      rw [hreadable]
      rfl
    refine bind_of_eq hvariant (bind_of_eq (required_written rfl rfl) ?_)
    exact bind_of_eq (required_written rfl (g.decode?_toJson .loosely)) rfl
  | policy marked p =>
    have hvariant : variant? .strictly variants (toJson (.policy marked p)) =
        some ("ChildSecurityPolicy",
          fieldsOf [("marked_for_delete", .bool marked), ("SecurityPolicy", p.toJson)]) := by
      unfold variant?
      rw [hreadable]
      rfl
    refine bind_of_eq hvariant (bind_of_eq (required_written rfl rfl) ?_)
    exact bind_of_eq (required_written rfl (p.decode?_toJson .loosely)) rfl

/-- A domain is read back, with its children. -/
theorem Domain.ofJson?_toJson (d : Domain) : ofJson? d.toJson = some d := by
  refine bind_of_eq (record?_written (by decide) (.refl _)) ?_
  refine bind_of_eq (required_written rfl rfl) ?_
  refine bind_of_eq (required_written rfl rfl) ?_
  exact bind_of_eq (required_written rfl (asList?_ofList Child.ofJson?_toJson _)) rfl

/-- The entry of a domain is read back. -/
theorem DomainEntry.ofJson?_toJson (e : DomainEntry) : ofJson? e.toJson = some e := by
  refine bind_of_eq (record?_written (by decide) (.refl _)) ?_
  refine bind_of_eq (required_written rfl rfl) ?_
  refine bind_of_eq (required_written rfl rfl) ?_
  exact bind_of_eq (required_written rfl e.domain.ofJson?_toJson) rfl

/-- A patch is read back. -/
theorem Patch.ofJson?_toJson (p : Patch) : ofJson? p.toJson = some p := by
  refine bind_of_eq (record?_written (by decide) (.refl _)) ?_
  refine bind_of_eq (required_written rfl rfl) ?_
  exact bind_of_eq (required_written rfl (asList?_ofList DomainEntry.ofJson?_toJson _)) rfl

/-! ## Parts of a resource -/

/-- Labels are read back. -/
theorem Labels.ofJson?_toJson (ls : Labels) : ofJson? ls.toJson = some ls := by
  have hmembers : (ls.entries.map fun e => (e.1, Json.str e.2)).mapM
      (fun m : String × Json => m.2.asText?.map (m.1, ·)) = some ls.entries := by
    induction ls.entries with
    | nil => rfl
    | cons e rest ih => simp [ih]
  have hnodup : (ls.entries.map Prod.fst).Nodup :=
    ls.keys_ordered.imp fun hlt => String.ne_of_lt hlt
  have hentries : SortedMap.ofList ls.entries = ls := by
    refine SortedMap.ext_get? fun k => Option.ext fun v => ?_
    rw [← SortedMap.mem_entries_iff, SortedMap.mem_entries_ofList hnodup,
      SortedMap.mem_entries_iff]
  exact bind_of_eq hmembers (congrArg some hentries)

/-- Labels where there may be none are read back. -/
theorem nullable?_labels (ls : Labels) :
    ls.toJson.nullable? Labels.ofJson? = some (some ls) := by
  show (Labels.ofJson? ls.toJson).map some = some (some ls)
  rw [Labels.ofJson?_toJson, Option.map_some]

/-- A target of a policy is read back. -/
theorem Target.ofJson?_toJson (t : Target) : ofJson? t.toJson = some t := by
  refine bind_of_eq (record?_written (by decide) ?_) ?_
  · rw [List.map_append]
    exact (names_memberIfSome _ _).append (names_memberIfSome _ _)
  refine bind_of_eq (optional_written (o := t.pods) nullable?_labels
    (by simp [lookup_memberIfSome, List.lookup_append])) ?_
  exact bind_of_eq (optional_written (o := t.machines) nullable?_labels
    (by simp [lookup_memberIfSome, List.lookup_append])) rfl

/-- A peer of a rule is read back. -/
theorem Peer.ofJson?_toJson (p : Peer) : ofJson? p.toJson = some p := by
  refine bind_of_eq (record?_written (by decide) ?_) ?_
  · simp only [List.map_append]
    exact ((names_memberIfSome _ _).append (names_memberIfSome _ _)).append
      (names_memberIfSome _ _)
  refine bind_of_eq (optional_written (o := p.pods) nullable?_labels
    (by simp [lookup_memberIfSome, List.lookup_append])) ?_
  refine bind_of_eq (optional_written (o := p.machines) nullable?_labels
    (by simp [lookup_memberIfSome, List.lookup_append])) ?_
  exact bind_of_eq (optional_written (o := p.namespaces) nullable?_labels
    (by simp [lookup_memberIfSome, List.lookup_append])) rfl

/-- A number where there may be none is read back. -/
theorem nullable?_ofUInt16 (n : UInt16) :
    (Json.ofUInt16 n).nullable? asUInt16? = some (some n) := by
  show (asUInt16? (Json.ofUInt16 n)).map some = some (some n)
  rw [asUInt16?_ofUInt16, Option.map_some]

/-- A port is read back, with the end of its range. -/
theorem Port.ofJson?_toJson (p : Port) : ofJson? p.toJson = some p := by
  refine bind_of_eq (record?_written (by decide) ?_) ?_
  · rw [List.map_append]
    exact (List.Sublist.refl _).append (names_memberIfSome _ _)
  have hprotocol : asNamed? Protocol.names (.str p.protocol.name) = some p.protocol := by
    cases p.protocol <;> rfl
  refine bind_of_eq (withDefault_written rfl hprotocol) ?_
  refine bind_of_eq (required_written rfl (asUInt16?_ofUInt16 p.port)) ?_
  exact bind_of_eq (optional_written nullable?_ofUInt16 (lookup_memberIfSome _ _)) rfl

/-- The members of a declared rule that is written. -/
theorem RuleSpec.lookup_members (r : RuleSpec) :
    r.toJson.membersOf.lookup "name" = r.name.map .str ∧
      r.toJson.membersOf.lookup "action" = some (.str r.action.specName) ∧
      r.toJson.membersOf.lookup "direction" = some (.str r.flow.name) ∧
      (r.toJson.membersOf.lookup "appliedTo" =
        if r.appliedTo ≠ [] then some (ofList Target.toJson r.appliedTo) else none) ∧
      (r.toJson.membersOf.lookup "sources" =
        if r.sources ≠ [] then some (ofList Peer.toJson r.sources) else none) ∧
      (r.toJson.membersOf.lookup "destinations" =
        if r.destinations ≠ [] then some (ofList Peer.toJson r.destinations) else none) ∧
      (r.toJson.membersOf.lookup "ports" =
        if r.ports ≠ [] then some (ofList Port.toJson r.ports) else none) := by
  simp [toJson, membersOf, List.lookup_append, lookup_memberIfSome, lookup_memberIfAny,
    SortedMap.lookup_cons_eq]

/-- A declared rule is read back. -/
theorem RuleSpec.ofJson?_toJson (r : RuleSpec) : ofJson? r.toJson = some r := by
  obtain ⟨hname, haction, hflow, htargets, hsources, hdestinations, hports⟩ := r.lookup_members
  refine bind_of_eq (@record?_written r.toJson.membersOf _ (by decide) ?_) ?_
  · simp only [toJson, membersOf, List.map_append]
    exact (((((names_memberIfSome _ _).append (.refl _)).append (names_memberIfAny _ _)).append
      (names_memberIfAny _ _)).append (names_memberIfAny _ _)).append (names_memberIfAny _ _)
  have hactions : asNamed? Action.specNames (.str r.action.specName) = some r.action := by
    cases r.action <;> rfl
  have hflows : asNamed? Flow.names (.str r.flow.name) = some r.flow := by cases r.flow <;> rfl
  refine bind_of_eq (optional_written nullable?_str hname) ?_
  refine bind_of_eq (withDefault_written haction hactions) ?_
  refine bind_of_eq (withDefault_written hflow hflows) ?_
  refine bind_of_eq (list_writtenIfAny (fun t _ => t.ofJson?_toJson) htargets) ?_
  refine bind_of_eq (list_writtenIfAny (fun p _ => p.ofJson?_toJson) hsources) ?_
  refine bind_of_eq (list_writtenIfAny (fun p _ => p.ofJson?_toJson) hdestinations) ?_
  exact bind_of_eq (list_writtenIfAny (fun p _ => p.ofJson?_toJson) hports) rfl

/-- The members of a spec that is written. -/
theorem Spec.lookup_members (s : Spec) :
    s.toJson.membersOf.lookup "priority" = some (ofInt32 s.priority) ∧
      (s.toJson.membersOf.lookup "appliedTo" =
        if s.appliedTo ≠ [] then some (ofList Target.toJson s.appliedTo) else none) ∧
      (s.toJson.membersOf.lookup "rules" =
        if s.rules ≠ [] then some (ofList RuleSpec.toJson s.rules) else none) := by
  simp [toJson, membersOf, List.lookup_append, lookup_memberIfAny, SortedMap.lookup_cons_eq]

/-- The specification of a resource is read back. -/
theorem Spec.ofJson?_toJson (s : Spec) : ofJson? s.toJson = some s := by
  obtain ⟨hpriority, htargets, hrules⟩ := s.lookup_members
  refine bind_of_eq (@record?_written s.toJson.membersOf _ (by decide) ?_) ?_
  · simp only [toJson, membersOf, List.map_append]
    exact ((List.Sublist.refl _).append (names_memberIfAny _ _)).append (names_memberIfAny _ _)
  refine bind_of_eq (withDefault_written hpriority (asInt32?_ofInt32 s.priority)) ?_
  refine bind_of_eq (list_writtenIfAny (fun t _ => t.ofJson?_toJson) htargets) ?_
  exact bind_of_eq (list_writtenIfAny (fun r _ => r.ofJson?_toJson) hrules) rfl

/-- A status is read back if its conditions are. -/
theorem Status.ofJson?_toJson {s : Status}
    (h : ∀ c ∈ s.conditions, Condition.ofJson? c.toJson = some c) : ofJson? s.toJson = some s := by
  obtain ⟨hphase, hmessage, hgeneration, hconditions⟩ := s.lookup_parts
  refine ofJson?_obj.2 ⟨?_, withDefault_written hphase s.phase.asNamed?_name,
    optional_written nullable?_str hmessage, optional_written nullable?_ofInt64 hgeneration,
    list_writtenIfAny h hconditions⟩
  exact s.nodup_parts.sublist (List.filter_sublist.map _)

section Resource

variable {depth : Nat}

/-- A text can hold labels. -/
theorem Labels.holdable (ls : Labels) : Holdable (depth + 1) ls.toJson := by
  refine .obj fun m hm => ?_
  obtain ⟨e, -, rfl⟩ := List.mem_map.1 hm
  exact .str e.2

/-- A text can hold a target of a policy. -/
theorem Target.holdable (t : Target) : Holdable (depth + 2) t.toJson :=
  .obj (List.forall_mem_append.2
    ⟨holdable_memberIfSome Labels.holdable _, holdable_memberIfSome Labels.holdable _⟩)

/-- A text can hold a peer of a rule. -/
theorem Peer.holdable (p : Peer) : Holdable (depth + 2) p.toJson :=
  .obj (List.forall_mem_append.2 ⟨List.forall_mem_append.2
    ⟨holdable_memberIfSome Labels.holdable _, holdable_memberIfSome Labels.holdable _⟩,
    holdable_memberIfSome Labels.holdable _⟩)

/-- A text can hold a port. -/
theorem Port.holdable (p : Port) : Holdable (depth + 1) p.toJson := by
  refine .obj (List.forall_mem_append.2 ⟨?_, holdable_memberIfSome holdable_ofUInt16 _⟩)
  simp [Holdable.str, holdable_ofUInt16]

/-- A text can hold a declared rule. -/
theorem RuleSpec.holdable (r : RuleSpec) : Holdable (depth + 4) r.toJson := by
  have htargets : ∀ t ∈ r.appliedTo, Holdable (depth + 2) t.toJson := fun t _ => t.holdable
  have hpeers : ∀ p : Peer, Holdable (depth + 2) p.toJson := Peer.holdable
  have hports : ∀ p ∈ r.ports, Holdable (depth + 2) p.toJson := fun p _ => p.holdable
  refine .obj (List.forall_mem_append.2 ⟨List.forall_mem_append.2 ⟨List.forall_mem_append.2
    ⟨List.forall_mem_append.2 ⟨List.forall_mem_append.2 ⟨holdable_memberIfSome .str _, ?_⟩,
    holdable_memberIfAny htargets⟩, holdable_memberIfAny fun p _ => hpeers p⟩,
    holdable_memberIfAny fun p _ => hpeers p⟩, holdable_memberIfAny hports⟩)
  simp [Holdable.str]

/-- A text can hold the specification of a resource. -/
theorem Spec.holdable (s : Spec) : Holdable (depth + 6) s.toJson := by
  have htargets : ∀ t ∈ s.appliedTo, Holdable (depth + 4) t.toJson := fun t _ => t.holdable
  have hrules : ∀ r ∈ s.rules, Holdable (depth + 4) r.toJson := fun r _ => r.holdable
  refine .obj (List.forall_mem_append.2 ⟨List.forall_mem_append.2
    ⟨?_, holdable_memberIfAny htargets⟩, holdable_memberIfAny hrules⟩)
  simp [holdable_ofInt32]

/-- A text can hold a condition. -/
theorem Condition.holdable (c : Condition) : Holdable (depth + 1) c.toJson := by
  refine .obj (List.forall_mem_append.2 ⟨List.forall_mem_append.2
    ⟨?_, holdable_memberIfSome holdable_ofInt64 _⟩, ?_⟩)
  · simp [Holdable.str]
  · simp [Timestamp.toJson, Holdable.str]

/-- A text can hold a status, with its conditions. -/
theorem Status.holdable (s : Status) : Holdable (depth + 3) s.toJson := by
  have hconditions : ∀ c ∈ s.conditions, Holdable (depth + 1) c.toJson := fun c _ => c.holdable
  refine .obj (List.forall_mem_append.2 ⟨List.forall_mem_append.2 ⟨List.forall_mem_append.2
    ⟨?_, holdable_memberIfSome .str _⟩, holdable_memberIfSome holdable_ofInt64 _⟩,
    holdable_memberIfAny hconditions⟩)
  simp [Holdable.str]

end Resource

/-! ## Round trips -/

/-- A value is read back from what it is written as, be that taken as a tree or as a text. -/
structure ReadBack {α : Type} (encode : α → Json) (decode : Json → Option α) (x : α) : Prop where
  tree : decode (encode x) = some x
  text : (Json.parseLoose (encode x).compact).bind decode = some x

/-- What is read back as a tree, and is no deeper than a text may be, is read back as a text. -/
theorem ReadBack.of_holdable {α : Type} {encode : α → Json} {decode : Json → Option α} {x : α}
    {levels : Nat} (htree : decode (encode x) = some x) (h : ∀ n, Holdable (n + levels) (encode x))
    (hlevels : 0 + levels ≤ maxDepth) : ReadBack encode decode x where
  tree := htree
  text := by rw [parseLoose_compact (h 0) hlevels, Option.bind_some, htree]

/-- **Round trips.** The objects of the backend and the parts of a resource are read back as they
were written, a status if the times in it are. -/
theorem objects_readBack (p : Policy) (r : Rule) (g : Group) (patch : Patch) (spec : Spec)
    {s : Status}
    (htimes : ∀ c ∈ s.conditions, Timestamp.parse? c.time.text = some c.time) :
    ReadBack Policy.toJson Policy.ofJson? p ∧ ReadBack Rule.toJson Rule.ofJson? r ∧
      ReadBack Group.toJson Group.ofJson? g ∧ ReadBack Patch.toJson Patch.ofJson? patch ∧
      ReadBack Spec.toJson Spec.ofJson? spec ∧ ReadBack Status.toJson Status.ofJson? s :=
  ⟨.of_holdable (p.decode?_toJson .strictly) (fun _ => p.holdable) (by decide),
    .of_holdable (r.decode?_toJson .strictly) (fun _ => r.holdable) (by decide),
    .of_holdable (g.decode?_toJson .strictly) (fun _ => g.holdable) (by decide),
    .of_holdable patch.ofJson?_toJson (fun _ => patch.holdable) (by decide),
    .of_holdable spec.ofJson?_toJson (fun _ => spec.holdable) (by decide),
    .of_holdable (Status.ofJson?_toJson fun c hc => Condition.ofJson?_toJson_of_time (htimes c hc))
      (fun _ => s.holdable) (by decide)⟩

/-- A policy whose name has quotes and a control character, with a rule and a revision, and what is
reported when it has been realized. -/
theorem objects_readBack_ready :
    let rule : Rule := {
      id := "sp_u_0", services := [{ id := "tcp", protocol := "TCP", ports := ["80"] }] }
    let policy : Policy := {
      id := "sp_u", displayName := "\"\x01ü\"", rules := [rule], revision := some (-3) }
    let group : Group := { id := "sp_u_scope", expression := [.hasTag "SegmentPort" "app" "web"] }
    let spec : Spec := { appliedTo := [{ pods := some (.ofList [("app", "web")]) }], rules := [{}] }
    let condition : Condition := {
      type := "Ready", holds := .yes, reason := "Realized", message := ""
      time := ⟨⟨2024, 2, 29⟩, 12, 30, 0, 0⟩ }
    let status : Status := { phase := .ready, conditions := [condition] }
    (∀ c ∈ status.conditions, Timestamp.parse? c.time.text = some c.time) ∧
      ReadBack Policy.toJson Policy.ofJson? policy ∧ ReadBack Rule.toJson Rule.ofJson? rule ∧
      ReadBack Group.toJson Group.ofJson? group ∧
      ReadBack Patch.toJson Patch.ofJson? (Patch.wrap "default" policy [group]) ∧
      ReadBack Spec.toJson Spec.ofJson? spec ∧ ReadBack Status.toJson Status.ofJson? status := by
  intro rule policy group spec condition status
  have htimes : ∀ c ∈ status.conditions, Timestamp.parse? c.time.text = some c.time := by
    intro c hc
    rw [List.mem_singleton.1 hc]
    exact Timestamp.parse?_text ⟨rfl, by decide, by decide, by decide, by decide⟩
  exact ⟨htimes,
    objects_readBack policy rule group (Patch.wrap "default" policy [group]) spec htimes⟩

end FirewallOperator
