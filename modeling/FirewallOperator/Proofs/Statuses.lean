import FirewallOperator.Proofs.MergePatch
import FirewallOperator.Proofs.Times
import FirewallOperator.Resource.Codec

/-! # Statuses that are merged

What a resource shows as its status is read from the object that reports were merged into.
`Condition.ofJson?_toJson` is that a written condition is read back, and `Status.ofJson?_merged` is
what is read after a report: a message or a generation that the report leaves out stays as it
was. -/

namespace FirewallOperator

open Json (fieldsOf asNamed? asText? asInt64? record?_obj memberIfSome memberIfAny)

/-! ## Parts that are read back -/

/-- Whether a condition holds is read back from its name. -/
theorem Holds.asNamed?_name (h : Holds) : asNamed? Holds.names (.str h.name) = some h := by
  cases h <;> rfl

/-- A phase is read back from its name. -/
theorem Phase.asNamed?_name (p : Phase) : asNamed? Phase.names (.str p.name) = some p := by
  cases p <;> rfl

/-- A number where there may be none is read back. -/
theorem nullable?_ofInt64 (n : Int64) :
    (Json.ofInt64 n).nullable? asInt64? = some (some n) := by
  show (asInt64? (Json.ofInt64 n)).map some = some (some n)
  rw [Json.asInt64?_ofInt64, Option.map_some]

/-- A text where there may be none is read back. -/
theorem nullable?_str (s : String) : (Json.str s).nullable? asText? = some (some s) := rfl

/-- A written condition is read back if its time is. -/
theorem Condition.ofJson?_toJson_of_time {c : Condition}
    (h : Timestamp.parse? c.time.text = some c.time) : Condition.ofJson? c.toJson = some c := by
  obtain ⟨type, holds, reason, message, generation, time⟩ := c
  have htime : Timestamp.ofJson? time.toJson = some time := by
    rw [Timestamp.ofJson?, Timestamp.toJson, Json.asText?_str, Option.bind_some, h]
  rw [Condition.toJson]
  generalize time.toJson = written at htime ⊢
  cases generation with
  | none =>
    show (do
      let holds ← asNamed? Holds.names (.str holds.name)
      let time ← Timestamp.ofJson? written
      return (⟨type, holds, reason, message, none, time⟩ : Condition)) = _
    rw [Holds.asNamed?_name, htime]
    rfl
  | some n =>
    show (do
      let holds ← asNamed? Holds.names (.str holds.name)
      let generation ← (Json.ofInt64 n).nullable? asInt64?
      let time ← Timestamp.ofJson? written
      return (⟨type, holds, reason, message, generation, time⟩ : Condition)) = _
    rw [Holds.asNamed?_name, nullable?_ofInt64, htime]
    rfl

/-- A written condition is read back. -/
theorem Condition.ofJson?_toJson {c : Condition} (h : c.time.IsValid) :
    Condition.ofJson? c.toJson = some c :=
  ofJson?_toJson_of_time (Timestamp.parse?_text h)

/-! ## Statuses in objects -/

namespace Status

/-- The names of the parts of a status. -/
def partNames : List String := ["phase", "message", "observedGeneration", "conditions"]

/-- A status is read from an object part by part; none of the parts may occur twice. -/
theorem ofJson?_obj {ms : List (String × Json)} {s : Status} :
    Status.ofJson? (.obj ms) = some s ↔
      ((ms.filter fun m => partNames.contains m.1).map Prod.fst).Nodup ∧
        (fieldsOf ms).withDefault "phase" .pending (asNamed? Phase.names) = some s.phase ∧
        (fieldsOf ms).optional "message" asText? = some s.message ∧
        (fieldsOf ms).optional "observedGeneration" asInt64? = some s.observedGeneration ∧
        (fieldsOf ms).list "conditions" Condition.ofJson? = some s.conditions := by
  have hlist : ∀ r : Json.Record, r.list "conditions" Condition.ofJson? =
      r.withDefault "conditions" [] (Json.asList? Condition.ofJson?) := fun _ => rfl
  rw [ofJson?]
  simp only [Option.bind_eq_bind, Option.bind_eq_some_iff, Option.pure_def, Option.some.injEq]
  show (∃ r, (Json.obj ms).record? partNames = some r ∧ _) ↔ _
  simp only [record?_obj, hlist]
  constructor
  · rintro ⟨r, ⟨hnames, rfl⟩, phase, hphase, message, hmessage, generation, hgeneration,
      conditions, hconditions, rfl⟩
    rw [Json.withDefault_fields (by decide)] at hphase hconditions
    rw [Json.optional_fields (by decide)] at hmessage hgeneration
    exact ⟨hnames, hphase, hmessage, hgeneration, hconditions⟩
  · rintro ⟨hnames, hphase, hmessage, hgeneration, hconditions⟩
    refine ⟨_, ⟨hnames, rfl⟩, s.phase, ?_, s.message, ?_, s.observedGeneration, ?_,
      s.conditions, ?_, rfl⟩
    · rw [Json.withDefault_fields (by decide), hphase]
    · rw [Json.optional_fields (by decide), hmessage]
    · rw [Json.optional_fields (by decide), hgeneration]
    · rw [Json.withDefault_fields (by decide), hconditions]

/-- The parts of a status that are written. -/
def parts (s : Status) : List (String × Json) :=
  [("phase", .str s.phase.name)]
    ++ memberIfSome "message" .str s.message
    ++ memberIfSome "observedGeneration" Json.ofInt64 s.observedGeneration
    ++ memberIfAny "conditions" Condition.toJson s.conditions

/-- No part of a status is written twice. -/
theorem nodup_parts (s : Status) : (s.parts.map Prod.fst).Nodup := by
  have hsub : (s.parts.map Prod.fst).Sublist partNames := by
    simp only [parts, List.map_append]
    exact (((List.Sublist.refl ["phase"]).append (Json.names_memberIfSome _ _)).append
      (Json.names_memberIfSome _ _)).append (Json.names_memberIfAny _ _)
  exact hsub.nodup (by decide)

/-- The parts of a status are found under their names, as far as they are written. -/
theorem lookup_parts (s : Status) :
    s.parts.lookup "phase" = some (.str s.phase.name) ∧
      s.parts.lookup "message" = s.message.map .str ∧
      s.parts.lookup "observedGeneration" = s.observedGeneration.map Json.ofInt64 ∧
      s.parts.lookup "conditions" =
        if s.conditions ≠ [] then some (.ofList Condition.toJson s.conditions) else none := by
  simp [parts, List.lookup_append, Json.lookup_memberIfSome, Json.lookup_memberIfAny,
    SortedMap.lookup_cons_eq]

/-- **Merging a report.** A report that is merged into what was there is read back, with a message
and a generation from what was there where it has none itself. -/
theorem ofJson?_merged {s old : Status} {prev : List (String × Json)}
    (hprev : Status.ofJson? (.obj prev) = some old) (hs : s.conditions ≠ [])
    (htimes : ∀ c ∈ s.conditions, c.time.IsValid) :
    Status.ofJson? ((Json.obj prev).merged s.toJson) = some {
      phase := s.phase
      message := s.message.or old.message
      observedGeneration := s.observedGeneration.or old.observedGeneration
      conditions := s.conditions } := by
  obtain ⟨hnames, -, hmessage, hgeneration, -⟩ := ofJson?_obj.1 hprev
  obtain ⟨hp, hm, hg, hc⟩ := s.lookup_parts
  have hmerged : (Json.obj prev).merged s.toJson = .obj (Json.mergedMembers prev s.parts) := by
    show (Json.obj prev).merged (.obj s.parts) = _
    rw [Json.merged]
    rfl
  rw [hmerged, ofJson?_obj]
  refine ⟨Json.nodup_mergedMembers hnames, ?_, ?_, ?_, ?_⟩
  · rw [Json.withDefault_mergedMembers s.nodup_parts hp rfl fun _ => Json.merged_str _ _]
    exact s.phase.asNamed?_name
  · exact Json.optional_mergedMembers s.nodup_parts hm (fun _ _ => Json.merged_str _ _)
      (fun _ => rfl) nullable?_str hmessage
  · exact Json.optional_mergedMembers s.nodup_parts hg (fun _ _ => Json.merged_int _ _)
      (fun _ => rfl) nullable?_ofInt64 hgeneration
  · rw [if_pos hs] at hc
    rw [Json.Record.list,
      Json.withDefault_mergedMembers s.nodup_parts hc rfl fun _ => Json.merged_arr _ _]
    exact Json.asList?_ofList_of_mem fun c hcm => Condition.ofJson?_toJson (htimes c hcm)

end Status

end FirewallOperator
