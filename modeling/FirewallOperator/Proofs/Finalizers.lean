import FirewallOperator.Proofs.Exchanges
import FirewallOperator.Proofs.MergePatch

/-! # Edits of finalizers

Finalizers are edited in two requests: a look at the resource, and a change that writes the whole
list back. What others write between the two is not looked at again. `FinalizerEdit.sent_run` are
the requests of an edit, and `FinalizerEdit.run_keeps_others_iff` is when the finalizers of others
survive it. -/

namespace FirewallOperator

open Json (merged mergedMembers replaced record?_obj fieldsOf)

namespace Metadata

variable {α : Type} {name other : String} {value : Json} {ms : List (String × Json)}

/-- The occurrences of another member are those that there were. -/
theorem lastMember?_replaced (h : other ≠ name) (decode : Json → Option α) :
    lastMember? (replaced name (some value) ms) other decode = lastMember? ms other decode := by
  have hkept : (replaced name (some value) ms).filter (fun m => m.1 == other) =
      ms.filter fun m => m.1 == other := by
    have hnew : [(name, value)].filter (fun m => m.1 == other) = [] := by simp [Ne.symm h]
    have hold : ∀ m ∈ ms, ((decide (m.1 ≠ name)) && m.1 == other) = (m.1 == other) := by
      intro m _
      by_cases hm : m.1 = other <;> simp [hm, h]
    rw [replaced, List.filter_append, List.filter_filter, Option.toList_some, List.map_singleton,
      hnew, List.append_nil]
    exact List.filter_congr fun m hm => by rw [Bool.and_comm]; exact hold m hm
  rw [lastMember?, lastMember?, hkept]

/-- A member that was replaced occurs once. -/
theorem lastMember?_replaced_self {x : α} {decode : Json → Option α}
    (h : value.nullable? decode = some (some x)) :
    lastMember? (replaced name (some value) ms) name decode = some (some x) := by
  have hkept : (replaced name (some value) ms).filter (fun m => m.1 == name) = [(name, value)] := by
    rw [replaced, List.filter_append, List.filter_filter]
    simp
  rw [lastMember?, hkept]
  simp [h]

/-- Metadata whose finalizers were replaced reads as before but for these. -/
theorem ofJson?_replaced {m : Metadata} (h : ofJson? (.obj ms) = some m) (fs : List String) :
    ofJson? (.obj (replaced "finalizers" (some (.ofList .str fs)) ms)) =
      some { m with finalizers := fs } := by
  have hself : lastMember? (replaced "finalizers" (some (.ofList .str fs)) ms) "finalizers"
      (Json.asList? Json.asText?) = some (some fs) := by
    apply lastMember?_replaced_self
    show ((Json.ofList Json.str fs).asList? Json.asText?).map some = _
    rw [Json.asList?_ofList Json.asText?_str]
    rfl
  simp only [ofJson?, hself] at h ⊢
  simp (disch := decide) only [lastMember?_replaced, List.forIn_cons, List.forIn_nil] at h ⊢
  simp only [Option.bind_eq_bind, Option.pure_def, Option.bind_eq_some_iff, Option.some.injEq,
    exists_eq_left'] at h ⊢
  -- what is left out is the read of the finalizers, the only one that sees the change
  obtain ⟨_, h₁, _, h₂, _, h₃, _, h₄, _, h₅, _, h₆, _, h₇, _, h₈, _, h₉, _, h₁₀, _, h₁₁, -, -, _,
    h₁₂, rfl⟩ := h
  exact ⟨_, h₁, _, h₂, _, h₃, _, h₄, _, h₅, _, h₆, _, h₇, _, h₈, _, h₉, _, h₁₀, _, h₁₁, _, h₁₂, rfl⟩

end Metadata

namespace Resource

/-- The names of the parts of a resource that are read. -/
def partNames : List String := ["metadata", "spec", "status"]

/-- A resource is read from an object part by part; none of the parts may occur twice. -/
theorem ofJson?_obj {ms : List (String × Json)} {r : Resource} :
    Resource.ofJson? (.obj ms) = some r ↔
      ((ms.filter fun m => partNames.contains m.1).map Prod.fst).Nodup ∧
        (fieldsOf ms).required "metadata" Metadata.ofJson? = some r.metadata ∧
        (fieldsOf ms).required "spec" Spec.ofJson? = some r.spec ∧
        (fieldsOf ms).optional "status" Status.ofJson? = some r.status := by
  rw [ofJson?]
  simp only [Option.bind_eq_bind, Option.bind_eq_some_iff, Option.pure_def]
  show (∃ r, (Json.obj ms).record? partNames = some r ∧ _) ↔ _
  simp only [record?_obj]
  constructor
  · rintro ⟨_, ⟨hnames, rfl⟩, h⟩
    -- an object is no array, so the status may be missing
    simp only [Bool.false_eq_true, if_false, Option.bind_eq_some_iff, Option.some.injEq] at h
    obtain ⟨status, hstatus, metadata, hmetadata, spec, hspec, rfl⟩ := h
    rw [Json.required_fields (by decide)] at hmetadata hspec
    rw [Json.optional_fields (by decide)] at hstatus
    exact ⟨hnames, hmetadata, hspec, hstatus⟩
  · rintro ⟨hnames, hmetadata, hspec, hstatus⟩
    refine ⟨_, ⟨hnames, rfl⟩, ?_⟩
    simp only [Bool.false_eq_true, if_false, Option.bind_eq_some_iff, Option.some.injEq]
    refine ⟨r.status, ?_, r.metadata, ?_, r.spec, ?_, rfl⟩
    · rw [Json.optional_fields (by decide), hstatus]
    · rw [Json.required_fields (by decide), hmetadata]
    · rw [Json.required_fields (by decide), hspec]

/-- A resource with other finalizers. -/
def withFinalizers (r : Resource) (fs : List String) : Resource :=
  { r with metadata := { r.metadata with finalizers := fs } }

/-- **A change of the finalizers.** What it was merged into reads as before, but for its
finalizers. -/
theorem ofJson?_merged {ms : List (String × Json)} {r : Resource}
    (h : Resource.ofJson? (.obj ms) = some r) (fs : List String) :
    Resource.ofJson? ((Json.obj ms).merged (Cluster.finalizersChange fs)) =
      some (r.withFinalizers fs) := by
  obtain ⟨hnames, hmetadata, hspec, hstatus⟩ := ofJson?_obj.1 h
  obtain ⟨j, hj, hm⟩ := Option.bind_eq_some_iff.1 hmetadata
  cases j with
  | obj mm =>
    -- only the metadata is another object than before
    let changed := Json.obj (replaced "finalizers" (some (.ofList .str fs)) mm)
    have hmerged : (Json.obj ms).merged (Cluster.finalizersChange fs) =
        .obj (replaced "metadata" (some changed) ms) := by
      show Json.merged (.obj ms) (.obj [("metadata", .obj [("finalizers", .arr _)])]) = _
      have hlookup : ms.lookup "metadata" = some (.obj mm) := hj
      simp only [merged, mergedMembers, Json.membersOf, hlookup, Option.getD_some]
      rfl
    have hget (name : String) : (fieldsOf (replaced "metadata" (some changed) ms)).get? name =
        if name = "metadata" then some changed else (fieldsOf ms).get? name :=
      Json.lookup_replaced
    rw [hmerged, ofJson?_obj]
    refine ⟨Json.nodup_replaced hnames, ?_, ?_, ?_⟩
    · rw [Json.Record.required, hget, if_pos rfl]
      exact Metadata.ofJson?_replaced hm fs
    · rw [Json.Record.required, hget, if_neg (by decide)]
      exact hspec
    · rw [Json.Record.optional, hget, if_neg (by decide)]
      exact hstatus
  | _ => cases hm

end Resource

/-! ## Requests that are applied -/

namespace Json

/-- A member of the metadata of an object, or of a change to it. -/
def inMetadata? (name : String) (j : Json) : Option Json :=
  (j.member? "metadata").bind (member? name)

/-- Whether an object is in the state that a change asks for. A change asks for one by naming the
version or the identity of the object. -/
def meets (object change : Json) : Bool :=
  ["resourceVersion", "uid"].all fun name =>
    (change.inMetadata? name).all fun asked => (object.inMetadata? name).any (· == asked)

end Json

/-- An object once a request was applied to it: the change is merged into it, unless the change asks
for another state of the object. -/
def Request.applied (object : Json) (r : Request) : Json :=
  match r.body with
  | none => object
  | some change => if object.meets change then object.merged change else object

/-! ## Edits -/

/-- The edits of the finalizers of a resource. -/
inductive FinalizerEdit where
  | add
  | remove
  deriving DecidableEq, Repr

namespace FinalizerEdit

variable {edit : FinalizerEdit} {name ownNamespace look change : String} {seen : Resource}

/-- The exchange of an edit. -/
def run : FinalizerEdit → String → String → Exchange Unit
  | .add => Cluster.addFinalizer
  | .remove => Cluster.removeFinalizer

/-- The finalizers that an edit writes when it has seen a resource, if it writes any. -/
def written? : FinalizerEdit → Resource → Option (List String)
  | .add, r => if r.isHeld then none else some (r.metadata.finalizers ++ [Resource.finalizer])
  | .remove, r => some (r.metadata.finalizers.filter (· != Resource.finalizer))

/-- Nothing is written only when a finalizer is to be added that is there. -/
theorem written?_eq_none_iff : edit.written? seen = none ↔ edit = .add ∧ seen.isHeld := by
  cases edit with
  | add => simp [written?]
  | remove => simp [written?]

/-- The finalizers of others are written as they were seen. -/
theorem mem_written? {fs : List String} (h : edit.written? seen = some fs) {f : String}
    (hf : f ≠ Resource.finalizer) : f ∈ fs ↔ f ∈ seen.metadata.finalizers := by
  cases edit with
  | add =>
    obtain ⟨-, rfl⟩ : ¬seen.isHeld ∧ seen.metadata.finalizers ++ [Resource.finalizer] = fs := by
      simpa [written?] using h
    simp [hf]
  | remove =>
    obtain rfl : seen.metadata.finalizers.filter (· != Resource.finalizer) = fs := by
      simpa [written?] using h
    simp [hf]

/-- The requests of an edit: a look, and after a look that succeeds the change, if there is one. -/
theorem sent_run (h : Cluster.targets? name ownNamespace = some (look, change))
    (edit : FinalizerEdit) (s : Server) :
    (edit.run name ownNamespace).sent s =
      Cluster.requestFor "GET" look none ::
        (((Cluster.outcomeOf Resource.ofJson? s.reply).toOption.bind edit.written?).map fun fs =>
          Cluster.requestFor "PATCH" change (some (Cluster.finalizersChange fs))).toList := by
  have hdrop (more : List Request) : (s.requests ++ more).drop s.requests.length = more :=
    List.drop_left
  cases edit with
  | add =>
    rw [Exchange.sent, run, Cluster.addFinalizer, runFrom_bind, Cluster.runFrom_get h]
    cases Cluster.outcomeOf Resource.ofJson? s.reply with
    | error fault => exact hdrop _
    | ok r =>
      simp only [Except.toOption, Option.bind_some, written?]
      split
      · exact hdrop _
      · rw [Cluster.requests_merge h, Server.requests_asked, List.append_assoc, hdrop]
        rfl
  | remove =>
    rw [Exchange.sent, run, Cluster.removeFinalizer, runFrom_bind, runFrom_tryCatch, runFrom_map,
      Cluster.runFrom_get h]
    cases Cluster.outcomeOf Resource.ofJson? s.reply with
    | error fault =>
      -- whatever the fault is, nothing more is sent
      cases fault with
      | refused r =>
        by_cases hr : r.code = 404 <;> simp only [hr, if_true, if_false] <;> exact hdrop _
      | _ => exact hdrop _
    | ok r =>
      simp only [Except.toOption, Option.bind_some, written?]
      rw [Cluster.requests_merge h, Server.requests_asked, List.append_assoc, hdrop]
      rfl

/-- The change of an edit asks for no state of the object. -/
theorem applied_finalizersChange (object : Json) (target : String) (fs : List String) :
    Request.applied object
        (Cluster.requestFor "PATCH" target (some (Cluster.finalizersChange fs))) =
      object.merged (Cluster.finalizersChange fs) := rfl

/-- **Edits of finalizers.** An edit leaves a resource with the finalizers that it wrote, which are
those that it saw but for its own, and with the ones in place if it wrote none; all else stays as it
was. So the finalizers of others stay as they were exactly if nobody changed them between the look
and the change, or if there was no change to make. -/
theorem run_keeps_others_iff
    (htargets : Cluster.targets? name ownNamespace = some (look, change)) {s : Server}
    (hseen : Cluster.outcomeOf Resource.ofJson? s.reply = .ok seen)
    {ms : List (String × Json)} {current : Resource}
    (hcurrent : Resource.ofJson? (.obj ms) = some current) :
    let left := (edit.written? seen).getD current.metadata.finalizers
    Resource.ofJson? (((edit.run name ownNamespace).sent s).foldl Request.applied (.obj ms)) =
        some (current.withFinalizers left) ∧
      ((∀ f ≠ Resource.finalizer, f ∈ left ↔ f ∈ current.metadata.finalizers) ↔
        (edit = .add ∧ seen.isHeld) ∨
          ∀ f ≠ Resource.finalizer,
            f ∈ seen.metadata.finalizers ↔ f ∈ current.metadata.finalizers) := by
  intro left
  rw [sent_run htargets, hseen, ← written?_eq_none_iff]
  simp only [Except.toOption, Option.bind_some, left]
  cases hwritten : edit.written? seen with
  | none =>
    -- without a change, the object is left as it is in place
    refine ⟨?_, by simp⟩
    show Resource.ofJson? (.obj ms) = some current
    exact hcurrent
  | some fs =>
    have hothers : (∀ f ≠ Resource.finalizer, f ∈ fs ↔ f ∈ current.metadata.finalizers) ↔
        ∀ f ≠ Resource.finalizer,
          f ∈ seen.metadata.finalizers ↔ f ∈ current.metadata.finalizers :=
      forall₂_congr fun f hf => by rw [mem_written? hwritten hf]
    refine ⟨?_, by simpa using hothers⟩
    show Resource.ofJson? (Request.applied (.obj ms)
      (Cluster.requestFor "PATCH" change (some (Cluster.finalizersChange fs)))) = _
    rw [applied_finalizersChange]
    exact Resource.ofJson?_merged hcurrent fs

/-- What a look answers in the runs below: a resource that another program keeps, too. -/
def keptByTwo : String :=
  "\x7b\"metadata\":\x7b\"finalizers\":[\"a.io/x\",\"netfence.dev/security-policy\"]\x7d,"
    ++ "\"spec\":\x7b\x7d\x7d"

/-- That resource at the time of the change, when the other program has let go of it and a third
one keeps it. -/
def keptByOthers : List (String × Json) :=
  [("metadata", .obj [("finalizers", .ofList .str ["b.io/y", Resource.finalizer])]),
    ("spec", .obj [])]

/-- The finalizer is removed from a list that another program has replaced since it was seen: the
list that was seen is what is left. -/
theorem run_keeps_others_iff_removed :
    let s : Server := { script := [.answered 200 keptByTwo] }
    let seen : Resource := { metadata := { finalizers := ["a.io/x", Resource.finalizer] } }
    let current : Resource := { metadata := { finalizers := ["b.io/y", Resource.finalizer] } }
    Resource.ofJson?
        (((FinalizerEdit.remove.run "web" "shop").sent s).foldl Request.applied
          (.obj keptByOthers)) = some (current.withFinalizers ["a.io/x"]) ∧
      ((∀ f ≠ Resource.finalizer, f ∈ ["a.io/x"] ↔ f ∈ current.metadata.finalizers) ↔
        (FinalizerEdit.remove = .add ∧ seen.isHeld) ∨
          ∀ f ≠ Resource.finalizer,
            f ∈ seen.metadata.finalizers ↔ f ∈ current.metadata.finalizers) := by
  have htargets : Cluster.targets? "web" "shop" =
      some ("/apis/netfence.dev/v1alpha1/namespaces/shop/securitypolicies/web",
        "/apis/netfence.dev/v1alpha1/namespaces/shop/securitypolicies/web"
          ++ "?&fieldManager=netfence-controller") := by
    decide +kernel
  intro s seen current
  have hseen : Cluster.outcomeOf Resource.ofJson? s.reply = .ok seen := by decide +kernel
  have hcurrent : Resource.ofJson? (.obj keptByOthers) = some current := by decide +kernel
  exact run_keeps_others_iff htargets hseen hcurrent

/-- A finalizer that another program set after the look is lost, and one that was given up comes
back. -/
theorem remove_overwrites :
    ∃ seen current left : Resource,
      Cluster.outcomeOf Resource.ofJson? (.answered 200 keptByTwo) = .ok seen ∧
      Resource.ofJson? (.obj keptByOthers) = some current ∧
      Resource.ofJson?
          (((FinalizerEdit.remove.run "web" "shop").sent
            { script := [.answered 200 keptByTwo] }).foldl Request.applied
              (.obj keptByOthers)) = some left ∧
      ("b.io/y" ∈ current.metadata.finalizers ∧ "b.io/y" ∉ left.metadata.finalizers) ∧
      ("a.io/x" ∉ current.metadata.finalizers ∧ "a.io/x" ∈ left.metadata.finalizers) := by
  refine ⟨{ metadata := { finalizers := ["a.io/x", Resource.finalizer] } },
    { metadata := { finalizers := ["b.io/y", Resource.finalizer] } },
    { metadata := { finalizers := ["a.io/x"] } }, ?_, ?_, ?_, ?_, ?_⟩
  · decide +kernel
  · decide +kernel
  · decide +kernel
  · decide
  · decide

end FinalizerEdit

end FirewallOperator
