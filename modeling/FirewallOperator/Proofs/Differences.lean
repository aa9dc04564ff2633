import FirewallOperator.Proofs.Convergence

/-! # Writing a difference

A difference is taken between two lists, and what it writes is applied to a store. `IsLast` and
`Outdated` say by the lists alone which of the wanted objects are written, also where an identity
occurs more than once among those that exist. `Difference.writes_synchronize` puts the pieces
together: a store into which the existing objects were put has exactly the wanted ones once the
difference has been applied, and those that were there already are left as they are. -/

namespace FirewallOperator

variable {α : Type} [Managed α]

/-! ## Which objects are written -/

/-- An object has an identity, and none behind it in a list has the same one. -/
def IsLast (id : String) (xs : List α) (x : α) : Prop :=
  ∃ before after, xs = before ++ x :: after ∧ Managed.id x = id ∧ ∀ y ∈ after, Managed.id y ≠ id

/-- A wanted object compares as different from the last one that exists under its identity, or from
nothing if there is none. -/
def Outdated (existing : List α) (w : α) : Prop :=
  (∃ x, IsLast (Managed.id w) existing x ∧ Difference.differs (some x) w = true) ∨
    ((∀ x ∈ existing, Managed.id x ≠ Managed.id w) ∧ Difference.differs none w = true)

namespace Difference

variable {existing wanted : List α} {id : String} {w x : α}

/-- The object that is found under an identity is the last one that has it. -/
theorem lastWith_eq_some_iff : lastWith id existing = some x ↔ IsLast id existing x := by
  rw [lastWith, List.find?_eq_some_iff_append]
  constructor
  · rintro ⟨hid, after, before, hsplit, hnot⟩
    refine ⟨before.reverse, after.reverse, ?_, by simpa using hid, fun y hy => ?_⟩
    · rw [← List.reverse_reverse existing, hsplit]
      simp
    · simpa using hnot y (List.mem_reverse.1 hy)
  · rintro ⟨before, after, rfl, hid, hnot⟩
    refine ⟨by simpa using hid, after.reverse, before.reverse, by simp, fun y hy => ?_⟩
    simpa using hnot y (List.mem_reverse.1 hy)

/-- What is wanted is outdated exactly if it differs from the last object of its identity. -/
theorem outdated_iff : Outdated existing w ↔ differs (lastWith (Managed.id w) existing) w = true := by
  rw [Outdated]
  cases hlast : lastWith (Managed.id w) existing with
  | none =>
    have habsent := lastWith_eq_none.1 hlast
    constructor
    · rintro (⟨x, hx, -⟩ | ⟨-, hdiff⟩)
      · rw [lastWith_eq_some_iff.2 hx] at hlast
        cases hlast
      · exact hdiff
    · exact fun hdiff => .inr ⟨habsent, hdiff⟩
  | some x =>
    have hx := lastWith_eq_some_iff.1 hlast
    constructor
    · rintro (⟨y, hy, hdiff⟩ | ⟨habsent, -⟩)
      · rw [lastWith_eq_some_iff.2 hy] at hlast
        exact hlast ▸ hdiff
      · obtain ⟨hmem, hid⟩ := mem_of_lastWith hlast
        exact absurd hid (habsent x hmem)
    · exact fun hdiff => .inl ⟨x, hx, hdiff⟩

instance : DecidablePred (Outdated existing) := fun _ => decidable_of_iff _ outdated_iff.symm

/-- What is to be written is what is wanted and outdated. -/
theorem changed_eq_filter :
    (between existing wanted).changed = wanted.filter fun w => decide (Outdated existing w) := by
  refine List.filter_congr fun w _ => ?_
  rw [Bool.eq_iff_iff, decide_eq_true_iff, outdated_iff]

/-- What is to be removed is what exists and is not wanted. -/
theorem stale_eq_filter :
    (between existing wanted).stale =
      existing.filter fun x => decide (∀ w ∈ wanted, Managed.id w ≠ Managed.id x) := by
  refine List.filter_congr fun x _ => ?_
  rw [Bool.eq_iff_iff]
  simp

end Difference

/-! ## What applying them comes to -/

/-- A store has come to hold the wanted objects with as little change as possible. -/
structure Store.Synchronized (before after : Store α) (wanted : List α) : Prop where
  /-- It has an object under each wanted identity, and under no other. -/
  identities : ∀ id, (after.get? id).isSome ↔ id ∈ wanted.map Managed.id
  /-- Each object says what is wanted. -/
  fingerprints : ∀ w ∈ wanted, ∃ x, after.get? (Managed.id w) = some x ∧
    fingerprint x = fingerprint w
  /-- An object that said so before is still the same. -/
  kept : ∀ w ∈ wanted, ∀ x, before.get? (Managed.id w) = some x →
    fingerprint x = fingerprint w → after.get? (Managed.id w) = some x
  /-- Where there was none, or one that said something else, there is now the wanted one. -/
  renewed : ∀ w ∈ wanted, (∀ x, before.get? (Managed.id w) = some x →
    fingerprint x ≠ fingerprint w) → after.get? (Managed.id w) = some w

namespace Difference

variable {existing wanted : List α}

/-- Under a wanted identity there is the object that was put there last, if it says the same, and
else the wanted one. -/
theorem get?_written_of_mem (hdistinct : (wanted.map Managed.id).Nodup)
    (hunmarked : ∀ w ∈ wanted, Managed.marked w = false) {w : α} (hw : w ∈ wanted) :
    (((Store.empty : Store α).putAll existing).applyAll (between existing wanted).writes).get?
        (Managed.id w) =
      if differs (lastWith (Managed.id w) existing) w then some w
      else lastWith (Managed.id w) existing := by
  rw [Store.get?_applyAll, lastWith_writes_of_mem hdistinct hw, Store.get?_putAll_empty]
  cases differs (lastWith (Managed.id w) existing) w with
  | true => simp [hunmarked w hw]
  | false => simp

/-- Under an identity that is not wanted there is nothing. -/
theorem get?_written_of_notMem {id : String} (hid : ∀ w ∈ wanted, Managed.id w ≠ id) :
    (((Store.empty : Store α).putAll existing).applyAll (between existing wanted).writes).get? id =
      none := by
  rw [Store.get?_applyAll, Store.get?_putAll_empty]
  by_cases hexists : ∃ x ∈ existing, Managed.id x = id
  · -- what exists there is stale, and the last thing written is its removal
    obtain ⟨x, hx, rfl⟩ := hexists
    obtain ⟨y, hlast, hmarked⟩ := lastWith_writes_of_stale (mem_stale.2 ⟨hx, hid⟩)
    simp [hlast, hmarked]
  · have habsent : ∀ x ∈ existing, Managed.id x ≠ id := fun x hx he => hexists ⟨x, hx, he⟩
    rw [lastWith_writes_eq_none habsent hid]
    exact lastWith_eq_none.2 habsent

/-- A store that has the existing objects has the wanted ones once the difference is applied. -/
theorem synchronized_applyAll (hdistinct : (wanted.map Managed.id).Nodup)
    (hunmarked : ∀ w ∈ wanted, Managed.marked w = false) :
    Store.Synchronized ((Store.empty : Store α).putAll existing)
      (((Store.empty : Store α).putAll existing).applyAll (between existing wanted).writes)
      wanted where
  identities id := by
    -- under a wanted identity there is the wanted object, or the one that already equals it
    by_cases hid : ∃ w ∈ wanted, Managed.id w = id
    · obtain ⟨w, hw, rfl⟩ := hid
      rw [get?_written_of_mem hdistinct hunmarked hw]
      refine iff_of_true ?_ (List.mem_map_of_mem hw)
      cases hdiff : differs (lastWith (Managed.id w) existing) w with
      | true => rfl
      | false =>
        obtain ⟨x, hlast, -⟩ := differs_eq_false_iff.1 hdiff
        simp [hlast]
    · have hnot : ∀ w ∈ wanted, Managed.id w ≠ id := fun w hw he => hid ⟨w, hw, he⟩
      rw [get?_written_of_notMem hnot, List.mem_map]
      exact iff_of_false Bool.false_ne_true hid
  fingerprints w hw := by
    rw [get?_written_of_mem hdistinct hunmarked hw]
    cases hdiff : differs (lastWith (Managed.id w) existing) w with
    | true => exact ⟨w, rfl, rfl⟩
    | false => exact differs_eq_false_iff.1 hdiff
  kept w hw x hx hfp := by
    rw [Store.get?_putAll_empty] at hx
    have hsame : differs (lastWith (Managed.id w) existing) w = false :=
      differs_eq_false_iff.2 ⟨x, hx, hfp⟩
    rw [get?_written_of_mem hdistinct hunmarked hw, hsame]
    exact hx
  renewed w hw hnone := by
    rw [get?_written_of_mem hdistinct hunmarked hw]
    cases hdiff : differs (lastWith (Managed.id w) existing) w with
    | true => rfl
    | false =>
      obtain ⟨x, hlast, hfp⟩ := differs_eq_false_iff.1 hdiff
      exact absurd hfp (hnone x ((Store.get?_putAll_empty existing _).trans hlast))

/-- **Synchronization.** A difference writes the wanted objects that compare as different from the
last one that exists under their identity, and removes those that exist and are not wanted, each in
the order in which they are given. Applied to a store into which the existing objects were put, it
leaves the wanted ones, if these have different identities and no marks, and changes no object that
was as wanted. -/
theorem writes_synchronize (existing wanted : List α) :
    (between existing wanted).changed = wanted.filter (fun w => decide (Outdated existing w)) ∧
      (between existing wanted).stale =
        existing.filter (fun x => decide (∀ w ∈ wanted, Managed.id w ≠ Managed.id x)) ∧
      ((wanted.map Managed.id).Nodup → (∀ w ∈ wanted, Managed.marked w = false) →
        Store.Synchronized ((Store.empty : Store α).putAll existing)
          (((Store.empty : Store α).putAll existing).applyAll (between existing wanted).writes)
          wanted) :=
  ⟨changed_eq_filter, stale_eq_filter, synchronized_applyAll⟩

/-- A group that is listed twice, of which the last is as wanted but for its revision, one that is
not wanted, also listed twice, and one that is missing. -/
theorem writes_synchronize_repeated :
    let condition := fun value => Term.condition "SegmentPort" "Tag" "EQUALS" value
    let existing : List Group := [
      { id := "a", expression := [condition "app|old"] }, { id := "b" },
      { id := "a", expression := [condition "app|web"], revision := some 4 }, { id := "b" }]
    let wanted : List Group := [{ id := "c" }, { id := "a", expression := [condition "app|web"] }]
    let before := (Store.empty : Store Group).putAll existing
    let after := before.applyAll (between existing wanted).writes
    (wanted.map Managed.id).Nodup ∧ (∀ w ∈ wanted, Managed.marked w = false) ∧
      (before.get? "a").map (·.revision) = some (some 4) ∧
      Store.Synchronized before after wanted := by
  intro condition existing wanted before after
  have hdistinct : (wanted.map Managed.id).Nodup := by decide
  have hunmarked : ∀ w ∈ wanted, Managed.marked w = false := by decide
  exact ⟨hdistinct, hunmarked, by decide, (writes_synchronize existing wanted).2.2 hdistinct hunmarked⟩

end Difference

end FirewallOperator
