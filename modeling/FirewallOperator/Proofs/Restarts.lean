import FirewallOperator.Proofs.Relisting

/-! # Restarts

A service that is restarted has only what the backend lists, and the backend may list objects in
another order, with other revisions, and with their tags in another order.
`Builder.restart_decides_alike` shows that this changes nothing: whatever jobs follow, the service
decides as it would have decided without the restart, and what it sends is the same but for
revisions and the order of tags.

The two services are compared job by job. Their inventories resemble each other, so what a job plans
on them is alike (`Change.Resembles`); the backend gives both the same answer, so their inventories
resemble each other again (`Builder.serve_matches`). -/

namespace FirewallOperator

open List (Forall₂)

/-! ## Requests in plain form -/

/-- A child with its object in plain form, the rules of a policy included. -/
def Child.plain : Child → Child
  | .group marked g => .group marked (FirewallOperator.plain g)
  | .policy marked p =>
    .policy marked { FirewallOperator.plain p with rules := p.rules.map FirewallOperator.plain }

/-- A patch with all of its objects in plain form. -/
def Patch.plain (p : Patch) : Patch :=
  { p with
    domains := p.domains.map fun entry =>
      { entry with
        domain := { entry.domain with children := entry.domain.children.map Child.plain } } }

/-- A call with all of its objects in plain form. -/
def Call.plain : Call → Call
  | .patchInfra enforceRevision p => .patchInfra enforceRevision p.plain
  | .patchGroup domain g => .patchGroup domain (FirewallOperator.plain g)
  | call => call

/-! ## Changes -/

namespace Change

/-- Changes that write alike objects in the same order, and have the same effect. -/
structure Resembles (c d : Change) : Prop where
  policy : Alike c.policy d.policy
  rules : Forall₂ Alike c.rules d.rules
  groups : Forall₂ Alike c.groups d.groups
  after : c.after.Resembles d.after

variable {m n : Inventory} {c d : Change}

/-- The plain form of a change's patch is the patch of its plain objects. -/
theorem plain_patch (c : Change) (domain : String) :
    (c.patch domain).plain =
      .wrap domain { plain c.policy with rules := c.rules.map plain } (c.groups.map plain) := by
  simp only [patch, Patch.plain, Patch.wrap, List.map_cons, List.map_nil, List.map_append,
    List.map_map]
  rfl

/-- Changes that resemble each other are requested in the same way. -/
theorem Resembles.patch (h : c.Resembles d) (domain : String) :
    (c.patch domain).plain = (d.patch domain).plain := by
  rw [plain_patch, plain_patch, h.policy.plain, map_plain_eq h.rules, map_plain_eq h.groups]

/-- What brings an inventory in line with built objects also does so for one that resembles it. -/
theorem toBuilt_resembles (h : m.Resembles n) (uid : String) (built : Built) :
    Option.Rel Change.Resembles (toBuilt m uid built) (toBuilt n uid built) := by
  have hrules := h.rules.ownedBy uid
  have hgroups := h.groups.ownedBy uid
  have hstored := h.policies.alike built.policy.withoutRules.id
  simp only [toBuilt, Difference.differs_alike hstored, Difference.isEmpty_alike hrules,
    Difference.isEmpty_alike hgroups]
  split
  · exact .none
  · refine .some ⟨?_, Difference.writes_alike hrules _, Difference.writes_alike hgroups _, ?_,
      h.rules.applyAll (Difference.writes_alike hrules _),
      h.groups.applyAll (Difference.writes_alike hgroups _)⟩
    -- a policy that did not change goes out as each of the two has it
    · split
      · exact .refl _
      · generalize m.policies.get? built.policy.withoutRules.id = old,
          n.policies.get? built.policy.withoutRules.id = old' at hstored ⊢
        cases hstored with
        | none => exact .refl _
        | some halike => exact halike
    · split
      · exact h.policies.apply (.refl _)
      · exact h.policies

/-- The removals of alike objects from inventories that resemble each other do so, too. -/
theorem removing_resembles (h : m.Resembles n) {p q : Policy} {rules rules' : List Rule}
    {groups groups' : List Group} (hp : Alike p q) (hr : Forall₂ Alike rules rules')
    (hg : Forall₂ Alike groups groups') :
    (removing m p rules groups).Resembles (removing n q rules' groups') where
  policy := hp.setMarked true
  rules := Difference.removals_alike hr
  groups := Difference.removals_alike hg
  after := ⟨h.policies.apply (hp.setMarked true), h.rules.applyAll (Difference.removals_alike hr),
    h.groups.applyAll (Difference.removals_alike hg)⟩

/-- The removal of what is built does not tell inventories apart that resemble each other. -/
theorem ofBuilt_resembles (h : m.Resembles n) (uid : String) (built : Built) :
    (ofBuilt m uid built).Resembles (ofBuilt n uid built) :=
  removing_resembles h (.refl _) (withStored_alike (h.rules.ownedBy uid) _)
    (withStored_alike (h.groups.ownedBy uid) _)

/-- Nor does the removal of what an owner has. -/
theorem forOwner_resembles (h : m.Resembles n) (uid : String) :
    Option.Rel Change.Resembles (forOwner m uid) (forOwner n uid) := by
  have hpolicies := h.policies.ownedBy uid
  rw [forOwner, forOwner]
  generalize m.policies.ownedBy uid = ps, n.policies.ownedBy uid = qs at hpolicies ⊢
  cases hpolicies with
  | nil => exact .none
  | cons hp _ =>
    exact .some (removing_resembles h hp (h.rules.ownedBy uid) (h.groups.ownedBy uid))

end Change

/-! ## Worlds -/

/-- Worlds whose inventories resemble each other, in which the same calls were made and the same
answers are still to come. -/
structure World.Resembles (w v : World) : Prop where
  inventory : w.inventory.Resembles v.inventory
  writes : w.writes = v.writes
  calls : w.calls.map Call.plain = v.calls.map Call.plain

/-- Operations with the same outcome, which lead to worlds that resemble each other. -/
def Operation.Matches {α : Type} (op op' : Operation α) (w v : World) : Prop :=
  (op.exec w).1 = (op'.exec v).1 ∧ (op.exec w).2.Resembles (op'.exec v).2

/-- Such operations both succeed with the same value, or both fail with the same fault. -/
theorem Operation.Matches.cases {α : Type} {op op' : Operation α} {w v : World}
    (h : op.Matches op' w v) :
    (∃ a w' v', op.exec w = (.ok a, w') ∧ op'.exec v = (.ok a, v') ∧ w'.Resembles v') ∨
      ∃ fault w' v', op.exec w = (.error fault, w') ∧ op'.exec v = (.error fault, v') ∧
        w'.Resembles v' := by
  obtain ⟨houtcome, hafter⟩ := h
  rcases hw : op.exec w with ⟨fault | a, w'⟩ <;> rcases hv : op'.exec v with ⟨fault' | a', v'⟩ <;>
    rw [hw, hv] at houtcome hafter <;> cases houtcome
  · exact .inr ⟨fault, w', v', rfl, rfl, hafter⟩
  · exact .inl ⟨a, w', v', rfl, rfl, hafter⟩

open Operation

namespace World.Resembles

variable {w v : World}

/-- The next write gets the same answer in both worlds. -/
theorem answer (h : w.Resembles v) : w.answer = v.answer := by
  rw [World.answer, World.answer, h.writes]

/-- Worlds that resemble each other still do after calls that are alike in plain form. -/
theorem written (h : w.Resembles v) {call call' : Call} (hcall : call.plain = call'.plain) :
    (w.written call).Resembles (v.written call') where
  inventory := h.inventory
  writes := by rw [World.writes_written, World.writes_written, h.writes]
  calls := by
    rw [World.calls_written, World.calls_written, List.map_append, List.map_append, h.calls,
      List.map_singleton, List.map_singleton, hcall]

/-- Worlds that resemble each other still do after one call to the cluster. -/
theorem called (h : w.Resembles v) (call : Call) : (w.called call).Resembles (v.called call) where
  inventory := h.inventory
  writes := h.writes
  calls := by
    rw [World.calls_called, World.calls_called, List.map_append, List.map_append, h.calls]

/-- Worlds that resemble each other still do with inventories that do. -/
theorem stocked (h : w.Resembles v) {m n : Inventory} (hm : m.Resembles n) :
    (w.stocked m).Resembles (v.stocked n) :=
  ⟨hm, h.writes, h.calls⟩

end World.Resembles

/-! ## Jobs -/

namespace Builder

variable {b : Builder} {w v : World}

/-- Changes that resemble each other are submitted alike. -/
theorem submit_matches (h : w.Resembles v) {c d : Change} (hc : c.Resembles d) (domain : String) :
    (c.submit domain).Matches (d.submit domain) w v := by
  have hcall : (Call.patchInfra false (c.patch domain)).plain =
      (Call.patchInfra false (d.patch domain)).plain :=
    congrArg (Call.patchInfra false) (hc.patch _)
  rw [Matches, Change.exec_submit, Change.exec_submit, h.answer]
  cases v.answer with
  | none => exact ⟨rfl, (h.written hcall).stocked hc.after⟩
  | some fault => exact ⟨rfl, h.written hcall⟩

/-- An update does not tell worlds apart that resemble each other. -/
theorem update_matches (h : w.Resembles v) (r : Resource) :
    (b.update r).Matches (b.update r) w v := by
  rw [Matches, exec_update, exec_update]
  cases hb : b.build r with
  | error fault =>
    rw [Change.forUpdate_of_fault hb, Change.forUpdate_of_fault hb]
    exact ⟨rfl, h⟩
  | ok built =>
    rw [Change.forUpdate_of_build hb, Change.forUpdate_of_build hb]
    have hchange := Change.toBuilt_resembles h.inventory (r.metadata.uid.getD "") built
    generalize Change.toBuilt w.inventory (r.metadata.uid.getD "") built = c,
      Change.toBuilt v.inventory (r.metadata.uid.getD "") built = d at hchange ⊢
    cases hchange with
    | none => exact ⟨rfl, h⟩
    | some hc => exact submit_matches h hc b.domain

/-- Nor does a removal. -/
theorem remove_matches (h : w.Resembles v) (r : Resource) :
    (b.remove r).Matches (b.remove r) w v := by
  rw [Matches]
  cases hb : b.build r with
  | error fault =>
    rw [exec_remove_of_fault hb, exec_remove_of_fault hb]
    exact ⟨rfl, h⟩
  | ok built =>
    rw [exec_remove_of_build hb, exec_remove_of_build hb]
    exact submit_matches h (Change.ofBuilt_resembles h.inventory _ built) b.domain

/-- Nor does a removal by owner. -/
theorem removeOwner_matches (h : w.Resembles v) (uid : String) :
    (b.removeOwner uid).Matches (b.removeOwner uid) w v := by
  have hchange := Change.forOwner_resembles h.inventory uid
  rw [Matches, exec_removeOwner, exec_removeOwner]
  generalize Change.forOwner w.inventory uid = c, Change.forOwner v.inventory uid = d at hchange ⊢
  cases hchange with
  | none => exact ⟨rfl, h⟩
  | some hc => exact submit_matches h hc b.domain

/-- Nor does a write of groups. -/
theorem updateGroups_matches (h : w.Resembles v) (gs : List Group) :
    (b.updateGroups gs).Matches (b.updateGroups gs) w v := by
  induction gs generalizing w v with
  | nil => exact ⟨rfl, h⟩
  | cons g rest ih =>
    rw [Matches, exec_updateGroups_cons, exec_updateGroups_cons, h.answer]
    cases v.answer with
    | none =>
      exact ih ((h.written rfl).stocked
        ⟨h.inventory.policies, h.inventory.rules, h.inventory.groups.put g⟩)
    | some fault => exact ⟨rfl, h.written rfl⟩

/-- Nor does the removal of one vanished owner, nor whether it counts. -/
theorem sweepOne_matches (h : w.Resembles v) (owner : String) :
    (b.sweepOne owner w).1 = (b.sweepOne owner v).1 ∧
      (b.sweepOne owner w).2.Resembles (b.sweepOne owner v).2 := by
  have hempty : (w.inventory.policies.ownedBy owner).isEmpty =
      (v.inventory.policies.ownedBy owner).isEmpty := by
    have howned := h.inventory.policies.ownedBy owner
    generalize w.inventory.policies.ownedBy owner = ps,
      v.inventory.policies.ownedBy owner = qs at howned ⊢
    cases howned <;> rfl
  rw [sweepOne, sweepOne, hempty]
  split
  · exact ⟨rfl, h⟩
  · rcases (removeOwner_matches (b := b) h owner).cases with
      ⟨_, w', v', hw, hv, hafter⟩ | ⟨fault, w', v', hw, hv, hafter⟩ <;> rw [hw, hv] <;>
      exact ⟨rfl, hafter⟩

/-- Nor does the removal of several ones, nor their number. -/
theorem sweep_matches (h : w.Resembles v) (owners : List String) :
    (b.sweep owners).Matches (b.sweep owners) w v := by
  induction owners generalizing w v with
  | nil => exact ⟨rfl, h⟩
  | cons owner rest ih =>
    obtain ⟨hcount, hone⟩ := sweepOne_matches (b := b) h owner
    rw [Matches, exec_sweep_cons, exec_sweep_cons, hcount]
    rcases (ih hone).cases with ⟨n, w', v', hw, hv, hafter⟩ | ⟨fault, w', v', hw, hv, hafter⟩ <;>
      rw [hw, hv] <;> exact ⟨rfl, hafter⟩

/-- Nor does a collection. -/
theorem collect_matches (h : w.Resembles v) (live : Except Fault TextSet) :
    (b.collect { uids := live }).Matches (b.collect { uids := live }) w v := by
  have hlisted := (h.called .listLive).stocked h.inventory
  rw [Matches, exec_collect, exec_collect, h.inventory.owners]
  cases live with
  | error fault => exact ⟨rfl, hlisted⟩
  | ok uids => exact sweep_matches hlisted _

/-- A job has the same outcome in worlds that resemble each other, and they still do after it. -/
theorem serve_matches (h : w.Resembles v) (job : Job) :
    (b.serve job).Matches (b.serve job) w v := by
  cases job with
  | update r => exact update_matches h r
  | remove r => exact remove_matches h r
  | removeOwner uid => exact removeOwner_matches h uid
  | updateGroups gs => exact updateGroups_matches h gs
  | collect live =>
    rw [Matches, serve, exec_bind, exec_bind]
    rcases (collect_matches (b := b) h live).cases with
      ⟨n, w', v', hw, hv, hafter⟩ | ⟨fault, w', v', hw, hv, hafter⟩ <;> rw [hw, hv] <;>
      exact ⟨rfl, hafter⟩

/-- So do rows of jobs. -/
theorem serveAll_resembles (h : w.Resembles v) (jobs : List Job) :
    (b.serveAll jobs w).Resembles (b.serveAll jobs v) := by
  induction jobs generalizing w v with
  | nil => exact h
  | cons job rest ih => exact ih (serve_matches h job).2

/-- What the second of two matching operations sends is what the first sends, in plain form. -/
theorem sent_of_matches {α : Type} {op op' : Operation α} (h : w.Resembles v)
    (hmatch : op.Matches op' w v) : (op.sent w).map Call.plain = (op'.sent v).map Call.plain := by
  have hlength : w.calls.length = v.calls.length := by
    rw [← List.length_map Call.plain, h.calls, List.length_map]
  rw [sent, sent, List.map_drop, List.map_drop, hlength]
  exact congrArg (List.drop _) hmatch.2.calls

/-- **Restarts.** A service starts without objects and does jobs about resources, whatever the
backend answers. Another is filled from listings of what the first one then has, in any order, and
each object with any revision and its tags in any order. When both go on with the same jobs and get
the same answers, every job has the same outcome for both, both send the same but for revisions and
the order of tags, and they have alike objects afterwards. -/
theorem restart_decides_alike (b : Builder) {history : List Job}
    (hhistory : ∀ gs, .updateGroups gs ∉ history) (answers : List (Option Fault)) {a : Arrivals}
    (ha : a.Relists (b.serveAll history { writes := answers }).inventory)
    (writes : List (Option Fault)) (jobs : List Job) (job : Job) :
    let m := (b.serveAll history { writes := answers }).inventory
    let w := b.serveAll jobs { inventory := m, writes }
    let v := b.serveAll jobs { inventory := (a.sync .empty).1, writes }
    w.inventory.Resembles v.inventory ∧
      ((b.serve job).exec w).1 = ((b.serve job).exec v).1 ∧
      ((b.serve job).sent w).map Call.plain = ((b.serve job).sent v).map Call.plain ∧
      ((b.serve job).after w).inventory.Resembles ((b.serve job).after v).inventory := by
  intro m w v
  have hcoherent : m.Coherent := (b.serveAll_steps history _).coherent Inventory.coherent_empty
  have hbuilt : m.BuiltFrom b Set.univ :=
    serveAll_builtFrom hhistory (fun _ _ => trivial) Inventory.builtFrom_empty
  have hstart : World.Resembles { inventory := m, writes }
      { inventory := (a.sync .empty).1, writes } :=
    ⟨hbuilt.resembles_sync hcoherent ha, rfl, rfl⟩
  have hnow : w.Resembles v := serveAll_resembles hstart jobs
  have hmatch := serve_matches (b := b) hnow job
  exact ⟨hnow.inventory, hmatch.1, sent_of_matches hnow hmatch, hmatch.2.inventory⟩

/-- A resource with a source is realized. The restarted service is told of the groups in the other
order, and of all objects with a revision and their tags turned round: it sends another request for
the removal, which says the same. -/
theorem restart_decides_alike_reordered :
    let b : Builder := ⟨"k", "default"⟩
    let r : Resource := {
      metadata := { name := some "web", ownNamespace := some "shop", uid := some "u" }
      spec := {
        appliedTo := [{ pods := some .empty }]
        rules := [{ sources := [{ namespaces := some .empty }] }] } }
    let m := (b.serveAll [.update r] { writes := [] }).inventory
    let a : Arrivals := {
      policies := { objects := m.policies.objects.values.map fun p =>
        { p with revision := some 7, tags := p.tags.reverse } }
      rules := { objects := m.rules.objects.values.map fun x =>
        { x with revision := some 8, tags := x.tags.reverse } }
      groups := { objects := m.groups.objects.values.reverse.map fun g =>
        { g with revision := some 9, tags := g.tags.reverse } } }
    let w := b.serveAll [] { inventory := m, writes := [] }
    let v := b.serveAll [] { inventory := (a.sync .empty).1, writes := [] }
    let job := Job.removeOwner "u"
    (∀ gs, .updateGroups gs ∉ [Job.update r]) ∧ a.Relists m ∧
      (b.serve job).sent w ≠ (b.serve job).sent v ∧
      ((b.serve job).sent w).map Call.plain = ((b.serve job).sent v).map Call.plain ∧
      ((b.serve job).after w).inventory.Resembles ((b.serve job).after v).inventory := by
  intro b r m a w v job
  have hhistory : ∀ gs, .updateGroups gs ∉ [Job.update r] := by
    intro gs hgs
    cases List.mem_singleton.1 hgs
  have ha : a.Relists m := ⟨rfl, by decide, by decide, by decide⟩
  obtain ⟨-, -, hsent, hafter⟩ := restart_decides_alike b hhistory [] ha [] [] job
  exact ⟨hhistory, ha, by decide, hsent, hafter⟩

end Builder

end FirewallOperator
