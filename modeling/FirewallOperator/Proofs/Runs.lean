import FirewallOperator.Proofs.Execution
import FirewallOperator.Sync
import Mathlib.Logic.Relation

/-! # Runs of the service

The service does jobs, one after the other. What any job does to the world is a row of steps, and
`Builder.Step` says everything that a step can be: a planned change that the backend accepts or
refuses, a group that it accepts or refuses, or a listing. `Builder.serve_steps` shows that jobs do
nothing else, so a property that every step keeps is kept by every run (`Builder.Steps.preserve`).

An inventory is reached (`Builder.Reaches`) when it was filled from listings, and jobs have then
been done on it, whatever the backend answered. -/

namespace FirewallOperator

open Operation Relation

/-- A job of the service. -/
inductive Job where
  /-- Brings the backend in line with a resource. -/
  | update (r : Resource)
  /-- Removes the objects of a resource. -/
  | remove (r : Resource)
  /-- Removes the objects of an owner. -/
  | removeOwner (uid : String)
  /-- Creates or replaces groups. -/
  | updateGroups (gs : List Group)
  /-- Removes the objects of owners that are not alive; the owners alive may be unknown. -/
  | collect (live : Except Fault TextSet)

/-- A change that one of the plans yields. -/
inductive Change.Planned (b : Builder) (m : Inventory) : Change → Prop
  | update {r : Resource} {built : Built} {c : Change} (hb : b.build r = .ok built)
      (hc : Change.toBuilt m (r.metadata.uid.getD "") built = some c) : Planned b m c
  | removal {r : Resource} {built : Built} (hb : b.build r = .ok built) :
      Planned b m (Change.ofBuilt m (r.metadata.uid.getD "") built)
  | owner {uid : String} {c : Change} (hc : Change.forOwner m uid = some c) : Planned b m c

namespace Builder

variable {b : Builder} {w v : World}

/-- Does a job. -/
def serve (b : Builder) : Job → Operation Unit
  | .update r => b.update r
  | .remove r => b.remove r
  | .removeOwner uid => b.removeOwner uid
  | .updateGroups gs => b.updateGroups gs
  | .collect live => do
    let _ ← b.collect { uids := live }

/-- The world after jobs, of which some may fail. -/
def serveAll (b : Builder) : List Job → World → World
  | [], w => w
  | job :: rest, w => b.serveAll rest ((b.serve job).after w)

/-- The last job is done in the world that the others leave. -/
theorem serveAll_concat (b : Builder) (done : List Job) (job : Job) (w : World) :
    b.serveAll (done ++ [job]) w = (b.serve job).after (b.serveAll done w) := by
  induction done generalizing w with
  | nil => rfl
  | cons first rest ih => exact ih _

/-! ## Steps -/

/-- What the service can do to the world at once. -/
inductive Step (b : Builder) : World → World → Prop
  | accepted {w : World} {c : Change} (hc : Change.Planned b w.inventory c)
      (ha : w.answer = none) :
      Step b w ((w.written (.patchInfra false (c.patch b.domain))).stocked c.after)
  | refused {w : World} {c : Change} {fault : Fault} (hc : Change.Planned b w.inventory c)
      (ha : w.answer = some fault) :
      Step b w (w.written (.patchInfra false (c.patch b.domain)))
  | groupAccepted {w : World} (g : Group) (ha : w.answer = none) :
      Step b w ((w.written (.patchGroup b.domain g)).stocked
        { w.inventory with groups := w.inventory.groups.put g })
  | groupRefused {w : World} (g : Group) {fault : Fault} (ha : w.answer = some fault) :
      Step b w (w.written (.patchGroup b.domain g))
  | listed {w : World} : Step b w (w.called .listLive)

/-- Any number of steps. -/
def Steps (b : Builder) : World → World → Prop := ReflTransGen b.Step

/-- What every step keeps is kept by any number of them. -/
theorem Steps.preserve {P : World → Prop} (hstep : ∀ {w v}, b.Step w v → P w → P v)
    (h : b.Steps w v) (hw : P w) : P v := by
  induction h with
  | refl => exact hw
  | tail _ hlast ih => exact hstep hlast ih

/-- Where every step makes one call of a kind, and keeps what that depends on, steps make calls of
this kind only. -/
theorem Steps.exists_calls {P : World → Prop} {Q : Call → Prop}
    (hstep : ∀ {w v}, b.Step w v → P w → P v ∧ ∃ call, v.calls = w.calls ++ [call] ∧ Q call)
    (h : b.Steps w v) (hw : P w) :
    P v ∧ ∃ cs, v.calls = w.calls ++ cs ∧ ∀ call ∈ cs, Q call := by
  refine h.preserve (P := fun v => P v ∧ ∃ cs, v.calls = w.calls ++ cs ∧ ∀ call ∈ cs, Q call)
    (fun hlast => ?_) ⟨hw, [], (List.append_nil _).symm, List.forall_mem_nil _⟩
  rintro ⟨hv, cs, hcalls, hall⟩
  obtain ⟨hafter, call, hcall, hQ⟩ := hstep hlast hv
  refine ⟨hafter, cs ++ [call], by rw [hcall, hcalls, List.append_assoc], ?_⟩
  exact List.forall_mem_append.2 ⟨hall, List.forall_mem_singleton.2 hQ⟩

/-- A planned change that is submitted is a step or two. -/
theorem submit_steps {c : Change} (hc : Change.Planned b w.inventory c) :
    b.Steps w ((c.submit b.domain).after w) := by
  rw [after, Change.exec_submit]
  cases ha : w.answer with
  | none => exact .single (.accepted hc ha)
  | some fault => exact .single (.refused hc ha)

/-- An update leaves the world as it is, or submits what is planned for what was built. -/
theorem after_update_cases (b : Builder) (r : Resource) (w : World) :
    (b.update r).after w = w ∨ ∃ built c, b.build r = .ok built ∧
      Change.toBuilt w.inventory (r.metadata.uid.getD "") built = some c ∧
      (b.update r).after w = (c.submit b.domain).after w := by
  rw [after, exec_update]
  cases hb : b.build r with
  | error fault =>
    rw [Change.forUpdate_of_fault hb]
    exact .inl rfl
  | ok built =>
    rw [Change.forUpdate_of_build hb]
    cases hc : Change.toBuilt w.inventory (r.metadata.uid.getD "") built with
    | none => exact .inl rfl
    | some c => exact .inr ⟨built, c, rfl, hc, rfl⟩

/-- A removal leaves the world as it is, or submits the removal of what was built. -/
theorem after_remove_cases (b : Builder) (r : Resource) (w : World) :
    (b.remove r).after w = w ∨ ∃ built, b.build r = .ok built ∧ (b.remove r).after w =
      ((Change.ofBuilt w.inventory (r.metadata.uid.getD "") built).submit b.domain).after w := by
  rw [after]
  cases hb : b.build r with
  | error fault =>
    rw [exec_remove_of_fault hb]
    exact .inl rfl
  | ok built =>
    rw [exec_remove_of_build hb]
    exact .inr ⟨built, rfl, rfl⟩

/-- The removal of an owner leaves the world as it is, or submits what is planned for the owner. -/
theorem after_removeOwner_cases (b : Builder) (uid : String) (w : World) :
    (b.removeOwner uid).after w = w ∨ ∃ c, Change.forOwner w.inventory uid = some c ∧
      (b.removeOwner uid).after w = (c.submit b.domain).after w := by
  rw [after, exec_removeOwner]
  cases hc : Change.forOwner w.inventory uid with
  | none => exact .inl rfl
  | some c => exact .inr ⟨c, rfl, rfl⟩

/-- An update is made of steps. -/
theorem update_steps (b : Builder) (r : Resource) (w : World) :
    b.Steps w ((b.update r).after w) := by
  rcases b.after_update_cases r w with hsame | ⟨built, c, hb, hc, hafter⟩
  · rw [hsame]
    exact .refl
  · rw [hafter]
    exact submit_steps (.update hb hc)

/-- A removal is made of steps. -/
theorem remove_steps (b : Builder) (r : Resource) (w : World) :
    b.Steps w ((b.remove r).after w) := by
  rcases b.after_remove_cases r w with hsame | ⟨built, hb, hafter⟩
  · rw [hsame]
    exact .refl
  · rw [hafter]
    exact submit_steps (.removal hb)

/-- A removal by owner is made of steps. -/
theorem removeOwner_steps (b : Builder) (uid : String) (w : World) :
    b.Steps w ((b.removeOwner uid).after w) := by
  rcases b.after_removeOwner_cases uid w with hsame | ⟨c, hc, hafter⟩
  · rw [hsame]
    exact .refl
  · rw [hafter]
    exact submit_steps (.owner hc)

/-- A write of groups is made of steps, one for each group that is accepted. -/
theorem updateGroups_steps (b : Builder) (gs : List Group) (w : World) :
    b.Steps w ((b.updateGroups gs).after w) := by
  -- on the groups, for every world: each group is written in the world that the last one left
  induction gs generalizing w with
  | nil => exact .refl
  | cons g rest ih =>
    rw [after, exec_updateGroups_cons]
    cases ha : w.answer with
    | none => exact .head (.groupAccepted g ha) (ih _)
    | some fault => exact .single (.groupRefused g ha)

/-- The removal of one vanished owner is made of steps. -/
theorem sweepOne_steps (b : Builder) (owner : String) (w : World) :
    b.Steps w (b.sweepOne owner w).2 := by
  have h := b.removeOwner_steps owner w
  rw [after] at h
  rw [sweepOne]
  split
  · exact .refl
  · rcases he : (b.removeOwner owner).exec w with ⟨_ | _, v⟩ <;> rw [he] at h <;> exact h

/-- The removal of several vanished owners is made of steps. -/
theorem sweep_steps (b : Builder) (owners : List String) (w : World) :
    b.Steps w ((b.sweep owners).after w) := by
  induction owners generalizing w with
  | nil => exact .refl
  | cons owner rest ih =>
    have h := (b.sweepOne_steps owner w).trans (ih (b.sweepOne owner w).2)
    rw [after] at h
    rw [after, exec_sweep_cons]
    rcases he : (b.sweep rest).exec (b.sweepOne owner w).2 with ⟨_ | _, v⟩ <;> rw [he] at h <;>
      exact h

/-- A collection is made of steps, of which the listing is the first. -/
theorem collect_steps (b : Builder) (live : Except Fault TextSet) (w : World) :
    b.Steps w ((b.collect { uids := live }).after w) := by
  rw [after, exec_collect]
  cases live with
  | error fault => exact .single .listed
  | ok uids => exact .head .listed (b.sweep_steps _ _)

/-- A job takes steps and does nothing else. -/
theorem serve_steps (b : Builder) (job : Job) (w : World) :
    b.Steps w ((b.serve job).after w) := by
  cases job with
  | update r => exact b.update_steps r w
  | remove r => exact b.remove_steps r w
  | removeOwner uid => exact b.removeOwner_steps uid w
  | updateGroups gs => exact b.updateGroups_steps gs w
  | collect live =>
    have h := b.collect_steps live w
    rw [after] at h
    rw [serve, after, exec_bind]
    rcases he : (b.collect { uids := live }).exec w with ⟨_ | _, v⟩ <;> rw [he] at h <;> exact h

/-- So do any number of jobs. -/
theorem serveAll_steps (b : Builder) (jobs : List Job) (w : World) :
    b.Steps w (b.serveAll jobs w) := by
  induction jobs generalizing w with
  | nil => exact .refl
  | cons job rest ih => exact (b.serve_steps job w).trans (ih _)

/-! ## What a job keeps

A job that is known plans changes of its own kind only. A property of inventories that these changes
keep is kept by the job, whatever the backend answers. -/

section Keeps

variable {P : Inventory → Prop}

/-- A property of inventories is kept by a submission if the change keeps it. -/
theorem submit_keeps {c : Change} (hc : P c.after) (h : P w.inventory) :
    P ((c.submit b.domain).after w).inventory := by
  rw [after, Change.exec_submit]
  cases w.answer with
  | none => exact hc
  | some fault => exact h

/-- It is kept by a removal by owner if such changes keep it. -/
theorem removeOwner_keeps (howner : ∀ {m uid c}, P m → Change.forOwner m uid = some c → P c.after)
    (uid : String) (h : P w.inventory) : P ((b.removeOwner uid).after w).inventory := by
  rcases b.after_removeOwner_cases uid w with hsame | ⟨c, hc, hafter⟩
  · rw [hsame]
    exact h
  · rw [hafter]
    exact submit_keeps (howner h hc) h

/-- It is kept by the removal of several owners if such changes keep it. -/
theorem sweep_keeps (howner : ∀ {m uid c}, P m → Change.forOwner m uid = some c → P c.after)
    (owners : List String) (h : P w.inventory) : P ((b.sweep owners).after w).inventory := by
  -- each owner is removed from the inventory that the one before left
  induction owners generalizing w with
  | nil => exact h
  | cons owner rest ih =>
    have hone : P (b.sweepOne owner w).2.inventory := by
      have hremove := removeOwner_keeps (b := b) howner owner h
      rw [after] at hremove
      rw [sweepOne]
      split
      · exact h
      · rcases he : (b.removeOwner owner).exec w with ⟨_ | _, v⟩ <;> rw [he] at hremove <;>
          exact hremove
    have hrest := ih hone
    rw [after] at hrest
    rw [after, exec_sweep_cons]
    rcases he : (b.sweep rest).exec (b.sweepOne owner w).2 with ⟨_ | _, v⟩ <;> rw [he] at hrest <;>
      exact hrest

/-- It is kept by a job that writes no groups directly if the changes of the job keep it. -/
theorem serve_keeps {job : Job} (hgroups : ∀ gs, job ≠ .updateGroups gs)
    (hupdate : ∀ {m r built c}, job = .update r → P m → b.build r = .ok built →
      Change.toBuilt m (r.metadata.uid.getD "") built = some c → P c.after)
    (hremove : ∀ {m r built}, job = .remove r → P m → b.build r = .ok built →
      P (Change.ofBuilt m (r.metadata.uid.getD "") built).after)
    (howner : ∀ {m uid c}, P m → Change.forOwner m uid = some c → P c.after)
    (h : P w.inventory) : P ((b.serve job).after w).inventory := by
  cases job with
  | update r =>
    rcases b.after_update_cases r w with hsame | ⟨built, c, hb, hc, hafter⟩
    · rw [serve, hsame]
      exact h
    · rw [serve, hafter]
      exact submit_keeps (hupdate rfl h hb hc) h
  | remove r =>
    rcases b.after_remove_cases r w with hsame | ⟨built, hb, hafter⟩
    · rw [serve, hsame]
      exact h
    · rw [serve, hafter]
      exact submit_keeps (hremove rfl h hb) h
  | removeOwner uid => exact removeOwner_keeps howner uid h
  | updateGroups gs => exact absurd rfl (hgroups gs)
  | collect live =>
    rw [serve, after, exec_bind, exec_collect]
    cases live with
    | error fault => exact h
    | ok uids =>
      -- the listing has changed nothing, so the removals start from the same inventory
      have hsweep := sweep_keeps (b := b) howner (w.inventory.owners.difference uids)
        (w := (w.called .listLive).stocked (w.inventory.putAll {})) h
      rw [after] at hsweep
      rcases he : (b.sweep (w.inventory.owners.difference uids)).exec
        ((w.called .listLive).stocked (w.inventory.putAll {})) with ⟨_ | _, v⟩ <;>
        rw [he] at hsweep <;> simp only [he] <;> exact hsweep

/-- It is kept by any number of jobs, which plan changes of their kinds only. -/
theorem serveAll_keeps {jobs : List Job} (hgroups : ∀ gs, .updateGroups gs ∉ jobs)
    (hupdate : ∀ {m r built c}, .update r ∈ jobs → P m → b.build r = .ok built →
      Change.toBuilt m (r.metadata.uid.getD "") built = some c → P c.after)
    (hremove : ∀ {m r built}, .remove r ∈ jobs → P m → b.build r = .ok built →
      P (Change.ofBuilt m (r.metadata.uid.getD "") built).after)
    (howner : ∀ {m uid c}, P m → Change.forOwner m uid = some c → P c.after)
    (h : P w.inventory) : P (b.serveAll jobs w).inventory := by
  induction jobs generalizing w with
  | nil => exact h
  | cons job rest ih =>
    have hjob : P ((b.serve job).after w).inventory := by
      refine serve_keeps ?_ ?_ ?_ howner h
      · rintro gs rfl
        exact hgroups gs List.mem_cons_self
      · rintro m r built c rfl
        exact hupdate List.mem_cons_self
      · rintro m r built rfl
        exact hremove List.mem_cons_self
    exact ih (fun gs hgs => hgroups gs (List.mem_cons_of_mem _ hgs))
      (fun hr => hupdate (List.mem_cons_of_mem _ hr))
      (fun hr => hremove (List.mem_cons_of_mem _ hr)) hjob

end Keeps

/-! ## Inventories that are reached -/

/-- The inventories that a service which was filled from listings can come to. -/
inductive Reaches (b : Builder) (a : Arrivals) : Inventory → Prop
  | filled (ha : (a.sync .empty).2 = none) : Reaches b a (a.sync .empty).1
  | served {w : World} (job : Job) (hw : Reaches b a w.inventory) :
      Reaches b a ((b.serve job).after w).inventory

/-- What holds of a filled inventory, and is kept by planned changes and by groups put in, holds of
every inventory that is reached. -/
theorem Reaches.invariant {a : Arrivals} {P : Inventory → Prop} {m : Inventory}
    (hfill : (a.sync .empty).2 = none → P (a.sync .empty).1)
    (hchange : ∀ {m c}, P m → Change.Planned b m c → P c.after)
    (hgroup : ∀ {m : Inventory} (g : Group), P m → P { m with groups := m.groups.put g })
    (h : b.Reaches a m) : P m := by
  induction h with
  | filled ha => exact hfill ha
  | served job _ ih =>
    -- within a job the property is carried by the steps
    refine (b.serve_steps job _).preserve (P := fun w => P w.inventory) (fun hs hw => ?_) ih
    cases hs with
    | accepted hc _ => exact hchange hw hc
    | refused => exact hw
    | groupAccepted g _ => exact hgroup g hw
    | groupRefused => exact hw
    | listed => exact hw

end Builder

end FirewallOperator
