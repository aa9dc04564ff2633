import FirewallOperator.Fault

/-! # Computations with a state

Operations on the world and exchanges with a server are computations that change a state and may
end with a fault. `runFrom` gives the outcome of one and the state after it, and each way of
building such a computation has its equation here. -/

namespace FirewallOperator

variable {σ α β : Type}

/-- The outcome of a computation from a state, and the state after it. -/
def runFrom (x : ExceptT Fault (StateM σ) α) (s : σ) : Except Fault α × σ := (ExceptT.run x).run s

/-- A value changes nothing. -/
@[simp] theorem runFrom_pure (a : α) (s : σ) :
    runFrom (pure a : ExceptT Fault (StateM σ) α) s = (.ok a, s) := rfl

/-- A fault changes nothing. -/
@[simp] theorem runFrom_throw (fault : Fault) (s : σ) :
    runFrom (throw fault : ExceptT Fault (StateM σ) α) s = (.error fault, s) := rfl

/-- The second computation runs from the state that the first one leaves, unless that one fails. -/
theorem runFrom_bind (x : ExceptT Fault (StateM σ) α) (next : α → ExceptT Fault (StateM σ) β)
    (s : σ) :
    runFrom (x >>= next) s =
      match runFrom x s with
      | (.ok a, t) => runFrom (next a) t
      | (.error fault, t) => (.error fault, t) := by
  rw [runFrom, runFrom, ExceptT.run_bind, StateT.run_bind]
  cases (ExceptT.run x).run s with
  | mk outcome t => cases outcome <;> rfl

/-- A handler runs from the state that the failed computation leaves. -/
theorem runFrom_tryCatch (x : ExceptT Fault (StateM σ) α)
    (handler : Fault → ExceptT Fault (StateM σ) α) (s : σ) :
    runFrom (tryCatch x handler) s =
      match runFrom x s with
      | (.ok a, t) => (.ok a, t)
      | (.error fault, t) => runFrom (handler fault) t := by
  simp only [runFrom, ExceptT.run, StateT.run, tryCatch, tryCatchThe, MonadExceptOf.tryCatch,
    ExceptT.tryCatch, ExceptT.mk, bind, StateT.bind]
  cases x s with
  | mk outcome t => cases outcome <;> rfl

/-- What may fail without looking at the state leaves it alone. -/
@[simp] theorem runFrom_lift (outcome : Except Fault α) (s : σ) :
    runFrom (liftM outcome : ExceptT Fault (StateM σ) α) s = (outcome, s) := by
  cases outcome <;> rfl

/-- A function of what is returned changes nothing else. -/
theorem runFrom_map (f : α → β) (x : ExceptT Fault (StateM σ) α) (s : σ) :
    runFrom (f <$> x) s =
      match runFrom x s with
      | (.ok a, t) => (.ok (f a), t)
      | (.error fault, t) => (.error fault, t) := by
  rw [map_eq_pure_bind, runFrom_bind]
  rcases runFrom x s with ⟨_ | _, _⟩ <;> rfl

end FirewallOperator
