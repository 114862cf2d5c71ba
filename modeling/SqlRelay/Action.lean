/-!
# Actions on a state

An action takes a state, gives a result or an error, and leaves a new state in either case.

Main results:

- Definitions `Action.fail`, `Action.attempt`, `Action.modify` and `Action.inside` beside the monad.
- Lemmas `pure_apply` and `bind_apply`, which take an action apart at a state.
-/

namespace SqlRelay

/-- What an action gives, and the state it leaves. -/
def Action (ε σ α : Type) : Type := σ → Except ε α × σ

namespace Action

variable {ε δ σ τ α β : Type}

instance : Monad (Action ε σ) where
  pure a := fun s => (.ok a, s)
  bind m f := fun s =>
    match m s with
    | (.ok a, t) => f a t
    | (.error e, t) => (.error e, t)

@[simp]
theorem pure_apply (a : α) (s : σ) : (pure a : Action ε σ α) s = (.ok a, s) := rfl

/-- Two actions run one after the other, unless the first one fails. -/
theorem bind_apply (m : Action ε σ α) (f : α → Action ε σ β) (s : σ) :
    (m >>= f) s =
      match m s with
      | (.ok a, t) => f a t
      | (.error e, t) => (.error e, t) := rfl

/-- Gives an error and leaves the state alone. -/
def fail (e : ε) : Action ε σ α := fun s => (.error e, s)

@[simp]
theorem fail_apply (e : ε) (s : σ) : (fail e : Action ε σ α) s = (.error e, s) := rfl

/-- Gives a result that is already there. -/
def ofExcept (r : Except ε α) : Action ε σ α := fun s => (r, s)

@[simp]
theorem ofExcept_apply (r : Except ε α) (s : σ) : (ofExcept r : Action ε σ α) s = (r, s) := rfl

/-- Runs an action and gives its result or error as a value. -/
def attempt (m : Action ε σ α) : Action δ σ (Except ε α) := fun s => (.ok (m s).1, (m s).2)

@[simp]
theorem attempt_apply (m : Action ε σ α) (s : σ) :
    (attempt m : Action δ σ (Except ε α)) s = (.ok (m s).1, (m s).2) := rfl

/-- Words an error differently. -/
def mapError (f : ε → δ) (m : Action ε σ α) : Action δ σ α := fun s =>
  match m s with
  | (.ok a, t) => (.ok a, t)
  | (.error e, t) => (.error (f e), t)

/-- Reads the state. -/
def get : Action ε σ σ := fun s => (.ok s, s)

@[simp]
theorem get_apply (s : σ) : (get : Action ε σ σ) s = (.ok s, s) := rfl

/-- Changes the state. -/
def modify (f : σ → σ) : Action ε σ Unit := fun s => (.ok (), f s)

@[simp]
theorem modify_apply (f : σ → σ) (s : σ) : (modify f : Action ε σ Unit) s = (.ok (), f s) := rfl

/-- Runs an action on a part of the state. -/
def inside (part : τ → σ) (put : σ → τ → τ) (m : Action ε σ α) : Action ε τ α := fun t =>
  ((m (part t)).1, put (m (part t)).2 t)

@[simp]
theorem inside_apply (part : τ → σ) (put : σ → τ → τ) (m : Action ε σ α) (t : τ) :
    (inside part put m) t = ((m (part t)).1, put (m (part t)).2 t) := rfl

end Action
end SqlRelay
