import SqlRelay.Database.Exchange
import SqlRelay.Script.Metadata
import SqlRelay.Script.Statement
/-!
# Running scripts

The statements of a script run in one transaction, in order and each with the parameters that it
names.  Nothing is committed unless all succeed; the first failure rolls everything back.  The
outputs of the exported statements are kept by label.

Main results:

- Definition `runScript` is the whole run.
- Definition `ScriptOutput.ofExports` shapes the output.
- Theorem `bindNames_eq_ok_iff`: binding succeeds when every name has a value.
-/

namespace SqlRelay

/-- The values of names in order, or the first name without one. -/
def bindNames (ps : Parameters) : List String → Except RelayError (List Parameter)
  | [] => .ok []
  | name :: rest =>
    match ps.get? name with
    | none => .error (.badInput (.absent name))
    | some value =>
      match bindNames ps rest with
      | .error e => .error e
      | .ok values => .ok (value :: values)

/-- The arguments of a statement. -/
def Statement.arguments (s : Statement) (ps : Parameters) : Except RelayError (List Parameter) :=
  bindNames ps s.params

/-- Binding succeeds when every name has a value. -/
theorem bindNames_eq_ok_iff (ps : Parameters) (names : List String) (values : List Parameter) :
    bindNames ps names = .ok values ↔ names.map ps.get? = values.map some := by
  induction names generalizing values with
  | nil => cases values <;> simp [bindNames]
  | cons name rest ih =>
    unfold bindNames
    cases hv : ps.get? name with
    | none => cases values <;> simp [hv]
    | some value =>
      cases hr : bindNames ps rest with
      | error e =>
        cases values with
        | nil => simp
        | cons v vs =>
          have := ih vs
          rw [hr] at this
          simp only [reduceCtorEq, false_iff] at this
          simp [hv, this]
      | ok found =>
        have h1 := (ih found).1 hr
        cases values with
        | nil => simp
        | cons v vs =>
          have h2 := ih vs
          rw [hr] at h2
          simp only [Except.ok.injEq] at h2
          simp [hv, ← h2]

/-- The output of a script: none, that of one label, or that of several labels. -/
inductive ScriptOutput where
  | empty
  | single (value : Json)
  | labeled (values : Fields Json)

/-- The shape of exported outputs. -/
def ScriptOutput.ofExports (exports : Fields Json) : ScriptOutput :=
  match exports with
  | [] => .empty
  | [(_, value)] => .single value
  | several => .labeled several

/-- The JSON form of an output, if there is any. -/
def ScriptOutput.json? : ScriptOutput → Option Json
  | .empty => none
  | .single value => some value
  | .labeled values => some (.object values)

/-! ## Running -/

/-- Runs one statement: its rows are the output of a query, and its outcome that of a write. -/
def Statement.run (s : Statement) (d : Dialect) (ps : Parameters) (m : Metadata) :
    Session.Call Json := do
  let arguments ← Action.ofExcept (s.arguments ps)
  let sql := m.splice s.sql
  if s.isQuery then
    pure (rowsJson (← Session.fetch sql arguments))
  else
    pure (← Session.write d sql arguments).toJson

/-- Runs statements in order and adds the exported outputs to those before. -/
def runStatements (d : Dialect) (ps : Parameters) (m : Metadata) (exports : Fields Json) :
    List Statement → Session.Call (Fields Json)
  | [] => pure exports
  | s :: rest => do
    let output ← s.run d ps m
    runStatements d ps m (if s.isExported then exports.put s.label output else exports) rest

/-- Runs the statements of a script in one transaction.  An error while rolling back does not
replace the error that led there. -/
def runScript (d : Dialect) (statements : List Statement) (ps : Parameters) (m : Metadata) :
    Session.Call ScriptOutput := do
  Session.begin
  match ← Action.attempt (runStatements d ps m [] statements) with
  | .ok exports =>
    Session.commit
    pure (ScriptOutput.ofExports exports)
  | .error (e : RelayError) =>
    let _ ← Action.attempt Session.rollback
    Action.fail e

end SqlRelay
