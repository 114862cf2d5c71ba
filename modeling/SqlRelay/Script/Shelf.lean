import SqlRelay.Action
import SqlRelay.Configuration.Basic
import SqlRelay.Error
import SqlRelay.Script.Statement
/-!
# Scripts and their compiled forms

A script of the configuration holds its text or names a file.  Its statements are compiled when
they are first wanted and kept for the dialect they were compiled for; a failure leaves nothing
kept.

Main results:

- Definition `Script.statements` answers from what is kept or compiles anew.
- Theorem `statements_of_kept`: what is kept for a dialect is the answer for it.
-/

namespace SqlRelay

/-- A script of the configuration; without an owner it belongs to every database. -/
structure Script where
  id : String
  owner : String
  sql : String
  path : Option String
  publicExec : Bool

/-- Statements with the dialect that they were compiled for. -/
structure Compiled where
  dialect : Dialect
  statements : List Statement

/-- What is kept of a script: the last compilation, if it went well. -/
abbrev Shelf := Option Compiled

/-- Statements on demand, and whether they were kept before. -/
structure Supply where
  statements : List Statement
  wasKept : Bool

namespace Script

/-- The script of a configuration. -/
def ofConfig (id : String) (config : ScriptConfig) : Script :=
  let path := Text.trimmed config.path
  { id := id
    owner := Text.trimmed config.database
    sql := Text.trimmed config.sql
    path := if path.isEmpty then none else some path
    publicExec := config.publicExec }

/-- Whether a script belongs to a database. -/
def visibleIn (s : Script) (database : String) : Bool :=
  s.owner.isEmpty || s.owner == database

/-- The text of a script. -/
def source (s : Script) (around : Surroundings) : Except RelayError String :=
  match s.path with
  | some path =>
    match around.readText path with
    | .ok text => .ok text
    | .error cause => .error (.file path cause)
  | none => if s.sql.isEmpty then .error (.misconfigured (.emptyScript s.id)) else .ok s.sql

/-- Compiles the text of a script. -/
def compiled (s : Script) (around : Surroundings) (d : Dialect) :
    Except RelayError (List Statement) :=
  match s.source around with
  | .error e => .error e
  | .ok text =>
    match compile s.id text.toList d with
    | .error cause => .error (.compile s.id cause)
    | .ok statements => .ok statements

/-- The statements that are kept for a dialect. -/
def keptFor (shelf : Shelf) (d : Dialect) : Option (List Statement) :=
  match shelf with
  | some kept => if kept.dialect = d then some kept.statements else none
  | none => none

/-- The statements for a dialect: those that are kept, unless they are to be compiled anew. -/
def statements (s : Script) (around : Surroundings) (d : Dialect) (anew : Bool) :
    Action RelayError Shelf Supply := fun shelf =>
  match if anew then none else keptFor shelf d with
  | some kept => (.ok ⟨kept, true⟩, shelf)
  | none =>
    match s.compiled around d with
    | .error e => (.error e, none)
    | .ok list => (.ok ⟨list, false⟩, some ⟨d, list⟩)

/-- What is kept for a dialect is the answer for it. -/
theorem statements_of_kept (s : Script) (around : Surroundings) (kept : Compiled) :
    s.statements around kept.dialect false (some kept) =
      (.ok ⟨kept.statements, true⟩, some kept) := by
  simp [statements, keptFor]

/-- A failure leaves nothing kept. -/
theorem statements_of_error {s : Script} {around : Surroundings} {d : Dialect} {anew : Bool}
    {shelf left : Shelf} {e : RelayError}
    (h : s.statements around d anew shelf = (.error e, left)) : left = none := by
  unfold statements at h
  split at h
  · simp at h
  · split at h
    · simp at h; exact h.2.symm
    · simp at h

end Script
end SqlRelay
