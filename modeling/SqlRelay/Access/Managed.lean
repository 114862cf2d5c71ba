import SqlRelay.Access.Grant
import SqlRelay.Database.Basic
import SqlRelay.Database.Exchange
import SqlRelay.Script.Statement
/-!
# Grants in a database

Grants may stand in a table of one of the databases.  The query for them is given as text, in a
file, or by the names of the table and its columns; the token is only ever an argument of it.

Main results:

- Definition `ManagedConfig.template` writes the query from the names.
- Definition `ManagedGrants.load` compiles the query, `ManagedGrants.grants` runs it.
- Definition `Grant.ofRow` reads a row.
-/

namespace SqlRelay

/-- An escaped name, or a standard one if it is blank. -/
def nameOr (name standard : String) : String :=
  let t := Text.trimmed name
  escapeSql (if t.isEmpty then standard else t)

/-- The query that the names of table and columns make. -/
def ManagedConfig.template (c : ManagedConfig) : String :=
  "SELECT " ++ nameOr c.targetDatabase "TARGET_DATABASE" ++ " AS \"target_database\", " ++
    nameOr c.targetObjects "TARGET_OBJECTS" ++ " AS \"target_objects\", " ++
    nameOr c.allowedOrigins "ALLOWED_ORIGINS" ++ " AS \"allowed_origins\", " ++
    nameOr c.read "READ_PRIVATE" ++ " AS \"read_private\", " ++
    nameOr c.write "WRITE_PRIVATE" ++ " AS \"write_private\", " ++
    nameOr c.exec "EXEC_PRIVATE" ++ " AS \"exec_private\" FROM " ++
    nameOr c.table "TOKENS" ++ " WHERE " ++ nameOr c.token "TOKEN" ++ "=?token?"

/-- The text of the query: as given, from a file, or from the names. -/
def ManagedConfig.queryText (c : ManagedConfig) (around : Surroundings) :
    Except RelayError String :=
  let path := Text.trimmed c.queryPath
  if !(Text.trimmed c.query).isEmpty then .ok c.query
  else if !path.isEmpty then
    match around.readText path with
    | .ok text => .ok text
    | .error cause => .error (.file path cause)
  else .ok c.template

namespace Grant

/-- The text of a column; null and no column are empty. -/
def textOf (row : JsonRow) (name : String) : String :=
  match row.get? name with
  | some (.text s) => s
  | some .null | none => ""
  | some other => other.compact

/-- The flag of a column; null and no column are off. -/
def flagOf (row : JsonRow) (name : String) : Bool :=
  (((row.get? name).map Parameter.ofJson).bind Parameter.flag?).getD false

/-- The grant of a row. -/
def ofRow (row : JsonRow) : Grant where
  database := textOf row "target_database"
  objects := Text.fieldsOf (textOf row "target_objects")
  origins := Text.fieldsOf (textOf row "allowed_origins")
  read := flagOf row "read_private"
  write := flagOf row "write_private"
  exec := flagOf row "exec_private"

end Grant

/-! ## The source -/

/-- The query for grants in its database. -/
structure ManagedGrants where
  database : Database
  statement : Statement

namespace ManagedGrants

/-- The name under which the query is compiled. -/
def scriptName : String := "managed_tokens"

/-- Compiles the query; only its first statement counts. -/
def load (around : Surroundings) (config : ManagedConfig) (database : Database) :
    Except RelayError ManagedGrants :=
  match config.queryText around with
  | .error e => .error e
  | .ok text =>
    match compile scriptName text.toList database.dialect with
    | .error cause => .error (.compile scriptName cause)
    | .ok [] => .error (.compile scriptName .noStatement)
    | .ok (statement :: _) => .ok ⟨database, statement⟩

/-- The grants of a token: the token fills every placeholder. -/
def grants (m : ManagedGrants) (around : Surroundings) (token : String) :
    Session.Call (List Grant) := do
  m.database.ensureOpen around
  let rows ← Session.fetch m.statement.sql (m.statement.params.map (fun _ => .text token))
  pure (rows.map Grant.ofRow)

end ManagedGrants
end SqlRelay
