import SqlRelay.Sql.Dialect
import SqlRelay.Configuration.Basic
import SqlRelay.Database.Session
/-!
# Databases

A database of the configuration has a dialect and a locator.  It is opened when it is first used
and stays open.

Main results:

- Definitions `Database.ofConfig` and `Database.ensureOpen`.
- Theorem `ensureOpen_of_mem`: an open database is not reached again.
-/

namespace SqlRelay

/-- A database of the configuration. -/
structure Database where
  id : String
  dialect : Dialect
  url : String
  deriving DecidableEq, Repr

namespace Database

/-- The database of a configuration; its kind may name a variable. -/
def ofConfig (around : Surroundings) (id : String) (config : DatabaseConfig) : Database :=
  ⟨id, Dialect.ofKind (around.resolve config.kind), config.url⟩

/-- A text without the given letters in front, if it begins with them. -/
def without (front : List Char) (cs : List Char) : List Char :=
  if front.isPrefixOf cs then cs.drop front.length else cs

/-- The scheme of SQLite with its colon. -/
def sqliteScheme : List Char := ['s', 'q', 'l', 'i', 't', 'e', ':']

/-- The locator of a database, once variables are resolved.  For SQLite a plain path becomes a
locator. -/
def locator (d : Dialect) (url : String) : String :=
  if d = .sqlite && !(sqliteScheme.isPrefixOf url.toList) then
    "sqlite://" ++ String.ofList (without ['f', 'i', 'l', 'e', ':'] url.toList)
  else url

/-- Turns to a database, and opens it unless it is open. -/
def ensureOpen (around : Surroundings) (db : Database) : Session.Call Unit := do
  Action.modify (·.turnTo db.id)
  if (← Action.get).opened.contains db.id then pure ()
  else
    Session.connect (locator db.dialect (around.resolve db.url))
    Action.modify (fun s => { s with opened := db.id :: s.opened })

/-- An open database is not reached again. -/
theorem ensureOpen_of_mem (around : Surroundings) (db : Database) (s : Session)
    (h : db.id ∈ s.opened) : db.ensureOpen around s = (.ok (), s.turnTo db.id) := by
  simp [ensureOpen, Action.bind_apply, Session.turnTo, h]

end Database
end SqlRelay
