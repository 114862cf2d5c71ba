import SqlRelay.Configuration.Basic
import SqlRelay.Database.Exchange
/-!
# Tables

A table of the configuration and what requests do with it: list rows, get, update or delete the
row of a key, and insert a row.

Main results:

- Definition `Table.ofConfig` fills in what the configuration leaves out.
- Definition `Table.perform` does what an action says.
-/

namespace SqlRelay

/-- What a request does with a table. -/
inductive TableAction where
  | list
  | get (key : String)
  | insert
  | update (key : String)
  | delete (key : String)
  deriving DecidableEq, Repr

/-- The privilege that an action needs. -/
def TableAction.operation : TableAction → Operation
  | .list | .get _ => .read
  | .insert | .update _ | .delete _ => .write

/-- A table of the configuration; without an owner it belongs to every database. -/
structure Table where
  id : String
  owner : String
  name : String
  primaryKey : String
  columns : List String
  publicRead : Bool
  publicWrite : Bool
  pageSize : Nat
  orderBy : String
  showTotal : Bool

namespace Table

/-- A trimmed text, or a standard one if it is blank. -/
def orStandard (text standard : String) : String :=
  let t := Text.trimmed text
  if t.isEmpty then standard else t

/-- The table of a configuration; its name is the id if none is given. -/
def ofConfig (id : String) (config : TableConfig) : Table where
  id := id
  owner := Text.trimmed config.database
  name := orStandard config.name id
  primaryKey := orStandard config.primaryKey standardPrimaryKey
  columns := config.columns
  publicRead := config.publicRead
  publicWrite := config.publicWrite
  pageSize := config.pageSize
  orderBy := config.orderBy
  showTotal := config.showTotal

/-- Whether a table belongs to a database. -/
def visibleIn (t : Table) (database : String) : Bool :=
  t.owner.isEmpty || t.owner == database

/-- Whether an operation needs no token. -/
def isPublic (t : Table) : Operation → Bool
  | .read => t.publicRead
  | _ => t.publicWrite

/-- What queries need to know of a table. -/
def shape (t : Table) (d : Dialect) : TableShape :=
  ⟨d, t.name, t.primaryKey, t.columns⟩

/-- The paging of a list. -/
def paging (t : Table) (ps : Parameters) (relayPageSize : Nat) : Except RelayError Paging :=
  Paging.resolve ps ⟨t.pageSize, t.orderBy, t.showTotal, relayPageSize⟩

/-! ## Actions -/

/-- The total that a counting query found. -/
def totalOf (rows : List JsonRow) : Json :=
  ((rows.head?).bind (·.get? "total")).getD (.int 0)

/-- A page with its total. -/
def page (paging : Paging) (total : Json) (rows : List JsonRow) : Json :=
  .ofMembers [("total", total), ("page_size", .int paging.pageSize), ("offset", .int paging.offset),
    ("data", rowsJson rows)]

/-- Lists rows, as a page if the total is wanted. -/
def list (t : Table) (d : Dialect) (ps : Parameters) (relayPageSize : Nat) : Session.Call Json := do
  let paging ← Action.ofExcept (t.paging ps relayPageSize)
  let query := (t.shape d).list ps paging
  let rows ← Session.fetch query.rows.sql query.rows.arguments
  match query.total with
  | none => pure (rowsJson rows)
  | some total =>
    let counted ← Session.fetch total.sql total.arguments
    pure (page paging (totalOf counted) rows)

/-- Gets the row of a key. -/
def get (t : Table) (d : Dialect) (key : String) : Session.Call JsonRow := do
  let query := (t.shape d).get key
  match ← Session.fetch query.sql query.arguments with
  | row :: _ => pure row
  | [] => Action.fail (.missing (.row key t.id))

/-- Asks for a connection and writes, and fails with `missing` if no row was affected. -/
def writeOne (d : Dialect) (query : Query) (missing : Missing) : Session.Call WriteSummary := do
  Session.acquire
  let summary ← Session.write d query.sql query.arguments
  if summary.affected = 0 then Action.fail (.missing missing) else pure summary

/-- Inserts a row. -/
def insert (t : Table) (d : Dialect) (ps : Parameters) : Session.Call WriteSummary := do
  writeOne d (← Action.ofExcept ((t.shape d).insert ps)) (.insertedRow t.id)

/-- Updates the row of a key. -/
def update (t : Table) (d : Dialect) (key : String) (ps : Parameters) :
    Session.Call WriteSummary := do
  writeOne d (← Action.ofExcept ((t.shape d).update key ps)) (.row key t.id)

/-- Deletes the row of a key. -/
def delete (t : Table) (d : Dialect) (key : String) : Session.Call WriteSummary :=
  writeOne d ((t.shape d).delete key) (.row key t.id)

/-- Does what an action says. -/
def perform (t : Table) (d : Dialect) (action : TableAction) (ps : Parameters)
    (relayPageSize : Nat) : Session.Call Json :=
  match action with
  | .list => t.list d ps relayPageSize
  | .get key => do pure (.object (← t.get d key))
  | .insert => do pure (← t.insert d ps).toJson
  | .update key => do pure (← t.update d key ps).toJson
  | .delete key => do pure (← t.delete d key).toJson

end Table
end SqlRelay
