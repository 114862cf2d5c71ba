import SqlRelay.Access.Authorizer
import SqlRelay.Access.Managed
import SqlRelay.Script.Run
import SqlRelay.Script.Shelf
import SqlRelay.Table.Basic
/-!
# The gateway

The gateway holds the databases, tables, scripts and tokens of a configuration.  A request is first
authorized, and then runs a script or acts on a table.  An object that belongs to one database is
hidden from all others.

Main results:

- Definition `Gateway.ofConfig` builds a gateway.
- Definitions `Gateway.authorize`, `Gateway.execute` and `Gateway.useTable` are what requests do.
- Definition `Gateway.publicity` says which objects there are and whether they need a token.
-/

namespace SqlRelay

/-- What stays the same while requests come in. -/
structure Gateway where
  databases : Fields Database
  tables : Fields Table
  scripts : Fields Script
  tokens : Fields (List Grant)
  managed : Option ManagedGrants
  caching : Bool
  pageSize : Nat
  recompile : Bool

/-- What requests change: the session with the databases, the cache of grants, and the statements
that are kept of each script. -/
structure GatewayState where
  access : AccessState Session
  shelves : Fields Shelf

namespace GatewayState

/-- Before the first request. -/
def start : GatewayState := ⟨⟨GrantCache.empty, Session.start⟩, []⟩

/-- The session. -/
def session (s : GatewayState) : Session := s.access.world

/-- Changes the session. -/
def withSession (session : Session) (s : GatewayState) : GatewayState :=
  { s with access := { s.access with world := session } }

/-- Changes the cache and the session. -/
def withAccess (access : AccessState Session) (s : GatewayState) : GatewayState :=
  { s with access := access }

/-- What is kept of a script. -/
def shelf (id : String) (s : GatewayState) : Shelf :=
  (s.shelves.get? id).getD none

/-- Changes what is kept of a script. -/
def withShelf (id : String) (shelf : Shelf) (s : GatewayState) : GatewayState :=
  { s with shelves := s.shelves.put id shelf }

end GatewayState

namespace Gateway

/-- An action on the state of a gateway. -/
abbrev Task := Action RelayError GatewayState

/-- The source of grants that a configuration asks for. -/
def managedOf (around : Surroundings) (databases : Fields Database) :
    Option ManagedConfig → Except RelayError (Option ManagedGrants)
  | none => .ok none
  | some config =>
    match databases.get? (Text.trimmed config.database) with
    | none => .error (.misconfigured (.grantDatabase config.database))
    | some database =>
      match ManagedGrants.load around config database with
      | .error e => .error e
      | .ok managed => .ok (some managed)

/-- Changes every value by its name. -/
def mapNamed {α β : Type} (f : String → α → β) (fields : Fields α) : Fields β :=
  fields.map (fun field => (field.1, f field.1 field.2))

/-- The gateway of a configuration. -/
def ofConfig (around : Surroundings) (config : Configuration) (recompile : Bool) :
    Except RelayError Gateway :=
  let databases := mapNamed (Database.ofConfig around) config.databases
  match managedOf around databases config.managed with
  | .error e => .error e
  | .ok managed =>
    .ok {
      databases := databases
      tables := mapNamed Table.ofConfig config.tables
      scripts := mapNamed Script.ofConfig config.scripts
      tokens := config.tokens
      managed := managed
      caching := config.cacheTokens
      pageSize := config.pageSize
      recompile := recompile }

/-- Runs a call on the session. -/
def onSession {α : Type} (call : Session.Call α) : Task α :=
  Action.inside GatewayState.session GatewayState.withSession call

/-- Runs an action on cache and session. -/
def onAccess {α : Type} (m : Action RelayError (AccessState Session) α) : Task α :=
  Action.inside GatewayState.access GatewayState.withAccess m

/-- The database of an id. -/
def database (g : Gateway) (id : String) : Except RelayError Database :=
  match g.databases.get? id with
  | some db => .ok db
  | none => .error (.missing (.database id))

/-- The script of an id that a database can see. -/
def script? (g : Gateway) (database id : String) : Option Script :=
  (g.scripts.get? id).filter (·.visibleIn database)

/-- The table of an id that a database can see. -/
def table? (g : Gateway) (database id : String) : Option Table :=
  (g.tables.get? id).filter (·.visibleIn database)

/-- Whether the object of a request needs no token; an object that is not there is refused. -/
def publicity (g : Gateway) (r : AccessRequest) : Except RelayError Bool :=
  match r.operation with
  | .exec =>
    match g.script? r.database r.object with
    | some script => .ok script.publicExec
    | none => .error (.refused (.hiddenScript r.object))
  | operation =>
    match g.table? r.database r.object with
    | some table => .ok (table.isPublic operation)
    | none => .error (.refused (.hiddenTable r.object))

/-! ## Authorization and requests -/

/-- The authorizer of a gateway. -/
def authorizer (g : Gateway) (around : Surroundings) : Authorizer Session where
  fixed := g.tokens
  source := g.managed.map (fun managed token =>
    Action.inside AccessState.world (fun session s => { s with world := session })
      (managed.grants around token))
  caching := g.caching

/-- Authorizes a request: its database and object must be there, and a token is asked for only if
the object is not public. -/
def authorize (g : Gateway) (around : Surroundings) (r : AccessRequest) : Task Unit :=
  match g.database r.database with
  | .error e => Action.fail e
  | .ok _ =>
    match g.publicity r with
    | .error e => Action.fail e
    | .ok true => pure ()
    | .ok false => onAccess ((g.authorizer around).check r)

/-- Forgets the cached grants of a token. -/
def clearToken (token : String) : Task Bool :=
  onAccess (Authorizer.clear token)

/-- Runs a script on a database. -/
def execute (g : Gateway) (around : Surroundings) (database script : String) (ps : Parameters)
    (m : Metadata) : Task ScriptOutput := do
  let db ← Action.ofExcept (g.database database)
  match g.script? database script with
  | none => Action.fail (.missing (.script script))
  | some found =>
    let supply ← Action.inside (GatewayState.shelf script) (GatewayState.withShelf script)
      (found.statements around db.dialect g.recompile)
    onSession (db.ensureOpen around)
    onSession (runScript db.dialect supply.statements ps m)

/-- Acts on a table of a database. -/
def useTable (g : Gateway) (around : Surroundings) (database table : String) (action : TableAction)
    (ps : Parameters) : Task Json := do
  let db ← Action.ofExcept (g.database database)
  match g.table? database table with
  | none => Action.fail (.missing (.table table))
  | some found =>
    onSession (db.ensureOpen around)
    onSession (found.perform db.dialect action ps g.pageSize)

end Gateway
end SqlRelay
