import SqlRelay.Access.Grant
/-!
# Configuration

What a configuration says about the web side, the databases, the tables and scripts that requests
may address, and the tokens.

Main results:

- Type `Configuration` with the types of its parts.
-/

namespace SqlRelay

/-- The web side. -/
structure WebConfig where
  address : Option String
  cors : Bool
  headers : Fields String

/-- A database.  Kind and locator may name a variable instead. -/
structure DatabaseConfig where
  kind : String
  url : String
  maxConnections : Nat

/-- A table that requests may address. -/
structure TableConfig where
  database : String
  name : String
  primaryKey : String
  columns : List String
  publicRead : Bool
  publicWrite : Bool
  pageSize : Nat
  orderBy : String
  showTotal : Bool

/-- A script that requests may address: its text, or the file that holds it. -/
structure ScriptConfig where
  database : String
  sql : String
  path : String
  publicExec : Bool

/-- The table that holds grants: a query for them, or the names of the table and its columns. -/
structure ManagedConfig where
  database : String
  table : String
  query : String
  queryPath : String
  token : String
  targetDatabase : String
  targetObjects : String
  allowedOrigins : String
  read : String
  write : String
  exec : String

/-- A whole configuration. -/
structure Configuration where
  web : WebConfig
  databases : Fields DatabaseConfig
  tables : Fields TableConfig
  scripts : Fields ScriptConfig
  tokens : Fields (List Grant)
  managed : Option ManagedConfig
  cacheTokens : Bool
  pageSize : Nat

/-- The primary key of a table that names none. -/
def standardPrimaryKey : String := "ID"

/-- The number of connections to a database that names none. -/
def standardConnections : Nat := 8

end SqlRelay
