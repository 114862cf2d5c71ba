import SqlRelay.Text.Blank
/-!
# SQL dialects

The families of SQL engines, and the two pieces of SQL text in which they differ: the positional
placeholder and the clause that cuts one page out of the rows.

Main results:

- Definition `Dialect.ofKind` reads the name of an engine.
- Theorem `placeholder_ne_nil`: every placeholder has a character.
-/

namespace SqlRelay

/-- A family of SQL engines.  A name that is not known makes a dialect of its own, which has
question marks as placeholders and no page clause. -/
inductive Dialect where
  | postgres
  | mySql
  | sqlite
  | sqlServer
  | oracle
  | unknown
  deriving DecidableEq, Repr

namespace Dialect

/-- The dialect of an engine's name, in any case and between blanks. -/
def ofKind (kind : String) : Dialect :=
  match Text.lowered (Text.trimmed kind) with
  | "pgx" | "postgres" | "postgresql" => .postgres
  | "mysql" | "mariadb" => .mySql
  | "sqlite" | "sqlite3" => .sqlite
  | "sqlserver" | "mssql" => .sqlServer
  | "oracle" => .oracle
  | _ => .unknown

/-- The name of a dialect. -/
def name : Dialect → String
  | .postgres => "postgres"
  | .mySql => "mysql"
  | .sqlite => "sqlite"
  | .sqlServer => "sqlserver"
  | .oracle => "oracle"
  | .unknown => "unknown"

/-- The placeholder of the parameter at an index that counts from zero. -/
def placeholder (d : Dialect) (index : Nat) : List Char :=
  match d with
  | .postgres => '$' :: Nat.toDigits 10 (index + 1)
  | .sqlServer => '@' :: 'p' :: Nat.toDigits 10 (index + 1)
  | .oracle => ':' :: Nat.toDigits 10 (index + 1)
  | .mySql | .sqlite | .unknown => ['?']

/-- Every placeholder has a character. -/
theorem placeholder_ne_nil (d : Dialect) (index : Nat) : d.placeholder index ≠ [] := by
  cases d <;> simp [placeholder]

/-- The clause that keeps `limit` rows after the first `offset`; the unknown dialect has none. -/
def pageClause? (d : Dialect) (limit offset : Nat) : Option String :=
  match d with
  | .postgres | .mySql | .sqlite =>
    some ("LIMIT " ++ toString limit ++ " OFFSET " ++ toString offset)
  | .sqlServer | .oracle =>
    some ("OFFSET " ++ toString offset ++ " ROWS FETCH NEXT " ++ toString limit ++ " ROWS ONLY")
  | .unknown => none

/-- Whether a page clause is only allowed after an explicit order. -/
def pageNeedsOrder (d : Dialect) : Bool :=
  d = .sqlServer

end Dialect
end SqlRelay
