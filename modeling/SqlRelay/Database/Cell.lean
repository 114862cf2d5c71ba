import SqlRelay.Double.Basic
/-!
# Cells of result rows

A cell is a typed value in a named column, as the database sends it.

Main results:

- Type `Cell`, with the name of its SQL type in `Cell.typeName`.
- Type `Row`, a list of named cells; a name may occur more than once.
-/

namespace SqlRelay

/-- A typed value that the database sends. -/
inductive Cell where
  | null
  | bool (value : Bool)
  | smallInt (value : Int)
  | integer (value : Int)
  | bigInt (value : Int)
  | real (value : Double)
  | double (value : Double)
  | text (value : String)
  | blob (bytes : List UInt8)

/-- The name of a cell's SQL type. -/
def Cell.typeName : Cell → String
  | .null => "NULL"
  | .bool _ => "BOOLEAN"
  | .smallInt _ => "SMALLINT"
  | .integer _ => "INTEGER"
  | .bigInt _ => "BIGINT"
  | .real _ => "REAL"
  | .double _ => "DOUBLE"
  | .text _ => "TEXT"
  | .blob _ => "BLOB"

/-- The integer of a cell of any integer width. -/
def Cell.integer? : Cell → Option Int
  | .smallInt n | .integer n | .bigInt n => some n
  | _ => none

/-- Named cells in the order of the columns. -/
abbrev Row := List (String × Cell)

end SqlRelay
