import SqlRelay.Text.Letters
import SqlRelay.Text.Notation
import SqlRelay.Json.Basic
import SqlRelay.Database.Fault
/-!
# Decoding of result rows

A row becomes a JSON object whose members are named by the columns in lower case.  A cell is read as
the type that the name of its SQL type asks for; if it cannot be read so, as each type in turn.  The
driver reads numbers of single precision as nothing at all, so a row with one fails.

Main results:

- Definition `decodeCell` decodes one cell, with `Wanted.ofTypeName` for its own type and
  `decodeUntyped` for all types in turn.
- Definition `decodeRows` decodes rows in order or gives the first fault.
-/

namespace SqlRelay

/-- A decoded row. -/
abbrev JsonRow := Fields Json

/-- The integers of thirty-two bits with a sign. -/
def isInteger32 (n : Int) : Bool :=
  -(twoTo 31 : Int) ≤ n && n < twoTo 31

/-- The value that the driver reads from a cell as a wanted type.  Every width of integers is read as
the widest one; a number has to be of double precision. -/
def Cell.read? (cell : Cell) : Wanted → Option Json
  | .flag =>
    match cell with
    | .bool b => some (.bool b)
    | _ => none
  | .integer => cell.integer?.map .int
  | .shortInteger => (cell.integer?.filter isInteger32).map .int
  | .number =>
    match cell with
    | .double x => some (Json.ofDouble x)
    | _ => none
  | .text =>
    match cell with
    | .text s => some (.text s)
    | _ => none
  | .bytes =>
    match cell with
    | .blob bytes => some (.text (String.ofList (Text.base64 bytes)))
    | _ => none

/-- Reads the cell in the column of an index as a wanted type. -/
def Cell.readAs (cell : Cell) (index : Nat) (wanted : Wanted) : Except DatabaseFault Json :=
  match cell.read? wanted with
  | some value => .ok value
  | none => .error (.mismatch index wanted cell.typeName)

/-- The type that the name of an SQL type asks for; text for a name that is not known. -/
def Wanted.ofTypeName (typeName : String) : Wanted :=
  match typeName with
  | "BOOLEAN" | "BOOL" => .flag
  | "SMALLINT" | "INTEGER" | "BIGINT" | "INT" => .integer
  | "REAL" | "DOUBLE" | "FLOAT" => .number
  | "BLOB" => .bytes
  | _ => .text

/-- The types that are tried in turn, before bytes as the last one. -/
def Wanted.inTurn : List Wanted :=
  [.text, .integer, .shortInteger, .number, .flag]

/-- Reads a cell as each type in turn. -/
def decodeUntyped (index : Nat) (cell : Cell) : Except DatabaseFault Json :=
  match Wanted.inTurn.findSome? cell.read? with
  | some value => .ok value
  | none => cell.readAs index .bytes

/-- The value of a cell in the column of an index. -/
def decodeCell (index : Nat) (cell : Cell) : Except DatabaseFault Json :=
  if cell.typeName = "NULL" then .ok .null
  else
    match cell.readAs index (Wanted.ofTypeName cell.typeName) with
    | .ok value => .ok value
    | .error _ => decodeUntyped index cell

/-- Decodes the cells from an index on into a row. -/
def decodeCells (index : Nat) (row : JsonRow) : Row → Except DatabaseFault JsonRow
  | [] => .ok row
  | (name, cell) :: rest =>
    match decodeCell index cell with
    | .error e => .error e
    | .ok value => decodeCells (index + 1) (row.put (Text.toLowercase name) value) rest

/-- Decodes a row; of several columns of one name the last counts. -/
def decodeRow (row : Row) : Except DatabaseFault JsonRow :=
  decodeCells 0 [] row

/-- Decodes rows in order. -/
def decodeRows : List Row → Except DatabaseFault (List JsonRow)
  | [] => .ok []
  | row :: rest =>
    match decodeRow row with
    | .error e => .error e
    | .ok first =>
      match decodeRows rest with
      | .error e => .error e
      | .ok more => .ok (first :: more)

/-- The JSON form of rows. -/
def rowsJson (rows : List JsonRow) : Json :=
  .array (rows.map .object)

end SqlRelay
