import SqlRelay.Sql.Dialect
import SqlRelay.Table.Query
import SqlRelay.Database.Decode
import SqlRelay.Database.Session
/-!
# Exchanges with a database

A query either fetches rows or writes.  The database sends rows before an error, so a row that
cannot be decoded counts before the error.  A write on SQLite does not report the row it made, so
that is asked for in one more query.

Main results:

- Definitions `Session.fetch` and `Session.write`.
- Type `WriteSummary`, the outcome of a write.
-/

namespace SqlRelay

/-- The outcome of a write. -/
structure WriteSummary where
  affected : Nat
  lastId : Option Int
  deriving DecidableEq, Repr

/-- The JSON form of an outcome. -/
def WriteSummary.toJson (w : WriteSummary) : Json :=
  .ofMembers (("rows_affected", .int w.affected) ::
    (w.lastId.map (fun id => ("last_insert_id", Json.int id))).toList)

/-- The rows that an answer gives. -/
def Reply.decoded (r : Reply) : Except DatabaseFault (List JsonRow) :=
  match decodeRows r.rows with
  | .error e => .error e
  | .ok rows =>
    match r.error with
    | some text => .error (.reported text)
    | none => .ok rows

/-- The outcome that an answer gives. -/
def Reply.written (r : Reply) : Except DatabaseFault WriteSummary :=
  match r.error with
  | some text => .error (.reported text)
  | none => .ok ⟨r.affected, r.lastId⟩

/-- The integer in the first cell of the first row that an answer gives. -/
def Reply.firstInteger (r : Reply) : Except DatabaseFault Int :=
  match r.rows, r.error with
  | [] :: _, _ => .error (.noColumn 0 0)
  | ((_, cell) :: _) :: _, _ =>
    match cell.integer? with
    | some n => .ok n
    | none => .error (.mismatch 0 .integer cell.typeName)
  | [], some text => .error (.reported text)
  | [], none => .error .noRow

/-- The words with which a statement that makes rows begins. -/
def makesRows (sql : String) : Bool :=
  let word := (Text.trimStart sql.toList).takeWhile Char.isAlpha
  Text.sameLetters word ['i', 'n', 's', 'e', 'r', 't'] ||
    Text.sameLetters word ['r', 'e', 'p', 'l', 'a', 'c', 'e']

/-- The query for the row that was made last. -/
def lastRowQuery : String := "SELECT last_insert_rowid()"

/-- Whether the row that a write made has to be asked for. -/
def WriteSummary.asksForRow (w : WriteSummary) (d : Dialect) (sql : String) : Bool :=
  w.lastId.isNone && 0 < w.affected && d = .sqlite && makesRows sql

namespace Session

/-- A result of the database as the result of a call. -/
def accept {α : Type} (r : Except DatabaseFault α) : Call α :=
  match r with
  | .ok a => pure a
  | .error e => refuse e

/-- Fetches rows. -/
def fetch (sql : String) (arguments : List Parameter) : Call (List JsonRow) := do
  accept (← send sql arguments).decoded

/-- Writes, and asks for the row that was made where it is not reported. -/
def write (d : Dialect) (sql : String) (arguments : List Parameter) : Call WriteSummary := do
  let summary ← accept (← send sql arguments).written
  if summary.asksForRow d sql then
    let id ← accept (← send lastRowQuery []).firstInteger
    pure { summary with lastId := some id }
  else pure summary

end Session
end SqlRelay
