import SqlRelay.Url.Fault
import SqlRelay.Database.Cell
/-!
# Faults of databases

What goes wrong between the relay and a database: the locator cannot be used, the pool of the
database gives no connection, the database refuses a call, or an answer cannot be decoded.

Main results:

- Definition `DatabaseFault.message` words each fault.
-/

namespace SqlRelay

/-- What a cell is to be decoded as. -/
inductive Wanted where
  | flag
  | integer
  | shortInteger
  | number
  | text
  | bytes
  deriving DecidableEq, Repr

/-- The name of a wanted type in messages. -/
def Wanted.name : Wanted → String
  | .flag => "bool"
  | .integer => "i64"
  | .shortInteger => "i32"
  | .number => "f64"
  | .text => "alloc::string::String"
  | .bytes => "alloc::vec::Vec<u8>"

/-- What goes wrong between the relay and a database.  Why there is no connection is said in the
words of the pool: it was waited for too long, the pool is closed, or no new one can be made. -/
inductive DatabaseFault where
  | locator (cause : UrlFault)
  | noDriver (scheme : String)
  | noConnection (text : String)
  | reported (text : String)
  | noRow
  | mismatch (column : Nat) (wanted : Wanted) (typeName : String)
  | noColumn (index : Nat) (count : Nat)
  deriving DecidableEq, Repr

/-- The wording of a fault. -/
def DatabaseFault.message : DatabaseFault → String
  | .locator cause => "error with configuration: " ++ cause.message
  | .noDriver scheme =>
    "error with configuration: no driver found for URL scheme \"" ++ scheme ++ "\""
  | .noConnection text => text
  | .reported text => "error returned from database: " ++ text
  | .noRow => "no rows returned by a query that expected to return at least one row"
  | .mismatch column wanted typeName =>
    "error occurred while decoding column " ++ toString column ++
      ": mismatched types; Rust type \x60" ++ wanted.name ++ "\x60 is not compatible with SQL type \x60" ++ typeName ++ "\x60"
  | .noColumn index count =>
    "column index out of bounds: the len is " ++ toString count ++ ", but the index is " ++
      toString index

end SqlRelay
