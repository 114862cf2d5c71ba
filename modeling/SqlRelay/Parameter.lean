import SqlRelay.Text.Blank
import SqlRelay.Double.Decimal
import SqlRelay.Json.Basic
/-!
# Request parameters

Parameters come from the query of a request as texts and from its body as JSON.  Names that begin
with a dot control the request; all others are data.

Main results:

- Type `Parameter`, read by `Parameter.ofQuery` and `Parameter.ofJson`.
- Definitions `Parameter.count` and `Parameter.flag?` read the control parameters.
- Theorem `get?_merge`: a member of the body counts before the query, and of several pairs the
  last.
-/

namespace SqlRelay

/-- The value of a parameter. -/
inductive Parameter where
  | null
  | bool (value : Bool)
  | int (value : Int)
  | float (value : Double)
  | text (value : String)
  deriving DecidableEq, Repr

/-- Parameters by name. -/
abbrev Parameters := Fields Parameter

namespace Parameter

/-- A text of the query; the word `NULL` is the null value. -/
def ofQuery (raw : String) : Parameter :=
  if raw = "NULL" then .null else .text raw

/-- The integers of sixty-four bits with a sign. -/
def isInteger64 (n : Int) : Bool :=
  -(twoTo 63 : Int) ≤ n && n < twoTo 63

/-- A value of the body.  An integer beyond sixty-four bits with a sign becomes a double, and an
array or object becomes its text. -/
def ofJson : Json → Parameter
  | .null => .null
  | .bool b => .bool b
  | .int n => if isInteger64 n then .int n else .float (Double.ofInt n)
  | .double x => .float x
  | .text s => .text s
  | .array items => .text (Json.array items).compact
  | .object members => .text (Json.object members).compact

/-- The text of a text parameter. -/
def text? : Parameter → Option String
  | .text s => some s
  | _ => none

/-- The natural number of sixty-four bits that decimal digits write, after an optional plus
sign. -/
def naturalOfText? (cs : List Char) : Option Nat :=
  let digits := match cs with
    | '+' :: rest => rest
    | _ => cs
  decimal? (twoTo 64 - 1) digits

/-- A count: given, not given, or no count at all.  Null and blank texts are not given. -/
inductive Count where
  | given (n : Nat)
  | notGiven
  | invalid
  deriving DecidableEq, Repr

/-- The count that a parameter gives.  A double must be whole and is capped at the greatest
number of sixty-four bits. -/
def count : Parameter → Count
  | .null => .notGiven
  | .bool _ => .invalid
  | .int n => if 0 ≤ n then .given n.toNat else .invalid
  | .float x => if x.isIntegral && x.isNonNegative then .given x.toCount else .invalid
  | .text s =>
    match Text.trim s.toList with
    | [] => .notGiven
    | cs =>
      match naturalOfText? cs with
      | some n => .given n
      | none => .invalid

/-- The flag that a parameter gives; null gives none. -/
def flag? : Parameter → Option Bool
  | .null => none
  | .bool b => some b
  | .int n => some (n == 1)
  | .float x => some (x == Double.one)
  | .text s => some (s == "true" || s == "1" || s == "yes")

end Parameter

/-! ## Parameters by name -/

/-- Whether a name controls the request. -/
def isControlKey (name : String) : Bool :=
  name.toList.head? == some '.'

namespace Parameters

/-- The parameters that are data. -/
def data (ps : Parameters) : Parameters :=
  ps.filter (fun p => !isControlKey p.1)

/-- The parameters of query pairs, then of the members of a body. -/
def merge (query : List (String × String)) (body : List (String × Json)) : Parameters :=
  Fields.putAll (Fields.ofList (query.map (fun pair => (pair.1, Parameter.ofQuery pair.2))))
    (body.map (fun member => (member.1, Parameter.ofJson member.2)))

/-- A member of the body counts before the query, and of several pairs the last. -/
theorem get?_merge (query : List (String × String)) (body : List (String × Json)) (name : String) :
    (merge query body).get? name =
      ((body.reverse.find? (fun member => member.1 == name)).map
        (fun member => Parameter.ofJson member.2)).or
      ((query.reverse.find? (fun pair => pair.1 == name)).map
        (fun pair => Parameter.ofQuery pair.2)) := by
  unfold merge Fields.ofList
  rw [Fields.get?_putAll, Fields.get?_putAll]
  simp [← List.map_reverse, List.find?_map, Function.comp_def]

end Parameters
end SqlRelay
