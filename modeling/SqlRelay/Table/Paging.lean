import SqlRelay.Parameter
import SqlRelay.Sql.Escape
import SqlRelay.Error
/-!
# Paging of row lists

The control parameters of a request decide how many rows a list holds, where it starts, in which
order the rows stand and whether the total is wanted.  What the request leaves open is taken from
the table, then from the relay.

Main results:

- Definition `Paging.resolve` decides all four.
- Theorem `firstPositive_pos`: a page has room for a row.
-/

namespace SqlRelay

/-- The names of the control parameters. -/
def pageSizeKey : String := ".page_size"

/-- The name of the parameter for the first row. -/
def offsetKey : String := ".offset"

/-- The name of the parameter for the order. -/
def orderKey : String := ".order_by"

/-- The name of the parameter for the total. -/
def totalKey : String := ".show_total"

/-- The page size when nothing sets one. -/
def standardPageSize : Nat := 100

/-- What a table and the relay say about paging. -/
structure PagingDefaults where
  pageSize : Nat
  orderBy : String
  showTotal : Bool
  relayPageSize : Nat

/-- Decided paging. -/
structure Paging where
  pageSize : Nat
  offset : Nat
  orderBy : Option String
  showTotal : Bool
  deriving DecidableEq, Repr

namespace Paging

/-- The first positive number, or the standard page size. -/
def firstPositive (sizes : List Nat) : Nat :=
  (sizes.find? (fun n => 0 < n)).getD standardPageSize

/-- A page has room for a row. -/
theorem firstPositive_pos (sizes : List Nat) : 0 < firstPositive sizes := by
  unfold firstPositive
  cases h : sizes.find? (fun n => 0 < n) with
  | none => simp [standardPageSize]
  | some n => simpa using List.find?_some h

/-- The count of a control parameter, zero when it is not given. -/
def countOf (ps : Parameters) (key : String) : Except RelayError Nat :=
  match (ps.get? key).map Parameter.count with
  | some (.given n) => .ok n
  | some .invalid => .error (.badInput (.count key))
  | some .notGiven | none => .ok 0

/-- A text that holds more than blanks, without the blanks around it. -/
def nonBlank? (s : String) : Option String :=
  let t := Text.trimmed s
  if t.isEmpty then none else some t

/-- The escaped order of the request, or else of the table. -/
def orderOf (ps : Parameters) (standard : String) : Option String :=
  ((((ps.get? orderKey).bind Parameter.text?).bind nonBlank?).or (nonBlank? standard)).map escapeSql

/-- Decides the paging of a request. -/
def resolve (ps : Parameters) (defaults : PagingDefaults) : Except RelayError Paging :=
  match countOf ps pageSizeKey, countOf ps offsetKey with
  | .error e, _ => .error e
  | .ok _, .error e => .error e
  | .ok size, .ok offset =>
    .ok {
      pageSize := firstPositive [size, defaults.pageSize, defaults.relayPageSize]
      offset := offset
      orderBy := orderOf ps defaults.orderBy
      showTotal := ((ps.get? totalKey).bind Parameter.flag?).getD defaults.showTotal }

end Paging
end SqlRelay
