import SqlRelay.Sql.Dialect
import SqlRelay.Table.Paging
/-!
# Queries on tables

The SQL text of each action on a table, together with the arguments that fill its placeholders.
Names are escaped and written into the text; values are only ever arguments.

Main results:

- Definitions `TableShape.list`, `get`, `insert`, `update` and `delete` build the queries.
- Definition `conditions` pairs columns with placeholders in order.
-/

namespace SqlRelay

/-- SQL text with its arguments. -/
structure Query where
  sql : String
  arguments : List Parameter
  deriving DecidableEq, Repr

/-- What the queries on a table need to know of it.  No columns means all. -/
structure TableShape where
  dialect : Dialect
  name : String
  primaryKey : String
  columns : List String

/-- The query for the rows of a list, and the one for their total. -/
structure ListQuery where
  rows : Query
  total : Option Query

/-- Each column, escaped, set equal to the placeholder of its index. -/
def conditions (d : Dialect) (start : Nat) : List String → List String
  | [] => []
  | column :: rest =>
    (escapeSql column ++ "=" ++ String.ofList (d.placeholder start)) ::
      conditions d (start + 1) rest

/-- The placeholders of the first `count` parameters. -/
def placeholders (d : Dialect) (count : Nat) : List String :=
  (List.range count).map (fun i => String.ofList (d.placeholder i))

namespace TableShape

/-- The name in SQL text. -/
def sqlName (t : TableShape) : String :=
  escapeSql t.name

/-- The primary key set equal to the placeholder of an index. -/
def keyCondition (t : TableShape) (index : Nat) : String :=
  escapeSql t.primaryKey ++ "=" ++ String.ofList (t.dialect.placeholder index)

/-- The columns of a list. -/
def columnList (t : TableShape) : String :=
  if t.columns.isEmpty then "*" else ", ".intercalate (t.columns.map escapeSql)

/-- The filter of a list: every data parameter must match. -/
def filter (t : TableShape) (ps : Parameters) : String :=
  "1=1" ++ String.join ((conditions t.dialect 0 ps.data.names).map (" AND " ++ ·))

/-- The order of a list, with a placeholder for one where the dialect cannot page without. -/
def orderClause (t : TableShape) (paging : Paging) : String :=
  match paging.orderBy with
  | some order => " ORDER BY " ++ order
  | none => if t.dialect.pageNeedsOrder then " ORDER BY (SELECT NULL)" else ""

/-- The page of a list. -/
def pageClause (t : TableShape) (paging : Paging) : String :=
  match t.dialect.pageClause? paging.pageSize paging.offset with
  | some clause => " " ++ clause
  | none => ""

/-- The rows that match all data parameters, and their total if it is wanted. -/
def list (t : TableShape) (ps : Parameters) (paging : Paging) : ListQuery :=
  let source := " FROM " ++ t.sqlName ++ " WHERE " ++ t.filter ps
  let arguments := ps.data.map (·.2)
  { rows :=
      ⟨"SELECT " ++ t.columnList ++ source ++ t.orderClause paging ++ t.pageClause paging,
        arguments⟩
    total :=
      if paging.showTotal then some ⟨"SELECT COUNT(*) AS total" ++ source, arguments⟩ else none }

/-- The row of a key. -/
def get (t : TableShape) (key : String) : Query :=
  ⟨"SELECT * FROM " ++ t.sqlName ++ " WHERE " ++ t.keyCondition 0, [.text key]⟩

/-- A new row of the data parameters. -/
def insert (t : TableShape) (ps : Parameters) : Except RelayError Query :=
  let columns := ps.data.names
  if columns.isEmpty then .error (.badInput .nothingToInsert)
  else .ok ⟨"INSERT INTO " ++ t.sqlName ++ " (" ++ ", ".intercalate (columns.map escapeSql) ++
    ") VALUES (" ++ ", ".intercalate (placeholders t.dialect columns.length) ++ ")",
    ps.data.map (·.2)⟩

/-- The data parameters written into the row of a key. -/
def update (t : TableShape) (key : String) (ps : Parameters) : Except RelayError Query :=
  let columns := ps.data.names
  if columns.isEmpty then .error (.badInput .nothingToUpdate)
  else .ok ⟨"UPDATE " ++ t.sqlName ++ " SET " ++
    ", ".intercalate (conditions t.dialect 0 columns) ++ " WHERE " ++ t.keyCondition columns.length, ps.data.map (·.2) ++ [.text key]⟩

/-- The removal of the row of a key. -/
def delete (t : TableShape) (key : String) : Query :=
  ⟨"DELETE FROM " ++ t.sqlName ++ " WHERE " ++ t.keyCondition 0, [.text key]⟩

end TableShape
end SqlRelay
