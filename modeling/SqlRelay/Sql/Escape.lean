import SqlRelay.Sql.Region
/-!
# Escaped text inside SQL

Names and values that are written into SQL text have their single quotes doubled and lose the
two-dash marks that open a line comment.

Main results:

- Definition `escapeSql` is the escaping, `quotedSql` puts it between single quotes.
- Theorem `dropDashPairs_of_not_mem`: a text without dashes is kept.
-/

namespace SqlRelay

/-- Doubles every single quote. -/
def doubleQuotes (cs : List Char) : List Char :=
  cs.flatMap (fun c => if c = '\'' then ['\'', '\''] else [c])

/-- Drops every two dashes in a row, from the left. -/
def dropDashPairs : List Char → List Char
  | '-' :: '-' :: rest => dropDashPairs rest
  | c :: rest => c :: dropDashPairs rest
  | [] => []

/-- The escaped form of a text. -/
def escapeChars (cs : List Char) : List Char :=
  dropDashPairs (doubleQuotes cs)

/-- The escaped form of a name or value. -/
def escapeSql (s : String) : String :=
  String.ofList (escapeChars s.toList)

/-- The escaped form of a value between single quotes. -/
def quotedSql (value : String) : List Char :=
  '\'' :: escapeChars value.toList ++ ['\'']

/-- A text without dashes is kept. -/
theorem dropDashPairs_of_not_mem (cs : List Char) (h : '-' ∉ cs) : dropDashPairs cs = cs := by
  fun_induction dropDashPairs cs with
  | case1 rest ih => simp at h
  | case2 c rest _ ih => simp at h; simp [ih h.2]
  | case3 => rfl

end SqlRelay
