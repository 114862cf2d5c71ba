import SqlRelay.Text.Letters
import SqlRelay.Script.Fragment
import SqlRelay.Script.Template
/-!
# Compiled statements

A script compiles to the statements of its fragments that have a body.  A statement knows the SQL
text for one dialect, the names that fill its placeholders, whether it returns rows, and whether
its output is exported.

Main results:

- Definition `compile` gives all statements of a script or one error.
- Theorem `compile_eq_ok`: a script that can be cut compiles in every dialect.
-/

namespace SqlRelay

/-- The words with which a statement that returns rows begins. -/
def rowWords : List String :=
  ["SELECT", "SHOW", "DESCRIBE", "EXPLAIN", "PRAGMA", "WITH"]

/-- Whether SQL text begins, after blanks, with the letters of a word in any case. -/
def startsWithWord (sql : List Char) (word : String) : Bool :=
  word.toList.isPrefixOf ((Text.trimStart sql).map Char.toUpper)

/-- Whether a statement returns rows. -/
def returnsRows (sql : List Char) : Bool :=
  rowWords.any (startsWithWord sql)

/-- Whether a statement begins with a capital letter. -/
def beginsUppercase (sql : List Char) : Bool :=
  match sql with
  | [] => false
  | c :: _ => Text.isUppercase c

/-- One statement of a script in one dialect. -/
structure Statement where
  index : Nat
  label : String
  sql : String
  params : List String
  isQuery : Bool
  isExported : Bool
  script : String
  deriving DecidableEq, Repr

/-- The statement of a fragment at an index; without a label the index is the label. -/
def Statement.ofFragment (script : String) (d : Dialect) (index : Nat) (f : Fragment) : Statement :=
  let template := Template.ofBody f.body
  let sql := template.render d
  { index := index
    label := (f.label.map String.ofList).getD (toString index)
    sql := String.ofList sql
    params := template.names.map String.ofList
    isQuery := returnsRows sql
    isExported := beginsUppercase sql
    script := script }

/-- The fragments that have a body. -/
def bodies (parts : List (List Char)) : List Fragment :=
  (parts.map Fragment.ofText).filter (fun f => !f.body.isEmpty)

/-- The statements of fragments, the first of which has the index `start`. -/
def statementsFrom (script : String) (d : Dialect) (start : Nat) : List Fragment → List Statement
  | [] => []
  | f :: rest => Statement.ofFragment script d start f :: statementsFrom script d (start + 1) rest

/-- The statements of a script, or the error of its text. -/
def compile (script : String) (text : List Char) (d : Dialect) :
    Except CompileError (List Statement) :=
  match fragments? text with
  | .error e => .error e
  | .ok parts => .ok (statementsFrom script d 0 (bodies parts))

/-- A script that can be cut compiles in every dialect. -/
theorem compile_eq_ok {text : List Char} {parts : List (List Char)}
    (h : fragments? text = .ok parts) (script : String) (d : Dialect) :
    compile script text d = .ok (statementsFrom script d 0 (bodies parts)) := by
  simp [compile, h]

@[simp]
theorem length_statementsFrom (script : String) (d : Dialect) (start : Nat) (fs : List Fragment) :
    (statementsFrom script d start fs).length = fs.length := by
  induction fs generalizing start with
  | nil => rfl
  | cons f fs ih => simp [statementsFrom, ih]

end SqlRelay
