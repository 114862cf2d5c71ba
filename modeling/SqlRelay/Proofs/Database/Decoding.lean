import Mathlib.Data.List.Forall2
import SqlRelay.Proofs.Database.Visits
import SqlRelay.Proofs.Fields
import SqlRelay.Proofs.Text.Base64
/-!
# What rows are decoded to

The decoder knows the names of the types of all cells and reads each cell as the type that its name
asks for.  For numbers of single precision it asks for a double, which the driver does not make of
them, and none of the types that are tried in turn fits either.  So one such cell makes the whole
query fail; all other rows are decoded as they are meant to be.

Main results:

- Definitions `Cell.Shows` and `Row.ShownAs`: what a cell and a row are meant to be decoded to.
- Theorem `decodeCell_shows`: every cell that is no number of single precision is decoded so, and
  theorem `decodeCell_real`: such a number is not decoded at all.
- Theorem `Session.fetch_decodes_iff`: the exact condition under which fetched rows are what they
  are meant to be, and the fault otherwise.
-/

namespace SqlRelay

/-- If anything in a list has a property, something has it first. -/
theorem exists_first {α : Type} {P : α → Prop} {xs : List α} (h : ∃ x ∈ xs, P x) :
    ∃ before x behind, xs = before ++ x :: behind ∧ (∀ earlier ∈ before, ¬ P earlier) ∧ P x := by
  induction xs with
  | nil => simp at h
  | cons x xs ih =>
    by_cases hx : P x
    · exact ⟨[], x, xs, rfl, by simp, hx⟩
    · have hrest : ∃ y ∈ xs, P y := by simpa [hx] using h
      obtain ⟨before, y, behind, rfl, hbefore, hy⟩ := ih hrest
      exact ⟨x :: before, y, behind, rfl, List.forall_mem_cons.2 ⟨hx, hbefore⟩, hy⟩

/-- The value that a cell is meant to be decoded to: numbers of both precisions are numbers, or null
if they are not finite. -/
inductive Cell.Shows : Cell → Json → Prop
  | null : Shows .null .null
  | bool (b : Bool) : Shows (.bool b) (.bool b)
  | smallInt (n : Int) : Shows (.smallInt n) (.int n)
  | integer (n : Int) : Shows (.integer n) (.int n)
  | bigInt (n : Int) : Shows (.bigInt n) (.int n)
  | real {x : Double} (finite : x.isFinite = true) : Shows (.real x) (.double x)
  | realNull {x : Double} (infinite : x.isFinite = false) : Shows (.real x) .null
  | double {x : Double} (finite : x.isFinite = true) : Shows (.double x) (.double x)
  | doubleNull {x : Double} (infinite : x.isFinite = false) : Shows (.double x) .null
  | text (s : String) : Shows (.text s) (.text s)
  | blob {bytes : List UInt8} {s : String} (form : Text.Base64Of bytes s.toList) :
      Shows (.blob bytes) (.text s)

/-- A number of single precision. -/
def Cell.IsReal (cell : Cell) : Prop :=
  ∃ x, cell = .real x

/-- A double is shown as the JSON of a double. -/
theorem Cell.shows_ofDouble (x : Double) : (Cell.double x).Shows (Json.ofDouble x) := by
  unfold Json.ofDouble
  split
  · exact .double ‹_›
  · exact .doubleNull (by simpa using ‹¬ x.isFinite = true›)

/-- What is read as the type that its name asks for is decoded to that. -/
theorem decodeCell_of_read {cell : Cell} {value : Json}
    (read : cell.read? (Wanted.ofTypeName cell.typeName) = some value) (index : Nat) :
    decodeCell index cell = .ok value := by
  have named : cell.typeName ≠ "NULL" := by
    cases cell with
    | null => cases read
    | _ => simp [Cell.typeName]
  simp [decodeCell, named, Cell.readAs, read]

/-- Every other cell is decoded to what it is meant to be. -/
theorem decodeCell_shows {cell : Cell} (h : ¬ cell.IsReal) (index : Nat) :
    ∃ value, decodeCell index cell = .ok value ∧ cell.Shows value := by
  cases cell with
  | null => exact ⟨.null, rfl, .null⟩
  | bool b => exact ⟨.bool b, decodeCell_of_read rfl index, .bool b⟩
  | smallInt n => exact ⟨.int n, decodeCell_of_read rfl index, .smallInt n⟩
  | integer n => exact ⟨.int n, decodeCell_of_read rfl index, .integer n⟩
  | bigInt n => exact ⟨.int n, decodeCell_of_read rfl index, .bigInt n⟩
  | real x => exact absurd ⟨x, rfl⟩ h
  | double x => exact ⟨Json.ofDouble x, decodeCell_of_read rfl index, Cell.shows_ofDouble x⟩
  | text s => exact ⟨.text s, decodeCell_of_read rfl index, .text s⟩
  | blob bytes =>
    refine ⟨_, decodeCell_of_read rfl index, .blob ?_⟩
    rw [String.toList_ofList]
    exact Text.base64Of_base64 bytes

/-- The driver reads nothing from a number of single precision. -/
theorem read?_real (x : Double) (wanted : Wanted) : (Cell.real x).read? wanted = none := by
  cases wanted <;> rfl

/-- A number of single precision is not decoded, and the fault is that of the last attempt. -/
theorem decodeCell_real (x : Double) (index : Nat) :
    decodeCell index (.real x) = .error (.mismatch index .bytes "REAL") := by
  have hnone : Wanted.inTurn.findSome? (Cell.real x).read? = none :=
    List.findSome?_eq_none_iff.2 fun wanted _ => read?_real x wanted
  simp [decodeCell, decodeUntyped, Cell.readAs, read?_real, hnone, Cell.typeName]

/-! ## Rows -/

namespace Row

/-- A cell of a row is a number of single precision. -/
def HasReal (row : Row) : Prop :=
  ∃ column ∈ row, column.2.IsReal

/-- The column of this index is the first one with a number of single precision. -/
def FirstReal (row : Row) (index : Nat) : Prop :=
  ∃ before name x behind, row = before ++ (name, .real x) :: behind ∧ ¬ HasReal before ∧
    before.length = index

/-- A member has the name of a column in lower case and the value that its cell shows. -/
def ShowsColumn (column : String × Cell) (member : String × Json) : Prop :=
  member.1 = Text.toLowercase column.1 ∧ column.2.Shows member.2

/-- The object that a row is meant to be decoded to: each name of a column occurs once, in lower
case, and has the value of its last column. -/
structure ShownAs (row : Row) (out : JsonRow) : Prop where
  distinct : out.names.Nodup
  last : ∃ members, List.Forall₂ ShowsColumn row members ∧
    ∀ name value, (name, value) ∈ out ↔ Fields.LastOf members name value

theorem not_hasReal_nil : ¬ HasReal [] := by
  rintro ⟨column, hmem, -⟩
  simp at hmem

/-- A row has a number of single precision in its first cell or behind it. -/
theorem hasReal_cons_iff (column : String × Cell) (row : Row) :
    HasReal (column :: row) ↔ column.2.IsReal ∨ HasReal row := by
  simp [HasReal]

/-- A row with a number of single precision has a first one. -/
theorem exists_firstReal {row : Row} (h : row.HasReal) : ∃ index, row.FirstReal index := by
  obtain ⟨before, ⟨name, cell⟩, behind, rfl, hbefore, x, rfl⟩ := exists_first h
  refine ⟨before.length, before, name, x, behind, rfl, ?_, rfl⟩
  rintro ⟨column, hmem, hreal⟩
  exact hbefore column hmem hreal

end Row

/-- Without numbers of single precision each column is set to what its cell shows. -/
theorem decodeCells_shows {row : Row} (h : ¬ row.HasReal) (index : Nat) (start : JsonRow) :
    ∃ members, decodeCells index start row = .ok (start.putAll members) ∧
      List.Forall₂ Row.ShowsColumn row members := by
  induction row generalizing index start with
  | nil => exact ⟨[], rfl, .nil⟩
  | cons column row ih =>
    rw [Row.hasReal_cons_iff, not_or] at h
    obtain ⟨value, hcell, hvalue⟩ := decodeCell_shows h.1 index
    obtain ⟨members, hcells, hmembers⟩ :=
      ih h.2 (index + 1) (start.put (Text.toLowercase column.1) value)
    refine ⟨(Text.toLowercase column.1, value) :: members, ?_, .cons ⟨rfl, hvalue⟩ hmembers⟩
    rw [decodeCells, hcell]
    exact hcells

/-- Decoding a row fails at its first number of single precision. -/
theorem decodeCells_firstReal {row : Row} {column : Nat} (first : row.FirstReal column)
    (index : Nat) (start : JsonRow) :
    decodeCells index start row = .error (.mismatch (index + column) .bytes "REAL") := by
  obtain ⟨before, name, x, behind, rfl, hbefore, rfl⟩ := first
  induction before generalizing index start with
  | nil => simp [decodeCells, decodeCell_real]
  | cons c before ih =>
    rw [Row.hasReal_cons_iff, not_or] at hbefore
    obtain ⟨value, hcell, -⟩ := decodeCell_shows hbefore.1 index
    rw [List.cons_append, decodeCells, hcell]
    rw [List.length_cons, Nat.add_comm before.length 1, ← Nat.add_assoc]
    exact ih (index + 1) _ hbefore.2

/-- A row without numbers of single precision is decoded to the object it is meant to be. -/
theorem decodeRow_shown {row : Row} (h : ¬ row.HasReal) :
    ∃ out, decodeRow row = .ok out ∧ row.ShownAs out := by
  obtain ⟨members, hcells, hmembers⟩ := decodeCells_shows h 0 []
  refine ⟨Fields.ofList members, hcells, Fields.nodup_names_ofList members, members, hmembers, ?_⟩
  intro name value
  exact Fields.mem_ofList_iff

/-- A row fails at its first number of single precision. -/
theorem decodeRow_firstReal {row : Row} {column : Nat} (first : row.FirstReal column) :
    decodeRow row = .error (.mismatch column .bytes "REAL") := by
  rw [decodeRow, decodeCells_firstReal first, Nat.zero_add]

/-! ## Results -/

/-- The first row with a number of single precision has the first one in this column. -/
def FirstReal (rows : List Row) (column : Nat) : Prop :=
  ∃ before row behind, rows = before ++ row :: behind ∧ (∀ earlier ∈ before, ¬ earlier.HasReal) ∧
    row.FirstReal column

/-- Among rows with a number of single precision there is a first one. -/
theorem exists_firstReal {rows : List Row} (h : ∃ row ∈ rows, row.HasReal) :
    ∃ column, FirstReal rows column := by
  obtain ⟨before, row, behind, rfl, hbefore, hreal⟩ := exists_first h
  obtain ⟨column, first⟩ := row.exists_firstReal hreal
  exact ⟨column, before, row, behind, rfl, hbefore, first⟩

/-- Rows without such numbers are all decoded. -/
theorem decodeRows_shown {rows : List Row} (h : ∀ row ∈ rows, ¬ row.HasReal) :
    ∃ out, decodeRows rows = .ok out ∧ List.Forall₂ Row.ShownAs rows out := by
  induction rows with
  | nil => exact ⟨[], rfl, .nil⟩
  | cons row rows ih =>
    rw [List.forall_mem_cons] at h
    obtain ⟨first, hrow, hfirst⟩ := decodeRow_shown h.1
    obtain ⟨more, hrows, hmore⟩ := ih h.2
    exact ⟨first :: more, by simp [decodeRows, hrow, hrows], .cons hfirst hmore⟩

/-- Rows fail at the first such number. -/
theorem decodeRows_firstReal {rows : List Row} {column : Nat} (first : FirstReal rows column) :
    decodeRows rows = .error (.mismatch column .bytes "REAL") := by
  obtain ⟨before, row, behind, rfl, hbefore, hfirst⟩ := first
  induction before with
  | nil => simp [decodeRows, decodeRow_firstReal hfirst]
  | cons earlier before ih =>
    rw [List.forall_mem_cons] at hbefore
    obtain ⟨out, hrow, -⟩ := decodeRow_shown hbefore.1
    simp [decodeRows, hrow, ih hbefore.2]

/-- What the rows of an answer come to. -/
inductive Reply.Decoded (r : Reply) : Except DatabaseFault (List JsonRow) → Prop
  /-- A number of single precision is found before the end of the answer is. -/
  | undecoded {column : Nat} (first : FirstReal r.rows column) :
      Decoded r (.error (.mismatch column .bytes "REAL"))
  /-- The query has failed behind its rows. -/
  | failed {text : String} (plain : ∀ row ∈ r.rows, ¬ row.HasReal) (error : r.error = some text) :
      Decoded r (.error (.reported text))
  /-- The rows are what they are meant to be. -/
  | decoded {rows : List JsonRow} (plain : ∀ row ∈ r.rows, ¬ row.HasReal) (error : r.error = none)
      (shown : List.Forall₂ Row.ShownAs r.rows rows) : Decoded r (.ok rows)

/-- What an answer gives is what its rows and its error say. -/
theorem Reply.decoded_is_decoded (r : Reply) : r.Decoded r.decoded := by
  unfold Reply.decoded
  by_cases hreal : ∃ row ∈ r.rows, row.HasReal
  · obtain ⟨column, first⟩ := exists_firstReal hreal
    rw [decodeRows_firstReal first]
    exact .undecoded first
  · have plain : ∀ row ∈ r.rows, ¬ row.HasReal := by
      intro row hmem hrow
      exact hreal ⟨row, hmem, hrow⟩
    obtain ⟨rows, hrows, hshown⟩ := decodeRows_shown plain
    rw [hrows]
    cases herror : r.error with
    | some text => exact .failed plain herror
    | none => exact .decoded plain herror hshown

namespace Session

variable (sql : String) (arguments : List Parameter) (s : Session)

/-- Fetched rows are what they are meant to be exactly if the query succeeds and no cell is a number
of single precision.  The first such number, if there is one, makes the query fail. -/
theorem fetch_decodes_iff :
    ((∃ rows, (fetch sql arguments s).1 = .ok rows ∧
        List.Forall₂ Row.ShownAs (nextReply s.replies).rows rows) ↔
      (nextReply s.replies).error = none ∧ ∀ row ∈ (nextReply s.replies).rows, ¬ row.HasReal) ∧
    ∀ column, FirstReal (nextReply s.replies).rows column →
      (fetch sql arguments s).1 = .error (.database (.mismatch column .bytes "REAL")) := by
  rw [fetch_eq]
  constructor
  · have hdecoded := (nextReply s.replies).decoded_is_decoded
    constructor
    · rintro ⟨rows, hrows, -⟩
      cases hresult : (nextReply s.replies).decoded with
      | error fault => simp [hresult] at hrows
      | ok out =>
        rw [hresult] at hdecoded
        cases hdecoded with
        | decoded plain error => exact ⟨error, plain⟩
    · rintro ⟨error, plain⟩
      obtain ⟨rows, hrows, hshown⟩ := decodeRows_shown plain
      exact ⟨rows, by simp [Reply.decoded, hrows, error], hshown⟩
  · intro column first
    simp [Reply.decoded, decodeRows_firstReal first]

/-- A query whose one cell is 1.5 in single precision. -/
def beforeReal : Session :=
  { start with replies := [⟨[[("x", .real ⟨0x3FF8000000000000⟩)]], 0, none, none⟩] }

/-- The number in its first column makes it fail. -/
theorem beforeReal_fails :
    FirstReal (nextReply beforeReal.replies).rows 0 ∧
      (fetch "SELECT 1" [] beforeReal).1 = .error (.database (.mismatch 0 .bytes "REAL")) := by
  have first : FirstReal (nextReply beforeReal.replies).rows 0 :=
    ⟨[], _, [], rfl, by simp, [], "x", _, [], rfl, Row.not_hasReal_nil, rfl⟩
  exact ⟨first, (fetch_decodes_iff "SELECT 1" [] beforeReal).2 0 first⟩

/-- A number of single precision makes a query fail that succeeds. -/
theorem fetch_loses_real :
    ¬ ∀ (sql : String) (arguments : List Parameter) (s : Session),
      (nextReply s.replies).error = none →
        ∃ rows, (fetch sql arguments s).1 = .ok rows ∧
          List.Forall₂ Row.ShownAs (nextReply s.replies).rows rows := by
  intro h
  obtain ⟨rows, hrows, -⟩ := h "SELECT 1" [] beforeReal rfl
  have hfails : (fetch "SELECT 1" [] beforeReal).1 =
      .error (.database (.mismatch 0 .bytes "REAL")) := rfl
  rw [hfails] at hrows
  exact absurd hrows (by simp)

end Session
end SqlRelay
