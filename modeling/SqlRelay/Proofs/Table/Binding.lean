import SqlRelay.Proofs.Parameter.Order
import SqlRelay.Table.Query
/-!
# What the queries on a table bind

The text of a query on a table is made of the table, the names of the data and the paging.  The
values of the data and the key of a row are arguments and never in the text.

Main results:

- Definition `TableShape.SameTexts` says that two requests get the same texts.
- Definition `TableShape.Binds` says what the queries of a request have for arguments.
- Theorem `TableShape.values_are_bound`: requests that name the same data get the same texts, and
  the values are bound in the order of the names, with the key behind them.
-/

namespace SqlRelay

/-- The texts that are built from some parameters and a row key are those that are built from
others, or nothing is built from either for the same reason. -/
structure TableShape.SameTexts (t : TableShape) (paging : Paging) (ps ps' : Parameters)
    (key key' : String) : Prop where
  rows : (t.list ps paging).rows.sql = (t.list ps' paging).rows.sql
  total : (t.list ps paging).total.map (·.sql) = (t.list ps' paging).total.map (·.sql)
  get : (t.get key).sql = (t.get key').sql
  insert : (t.insert ps).map (·.sql) = (t.insert ps').map (·.sql)
  update : (t.update key ps).map (·.sql) = (t.update key' ps').map (·.sql)
  delete : (t.delete key).sql = (t.delete key').sql

/-- What is bound for some values and a row key: a list and its total bind the values, an insertion
as well, an update also the key behind them, and all others the key alone.  Without values nothing
is inserted or updated. -/
structure TableShape.Binds (t : TableShape) (paging : Paging) (ps : Parameters) (key : String)
    (values : List Parameter) : Prop where
  rows : (t.list ps paging).rows.arguments = values
  total : (t.list ps paging).total.map (·.arguments) = if paging.showTotal then some values else none
  get : (t.get key).arguments = [.text key]
  insert : (t.insert ps).map (·.arguments) =
    if values = [] then .error (.badInput .nothingToInsert) else .ok values
  update : (t.update key ps).map (·.arguments) =
    if values = [] then .error (.badInput .nothingToUpdate) else .ok (values ++ [.text key])
  delete : (t.delete key).arguments = [.text key]

namespace TableShape

variable (t : TableShape) (paging : Paging) {ps ps' : Parameters}

/-- The names of the data decide the texts. -/
theorem sameTexts_of_names (same : ps.data.names = ps'.data.names) (key key' : String) :
    t.SameTexts paging ps ps' key key' := by
  have hfilter : t.filter ps = t.filter ps' := by
    rw [filter, filter, same]
  constructor
  · simp only [list, hfilter]
  · simp only [list, hfilter]
    split <;> rfl
  · rfl
  · simp only [insert, same]
    split <;> rfl
  · simp only [update, same, keyCondition]
    split <;> rfl
  · rfl

/-- The arguments are the values of the data as they stand, and the key. -/
theorem binds_data (ps : Parameters) (key : String) :
    t.Binds paging ps key (ps.data.map (·.2)) := by
  have hnone : ps.data.names.isEmpty = true ↔ ps.data.map (·.2) = [] := by
    rw [Fields.names, List.isEmpty_iff, List.map_eq_nil_iff, List.map_eq_nil_iff]
  constructor
  · rfl
  · simp only [list]
    split <;> rfl
  · rfl
  · simp only [insert, hnone]
    split <;> rfl
  · simp only [update, hnone]
    split <;> rfl
  · rfl

/-- Requests that name the same data get the same texts, whatever the values and the row keys are;
and what is bound are the values of the data, each once and in the order of the bytes of their
names, and the key. -/
theorem values_are_bound (ordered : ps.Ordered) (ordered' : ps'.Ordered)
    (same : ps.SameNames ps') (key key' : String) :
    t.SameTexts paging ps ps' key key' ∧
      ∃ entries, ps.DataInOrder entries ∧ t.Binds paging ps key (entries.map (·.2)) := by
  constructor
  · have hnames := Parameters.names_data_eq_of_sameNames ordered ordered' same
    exact t.sameTexts_of_names paging hnames key key'
  · exact ⟨ps.data, Parameters.data_inOrder ordered, t.binds_data paging ps key⟩

/-- A control parameter, and two data of which one ends a literal and begins a comment. -/
def hostileValues : Parameters :=
  [(".offset", .int 3), ("a", .text "x'; --"), ("é", .int 1)]

/-- The same names of data with other values. -/
def plainValues : Parameters :=
  [("a", .null), ("é", .bool true)]

theorem hostileValues_ordered : hostileValues.Ordered := by
  unfold Fields.Ordered
  decide

theorem plainValues_ordered : plainValues.Ordered := by
  unfold Fields.Ordered
  decide

/-- Both have the same names. -/
theorem hostileValues_sameNames : hostileValues.SameNames plainValues := by
  intro name hdata
  have hcontrol : name ≠ ".offset" := by
    rintro rfl
    revert hdata
    decide
  simp [hostileValues, plainValues, Fields.names, hcontrol]

/-- Neither the values nor a row key that looks like a condition get into the texts. -/
theorem hostileValues_are_bound :
    hostileValues.Ordered ∧ plainValues.Ordered ∧ hostileValues.SameNames plainValues ∧
      SameTexts ⟨.postgres, "t", "ID", []⟩ ⟨10, 0, none, true⟩ hostileValues plainValues
        "1' or '1'='1" "7" ∧
      ∃ entries, hostileValues.DataInOrder entries ∧
        Binds ⟨.postgres, "t", "ID", []⟩ ⟨10, 0, none, true⟩ hostileValues "1' or '1'='1"
          (entries.map (·.2)) :=
  ⟨hostileValues_ordered, plainValues_ordered, hostileValues_sameNames,
    values_are_bound _ _ hostileValues_ordered plainValues_ordered hostileValues_sameNames _ _⟩

end TableShape
end SqlRelay
