import SqlRelay.Proofs.Sql.Sealed
import SqlRelay.Proofs.Table.RowOrder
/-!
# Sealed queries

Names of tables and columns and the texts of orders are escaped one by one and then written into
SQL text next to each other.  Wherever they are written, a separator stands between any two of them,
so the whole text is as sealed as its parts: no name and no order begins a line comment or leaves a
literal of single quotes open.

Main results:

- Theorems `sealed_conditions`, `TableShape.sealed_selection` and `TableShape.sealed_source`: the
  parts of queries are sealed.
- Definition `TableShape.AllSealed`: every query on a table is sealed.
- Theorem `ManagedConfig.sealed_template`: so is the query for grants.
- Theorem `escaping_survives_joining`: both, for every order that was resolved.
-/

namespace SqlRelay

/-- A placeholder separates sealed texts. -/
theorem Dialect.separator_placeholder (d : Dialect) (index : Nat) :
    Separator (String.ofList (d.placeholder index)) := by
  obtain ⟨mark, behind, heq, hmark, hbehind⟩ := d.placeholder_eq_cons index
  refine ⟨by simp [heq], ?_⟩
  intro c hc
  rw [String.toList_ofList, heq] at hc
  rcases List.mem_cons.1 hc with rfl | hc
  · rcases (mem_slotMarks_iff c).1 hmark with rfl | rfl | rfl | rfl <;> decide
  · have halnum := hbehind c hc
    constructor <;> (rintro rfl; exact absurd halnum (by decide))

/-- An escaped name set equal to a placeholder. -/
theorem sealed_condition (d : Dialect) (name : String) (index : Nat) :
    Sealed (escapeSql name ++ "=" ++ String.ofList (d.placeholder index)) :=
  .between (by decide) (sealed_escapeSql name) (d.separator_placeholder index).sealed

/-- Conditions are sealed. -/
theorem sealed_conditions (d : Dialect) (start : Nat) (columns : List String) :
    ∀ text ∈ conditions d start columns, Sealed text := by
  induction columns generalizing start with
  | nil => simp [conditions]
  | cons column columns ih =>
    intro text hmem
    rcases List.mem_cons.1 hmem with rfl | hmem
    · exact sealed_condition d column start
    · exact ih (start + 1) text hmem

theorem sealed_placeholders (d : Dialect) (count : Nat) :
    ∀ text ∈ placeholders d count, Sealed text := by
  intro text hmem
  obtain ⟨index, -, rfl⟩ := List.mem_map.1 hmem
  exact (d.separator_placeholder index).sealed

/-- Escaped names with commas between them. -/
theorem sealed_names (names : List String) : Sealed (", ".intercalate (names.map escapeSql)) := by
  apply sealed_intercalate (by decide)
  intro text hmem
  obtain ⟨name, -, rfl⟩ := List.mem_map.1 hmem
  exact sealed_escapeSql name

theorem Spelled.sealed {s : String} (h : Spelled s) : Sealed s := by
  apply sealed_of_plain
  intro c hc
  rcases h c hc with rfl | halnum
  · decide
  · constructor <;> (rintro rfl; exact absurd halnum (by decide))

namespace TableShape

variable (t : TableShape) (ps : Parameters) (paging : Paging)

/-- The name of the table is sealed in queries. -/
theorem sealed_sqlName : Sealed t.sqlName :=
  sealed_escapeSql t.name

theorem sealed_keyCondition (index : Nat) : Sealed (t.keyCondition index) :=
  sealed_condition t.dialect t.primaryKey index

theorem sealed_columnList : Sealed t.columnList := by
  unfold columnList
  split
  · exact sealed_of_plain (by decide)
  · exact sealed_names t.columns

/-- The filter of a list is sealed. -/
theorem sealed_filter : Sealed (t.filter ps) :=
  .append_join (by decide) (sealed_of_plain (by decide))
    (sealed_conditions t.dialect 0 ps.data.names)

/-- What both queries of a list select from. -/
theorem sealed_source : Sealed (" FROM " ++ t.sqlName ++ " WHERE " ++ t.filter ps) :=
  have hname : Sealed (" FROM " ++ t.sqlName) := .led (by decide) t.sealed_sqlName
  hname.between (by decide) (t.sealed_filter ps)

/-- The selection of a list is sealed. -/
theorem sealed_selection : Sealed (t.selection ps) := by
  have hcolumns : Sealed ("SELECT " ++ t.columnList) := .led (by decide) t.sealed_columnList
  refine hcolumns.append (t.sealed_source ps) (.inr ?_)
  simp [String.toList_append]

variable {paging} in
/-- An order clause may stand behind a sealed text, if its order is sealed. -/
theorem sealed_append_orderClause {text : String} (h : Sealed text)
    (horder : ∀ order, paging.orderBy = some order → Sealed order) :
    Sealed (text ++ t.orderClause paging) := by
  unfold orderClause
  split
  · rename_i order hsome
    rw [← String.append_assoc]
    exact h.between (by decide) (horder order hsome)
  · split
    · exact h.ended (by decide)
    · rwa [String.append_empty]

/-- A page clause may stand behind a sealed text. -/
theorem sealed_append_pageClause {text : String} (h : Sealed text) :
    Sealed (text ++ t.pageClause paging) := by
  unfold pageClause
  split
  · rename_i clause hclause
    rw [← String.append_assoc]
    exact h.between (by decide) (Dialect.spelled_of_pageClause hclause).sealed
  · rwa [String.append_empty]

/-! ## Queries -/

/-- Every query on a table that is built from some parameters and a row key is sealed. -/
structure AllSealed (key : String) : Prop where
  rows : Sealed (t.list ps paging).rows.sql
  total : ∀ q, (t.list ps paging).total = some q → Sealed q.sql
  get : Sealed (t.get key).sql
  insert : ∀ q, t.insert ps = .ok q → Sealed q.sql
  update : ∀ q, t.update key ps = .ok q → Sealed q.sql
  delete : Sealed (t.delete key).sql

variable {paging}

/-- All queries of a table are sealed if the order of the list is. -/
theorem allSealed_of_order (key : String)
    (horder : ∀ order, paging.orderBy = some order → Sealed order) :
    t.AllSealed ps paging key where
  rows := by
    rw [list_sql]
    exact t.sealed_append_pageClause paging
      (t.sealed_append_orderClause (t.sealed_selection ps) horder)
  total := by
    intro q hq
    simp only [list, Option.ite_none_right_eq_some, Option.some.injEq] at hq
    obtain ⟨-, rfl⟩ := hq
    exact .led (by decide) (t.sealed_source ps)
  get :=
    have hname : Sealed ("SELECT * FROM " ++ t.sqlName) := .led (by decide) t.sealed_sqlName
    hname.between (by decide) (t.sealed_keyCondition 0)
  insert := by
    intro q hq
    simp only [TableShape.insert] at hq
    split at hq
    · exact absurd hq (by simp)
    · obtain rfl := Except.ok.inj hq
      have hname : Sealed ("INSERT INTO " ++ t.sqlName) := .led (by decide) t.sealed_sqlName
      have hcolumns := hname.between (by decide : Separator " (") (sealed_names ps.data.names)
      have hvalues : Sealed (", ".intercalate (placeholders t.dialect ps.data.names.length)) :=
        sealed_intercalate (by decide) (sealed_placeholders t.dialect _)
      exact (hcolumns.between (by decide) hvalues).ended (by decide)
  update := by
    intro q hq
    simp only [TableShape.update] at hq
    split at hq
    · exact absurd hq (by simp)
    · obtain rfl := Except.ok.inj hq
      have hname : Sealed ("UPDATE " ++ t.sqlName) := .led (by decide) t.sealed_sqlName
      have hvalues : Sealed (", ".intercalate (conditions t.dialect 0 ps.data.names)) :=
        sealed_intercalate (by decide) (sealed_conditions t.dialect 0 _)
      have hassigned := hname.between (by decide : Separator " SET ") hvalues
      exact hassigned.between (by decide) (t.sealed_keyCondition _)
  delete :=
    have hname : Sealed ("DELETE FROM " ++ t.sqlName) := .led (by decide) t.sealed_sqlName
    hname.between (by decide) (t.sealed_keyCondition 0)

end TableShape

/-- The texts behind the names of the grant query separate sealed texts. -/
theorem ManagedConfig.behindNames_separate : ∀ text ∈ behindNames, Separator text := by
  decide

/-- The query for grants is sealed, whatever the names in it. -/
theorem ManagedConfig.sealed_template (c : ManagedConfig) : Sealed c.template := by
  have hparts : ∀ part ∈ (c.names.map (fun name => nameOr name.1 name.2)).zip behindNames,
      Sealed part.1 ∧ Separator part.2 := by
    intro part hpart
    obtain ⟨hname, hbehind⟩ := List.of_mem_zip hpart
    refine ⟨?_, behindNames_separate _ hbehind⟩
    obtain ⟨name, -, hsame⟩ := List.mem_map.1 hname
    rw [← hsame, nameOr_eq]
    exact sealed_escapeSql _
  have hquery := Sealed.foldl_append sealed_empty (by decide : Separator "SELECT ") hparts
  rw [String.empty_append] at hquery
  rw [template_eq]
  exact hquery

/-- A resolved order is sealed. -/
theorem Paging.sealed_orderBy {ps : Parameters} {defaults : PagingDefaults} {paging : Paging}
    (h : Paging.resolve ps defaults = .ok paging) :
    ∀ order, paging.orderBy = some order → Sealed order := by
  intro order horder
  rw [Paging.orderBy_eq_firstGiven h] at horder
  obtain ⟨text, -, rfl⟩ := Option.map_eq_some_iff.1 horder
  exact sealed_escapeSql text

/-- Every query on a table is sealed, whatever the names of the table, of its columns and of the
data, the row key and the order that was resolved; and so is the query for grants, whatever the
names in it. -/
theorem escaping_survives_joining (t : TableShape) (ps : Parameters) (key : String)
    {asked : Parameters} {defaults : PagingDefaults} {paging : Paging}
    (resolved : Paging.resolve asked defaults = .ok paging) (c : ManagedConfig) :
    t.AllSealed ps paging key ∧ Sealed c.template :=
  ⟨t.allSealed_of_order ps key (Paging.sealed_orderBy resolved), c.sealed_template⟩

/-- A table whose names hold quotes and dashes. -/
def markedShape : TableShape :=
  ⟨.sqlServer, "it's-", "ID--", ["a'--'b", "-"]⟩

/-- A name of data that would end a literal and begin a comment, and an order with three dashes. -/
def markedParameters : Parameters :=
  [(orderKey, .text " 'a' --- b"), ("x' --", .int 1)]

/-- Single dashes and doubled quotes are left, and nothing that they meet makes a mark of them. -/
theorem markedNames_sealed :
    Paging.resolve markedParameters ⟨0, "", false, 0⟩ = .ok ⟨100, 0, some "''a'' - b", false⟩ ∧
      (markedShape.list markedParameters ⟨100, 0, some "''a'' - b", false⟩).rows.sql =
        "SELECT a''''b, - FROM it''s- WHERE 1=1 AND x'' =@p1 ORDER BY ''a'' - b " ++
          "OFFSET 0 ROWS FETCH NEXT 100 ROWS ONLY" ∧
      markedShape.AllSealed markedParameters ⟨100, 0, some "''a'' - b", false⟩ "7' --" ∧
      Sealed (ManagedConfig.template ⟨"", "t'--", "--", "-", "'", "", "", "", "", "", ""⟩) := by
  have resolved : Paging.resolve markedParameters ⟨0, "", false, 0⟩ =
      .ok ⟨100, 0, some "''a'' - b", false⟩ := by
    decide
  exact ⟨resolved, by decide +kernel, escaping_survives_joining _ _ _ resolved _⟩

end SqlRelay
