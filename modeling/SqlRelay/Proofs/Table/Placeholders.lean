import SqlRelay.Proofs.Sql.Placeholders
import SqlRelay.Proofs.Table.RowOrder
/-!
# Placeholders and arguments of queries

The queries on tables number their placeholders while they write them: a filter counts the values
before, an insertion counts up to the number of its columns, and an update goes on with the key
behind its values.  Read from left to right, the placeholders of each text are those of its
arguments, and each of them stands behind the column that its argument belongs to.  This needs names
and orders without the marks of placeholders, which are copied as they are.

Main results:

- Definition `Query.Numbered`: the placeholders of a text are those of the arguments, in order.
- Definitions `Query.Fills` and `Query.FillsEach`: arguments fill the placeholders right behind
  their columns.
- Definition `TableShape.LinesUp`: both of all queries that are built from some parameters.
- Theorem `TableShape.placeholders_line_up`: all of them line up, in every dialect.
-/

namespace SqlRelay

/-- A column, escaped, set equal to the placeholder of an index. -/
def condition (d : Dialect) (column : String) (index : Nat) : String :=
  escapeSql column ++ "=" ++ String.ofList (d.placeholder index)

/-- The placeholders in the text of a query, from left to right, are those of its arguments. -/
def Query.Numbered (d : Dialect) (q : Query) : Prop :=
  placeholdersOf q.sql = (List.range q.arguments.length).map d.placeholder

/-- The argument at an index fills the placeholder right behind a column, which stands right behind
the text `lead`.  It is the placeholder of the index, since as many stand before it. -/
structure Query.Fills (d : Dialect) (q : Query) (lead column : String) (index : Nat)
    (value : Parameter) : Prop where
  argument : q.arguments[index]? = some value
  place : ∃ before behind, q.sql = before ++ lead ++ condition d column index ++ behind ∧
    placeholdersOf before = (List.range index).map d.placeholder

/-- Each of the data fills the placeholder right behind its column. -/
def Query.FillsEach (d : Dialect) (q : Query) (lead : Nat → String) (data : Parameters) : Prop :=
  ∀ index column value, data[index]? = some (column, value) →
    q.Fills d (lead index) column index value

/-- No name that is written into queries and no order has a mark of placeholders. -/
structure TableShape.NamesUnmarked (t : TableShape) (ps : Parameters) (paging : Paging) :
    Prop where
  name : Unmarked t.name
  primaryKey : Unmarked t.primaryKey
  columns : ∀ column ∈ t.columns, Unmarked column
  data : ∀ column ∈ ps.data.names, Unmarked column
  order : ∀ order, paging.orderBy = some order → Unmarked order

namespace TableShape

/-- The queries of a list bind the data in the order of the filter, which both of them have. -/
structure ListLinesUp (t : TableShape) (ps : Parameters) (q : ListQuery) : Prop where
  rows : q.rows.Numbered t.dialect
  filled : q.rows.FillsEach t.dialect (fun _ => " AND ") ps.data
  arguments : q.rows.arguments = ps.data.map (·.2)
  shared : ∃ behind, placeholdersOf behind = [] ∧
    q.rows.sql = "SELECT " ++ t.columnList ++ (" FROM " ++ t.sqlName ++ " WHERE " ++ t.filter ps) ++
      behind
  total : ∀ total, q.total = some total →
    total.sql = "SELECT COUNT(*) AS total" ++ (" FROM " ++ t.sqlName ++ " WHERE " ++ t.filter ps) ∧
    total.arguments = q.rows.arguments ∧ total.Numbered t.dialect ∧
    total.FillsEach t.dialect (fun _ => " AND ") ps.data

/-- A query for the row of a key binds the key only, behind the primary key. -/
structure KeyLinesUp (t : TableShape) (key : String) (q : Query) : Prop where
  numbered : q.Numbered t.dialect
  arguments : q.arguments = [.text key]
  filled : q.Fills t.dialect " WHERE " t.primaryKey 0 (.text key)

/-- An insertion lists the columns of the data and binds the values in the same order. -/
structure InsertionLinesUp (t : TableShape) (ps : Parameters) (q : Query) : Prop where
  numbered : q.Numbered t.dialect
  listed : q.sql = "INSERT INTO " ++ t.sqlName ++
    " (" ++ ", ".intercalate (ps.data.map (fun entry => escapeSql entry.1)) ++
    ") VALUES (" ++ ", ".intercalate (placeholders t.dialect ps.data.length) ++ ")"
  arguments : q.arguments = ps.data.map (·.2)

/-- An update binds the values of the data, each behind its column, and then the key behind the
primary key. -/
structure UpdateLinesUp (t : TableShape) (ps : Parameters) (key : String) (q : Query) : Prop where
  numbered : q.Numbered t.dialect
  arguments : q.arguments = ps.data.map (·.2) ++ [.text key]
  filled : q.FillsEach t.dialect (fun index => if index = 0 then " SET " else ", ") ps.data
  keyed : q.Fills t.dialect " WHERE " t.primaryKey ps.data.length (.text key)

/-- The placeholders and arguments of all queries on a table line up.  An insertion or an update is
built exactly if there are data. -/
structure LinesUp (t : TableShape) (ps : Parameters) (paging : Paging) (key : String) : Prop where
  list : t.ListLinesUp ps (t.list ps paging)
  get : t.KeyLinesUp key (t.get key)
  insert : ∀ q, t.insert ps = .ok q → t.InsertionLinesUp ps q
  insert_built : (∃ q, t.insert ps = .ok q) ↔ ps.data ≠ []
  update : ∀ q, t.update key ps = .ok q → t.UpdateLinesUp ps key q
  update_built : (∃ q, t.update key ps = .ok q) ↔ ps.data ≠ []
  delete : t.KeyLinesUp key (t.delete key)

end TableShape

/-! ## Conditions -/

/-- The conditions of columns are numbered on behind other columns. -/
theorem conditions_append (d : Dialect) (start : Nat) (front behind : List String) :
    conditions d start (front ++ behind) =
      conditions d start front ++ conditions d (start + front.length) behind := by
  induction front generalizing start with
  | nil => rfl
  | cons column front ih =>
    rw [List.cons_append, conditions, conditions, ih, List.length_cons, Nat.add_right_comm,
      Nat.add_assoc, List.cons_append]

/-- The condition of a column stands behind those of the columns before it. -/
theorem conditions_split (d : Dialect) (front behind : List String) (column : String) :
    conditions d 0 (front ++ column :: behind) =
      conditions d 0 front ++ condition d column front.length ::
        conditions d (front.length + 1) behind := by
  rw [conditions_append, Nat.zero_add]
  rfl

theorem conditions_ne_nil (d : Dialect) (start : Nat) {columns : List String} (h : columns ≠ []) :
    conditions d start columns ≠ [] := by
  cases columns with
  | nil => exact absurd rfl h
  | cons column columns => exact List.cons_ne_nil _ _

/-- The placeholders of conditions are numbered in the order of the columns. -/
theorem placeholdersOf_conditions (d : Dialect) (start : Nat) {columns : List String}
    (h : ∀ column ∈ columns, Unmarked column) :
    (conditions d start columns).flatMap placeholdersOf =
      (List.range' start columns.length).map d.placeholder := by
  induction columns generalizing start with
  | nil => rfl
  | cons column columns ih =>
    rw [conditions, List.flatMap_cons, placeholdersOf_condition d (h column List.mem_cons_self),
      ih (start + 1) (fun other hother => h other (List.mem_cons_of_mem _ hother)),
      List.length_cons, List.range'_succ]
    rfl

/-- Conditions that are numbered from the first on. -/
theorem placeholdersOf_numbered (d : Dialect) {columns : List String}
    (h : ∀ column ∈ columns, Unmarked column) :
    (conditions d 0 columns).flatMap placeholdersOf =
      (List.range columns.length).map d.placeholder := by
  rw [placeholdersOf_conditions d 0 h, List.range_eq_range']

/-- The placeholders of a row are numbered in order. -/
theorem placeholdersOf_placeholders (d : Dialect) (count : Nat) :
    (placeholders d count).flatMap placeholdersOf = (List.range count).map d.placeholder := by
  unfold placeholders
  rw [List.flatMap_map]
  simp only [placeholdersOf_placeholder]
  exact List.map_eq_flatMap.symm

/-- Names without marks have no placeholders. -/
theorem placeholdersOf_names {names : List String} (h : ∀ name ∈ names, Unmarked name) :
    placeholdersOf (", ".intercalate (names.map escapeSql)) = [] := by
  rw [placeholdersOf_intercalate (by decide), List.flatMap_eq_nil_iff]
  intro text hmem
  obtain ⟨name, hname, rfl⟩ := List.mem_map.1 hmem
  exact placeholdersOf_of_unmarked (h name hname).escapeSql

/-- A text with dividers begins with its first part. -/
theorem intercalate_cons (divider text : String) (texts : List String) :
    ∃ tail, divider.intercalate (text :: texts) = text ++ tail := by
  by_cases hnone : texts = []
  · exact ⟨"", by simp [hnone]⟩
  · exact ⟨divider ++ divider.intercalate texts, by
      rw [String.intercalate_cons_of_ne_nil hnone, String.append_assoc]⟩

theorem length_names (data : Parameters) : data.names.length = data.length :=
  List.length_map _

/-- The data before some entry, and their number. -/
theorem names_split {data : Parameters} {index : Nat} {column : String} {value : Parameter}
    (h : data[index]? = some (column, value)) :
    ∃ front behind, data.names = front ++ column :: behind ∧ front.length = index := by
  obtain ⟨hindex, -⟩ := List.getElem?_eq_some_iff.1 h
  refine ⟨data.names.take index, data.names.drop (index + 1), ?_, ?_⟩
  · have hname : (Fields.names data)[index]? = some column := by
      rw [Fields.names, List.getElem?_map, h]
      rfl
    obtain ⟨hlt, hat⟩ := List.getElem?_eq_some_iff.1 hname
    rw [← hat, ← List.drop_eq_getElem_cons hlt, List.take_append_drop]
  · rw [List.length_take, length_names]
    omega

/-- The value of a column stands at its place among the arguments. -/
theorem value_getElem? {data : Parameters} {index : Nat} {column : String} {value : Parameter}
    (h : data[index]? = some (column, value)) (others : List Parameter) :
    (data.map (·.2) ++ others)[index]? = some value := by
  obtain ⟨hindex, -⟩ := List.getElem?_eq_some_iff.1 h
  rw [List.getElem?_append_left (by simpa using hindex), List.getElem?_map, h]
  rfl

section Filled

variable {d : Dialect} {q : Query} {data : Parameters} {others : List Parameter}
  {front behind : String}

/-- The data of a filter fill the placeholders behind their columns. -/
theorem Query.fillsEach_filter
    (hsql : q.sql = front ++ ("1=1" ++
      String.join ((conditions d 0 data.names).map (" AND " ++ ·))) ++ behind)
    (hfront : placeholdersOf (front ++ "1=1") = [])
    (hdata : ∀ column ∈ data.names, Unmarked column)
    (harguments : q.arguments = data.map (·.2) ++ others) :
    q.FillsEach d (fun _ => " AND ") data := by
  intro index column value hentry
  obtain ⟨before, after, hnames, rfl⟩ := names_split hentry
  have hbefore : ∀ column ∈ before, Unmarked column := fun other hother =>
    hdata other (hnames ▸ List.mem_append_left _ hother)
  refine ⟨harguments ▸ value_getElem? hentry others,
    front ++ "1=1" ++ String.join ((conditions d 0 before).map (" AND " ++ ·)),
    String.join ((conditions d (before.length + 1) after).map (" AND " ++ ·)) ++ behind, ?_, ?_⟩
  · rw [hsql, hnames, conditions_split, List.map_append, List.map_cons, String.join_append,
      String.join_cons]
    simp only [String.append_assoc]
  · rw [placeholdersOf_append_join (by decide), hfront, placeholdersOf_numbered d hbefore,
      List.nil_append]

/-- The data of assignments fill the placeholders behind their columns. -/
theorem Query.fillsEach_assignments
    (hsql : q.sql = front ++ " SET " ++ ", ".intercalate (conditions d 0 data.names) ++ behind)
    (hfront : placeholdersOf front = [])
    (hdata : ∀ column ∈ data.names, Unmarked column)
    (harguments : q.arguments = data.map (·.2) ++ others) :
    q.FillsEach d (fun index => if index = 0 then " SET " else ", ") data := by
  intro index column value hentry
  refine ⟨harguments ▸ value_getElem? hentry others, ?_⟩
  obtain ⟨before, after, hnames, rfl⟩ := names_split hentry
  have hbefore : ∀ column ∈ before, Unmarked column := fun other hother =>
    hdata other (hnames ▸ List.mem_append_left _ hother)
  obtain ⟨tail, htail⟩ := intercalate_cons ", " (condition d column before.length)
    (conditions d (before.length + 1) after)
  rw [hnames, conditions_split] at hsql
  by_cases hfirst : before = []
  · subst hfirst
    refine ⟨front, tail ++ behind, ?_, hfront⟩
    rw [hsql, conditions, List.nil_append, htail]
    simp only [String.append_assoc, List.length_nil, if_true]
  · refine ⟨front ++ " SET " ++ ", ".intercalate (conditions d 0 before), tail ++ behind, ?_, ?_⟩
    · have hlater : before.length ≠ 0 := by simpa using hfirst
      rw [hsql, String.intercalate_append_of_ne_nil (conditions_ne_nil d 0 hfirst)
        (List.cons_ne_nil _ _), htail]
      simp only [if_neg hlater, String.append_assoc]
    · rw [placeholdersOf_between (by decide), placeholdersOf_intercalate (by decide), hfront,
        placeholdersOf_numbered d hbefore, List.nil_append]

/-- What binds the data only and has one filter is numbered. -/
theorem Query.numbered_filter
    (hsql : q.sql = front ++ ("1=1" ++
      String.join ((conditions d 0 data.names).map (" AND " ++ ·))) ++ behind)
    (hfront : placeholdersOf (front ++ "1=1") = [])
    (hbehind : ∀ text, placeholdersOf (text ++ behind) = placeholdersOf text)
    (hdata : ∀ column ∈ data.names, Unmarked column)
    (harguments : q.arguments = data.map (·.2)) :
    q.Numbered d := by
  rw [Query.Numbered, hsql, hbehind, ← String.append_assoc, placeholdersOf_append_join (by decide),
    hfront, placeholdersOf_numbered d hdata, harguments, length_names, List.length_map,
    List.nil_append]

end Filled

/-! ## Queries -/

namespace TableShape

variable {t : TableShape} {ps : Parameters} {paging : Paging}

section Names

variable (unmarked : t.NamesUnmarked ps paging)

include unmarked

/-- The selected columns have no placeholders. -/
theorem placeholdersOf_columnList : placeholdersOf t.columnList = [] := by
  unfold columnList
  split
  · decide
  · exact placeholdersOf_names unmarked.columns

theorem placeholdersOf_append_sqlName {front : String} (hfront : Unmarked front) :
    placeholdersOf (front ++ t.sqlName) = [] :=
  placeholdersOf_of_unmarked (hfront.append unmarked.name.escapeSql)

/-- What stands before the data of a filter, behind the columns of a list. -/
theorem placeholdersOf_source (front : String) :
    placeholdersOf (front ++ " FROM " ++ t.sqlName ++ " WHERE " ++ "1=1") =
      placeholdersOf front := by
  have hname : placeholdersOf t.sqlName = [] := placeholdersOf_of_unmarked unmarked.name.escapeSql
  have hstart : placeholdersOf "1=1" = [] := rfl
  rw [placeholdersOf_between (by decide), placeholdersOf_between (by decide), hname, hstart,
    List.append_nil, List.append_nil]

/-- The order and the page of a list have no placeholders, and none before them goes on in them. -/
theorem placeholdersOf_append_clauses (text : String) :
    placeholdersOf (text ++ (t.orderClause paging ++ t.pageClause paging)) =
      placeholdersOf text := by
  have horder : placeholdersOf (text ++ t.orderClause paging) = placeholdersOf text := by
    unfold orderClause
    split
    · rename_i order hsome
      rw [← String.append_assoc, placeholdersOf_between (by decide),
        placeholdersOf_of_unmarked (unmarked.order order hsome), List.append_nil]
    · split
      · have hclause : placeholdersOf " ORDER BY (SELECT NULL)" = [] := by decide
        rw [placeholdersOf_append text (by decide), hclause, List.append_nil]
      · rw [String.append_empty]
  rw [← String.append_assoc, ← horder]
  unfold pageClause
  split
  · rename_i clause hclause
    rw [← String.append_assoc, placeholdersOf_between (by decide),
      placeholdersOf_of_unmarked (Dialect.spelled_of_pageClause hclause).unmarked, List.append_nil]
  · rw [String.append_empty]

/-- The key is bound behind the primary key, after the placeholders of what stands before. -/
theorem numbered_and_filled_key {q : Query} {front key : String} {values : List Parameter}
    {count : Nat} (hcount : values.length = count)
    (hsql : q.sql = front ++ " WHERE " ++ t.keyCondition count)
    (hfront : placeholdersOf front = (List.range count).map t.dialect.placeholder)
    (harguments : q.arguments = values ++ [.text key]) :
    q.Numbered t.dialect ∧ q.Fills t.dialect " WHERE " t.primaryKey count (.text key) := by
  subst hcount
  constructor
  · rw [Query.Numbered, hsql, placeholdersOf_between (by decide), keyCondition,
      placeholdersOf_condition t.dialect unmarked.primaryKey, hfront, harguments,
      List.length_append, List.length_singleton, List.range_succ, List.map_append,
      List.map_singleton]
  · refine ⟨?_, front, "", ?_, hfront⟩
    · rw [harguments, List.getElem?_append_right (le_refl _), Nat.sub_self]
      rfl
    · rw [hsql, String.append_empty]
      rfl

/-- The queries of a list line up. -/
theorem list_linesUp : t.ListLinesUp ps (t.list ps paging) := by
  have hselect : placeholdersOf ("SELECT " ++ t.columnList) = [] := by
    rw [placeholdersOf_unmarked_append (by decide), placeholdersOf_columnList unmarked]
  have hfront : ∀ columns, placeholdersOf columns = [] →
      placeholdersOf (columns ++ " FROM " ++ t.sqlName ++ " WHERE " ++ "1=1") = [] :=
    fun columns hcolumns => (placeholdersOf_source unmarked columns).trans hcolumns
  have hrows : (t.list ps paging).rows.sql =
      "SELECT " ++ t.columnList ++ " FROM " ++ t.sqlName ++ " WHERE " ++ t.filter ps ++
        (t.orderClause paging ++ t.pageClause paging) := by
    simp only [list, String.append_assoc]
  constructor
  · exact Query.numbered_filter hrows (hfront _ hselect) (placeholdersOf_append_clauses unmarked)
      unmarked.data rfl
  · exact Query.fillsEach_filter hrows (hfront _ hselect) unmarked.data (List.append_nil _).symm
  · rfl
  · refine ⟨t.orderClause paging ++ t.pageClause paging, ?_, ?_⟩
    · have hclauses := placeholdersOf_append_clauses unmarked ""
      rwa [String.empty_append] at hclauses
    · simp only [hrows, String.append_assoc]
  · intro total htotal
    simp only [list, Option.ite_none_right_eq_some, Option.some.injEq] at htotal
    obtain ⟨-, rfl⟩ := htotal
    have hcount : "SELECT COUNT(*) AS total" ++
          (" FROM " ++ t.sqlName ++ " WHERE " ++ t.filter ps) =
        "SELECT COUNT(*) AS total" ++ " FROM " ++ t.sqlName ++ " WHERE " ++ t.filter ps ++ "" := by
      simp only [String.append_assoc, String.append_empty]
    refine ⟨rfl, rfl, ?_, ?_⟩
    · exact Query.numbered_filter hcount (hfront _ (by decide))
        (fun text => by rw [String.append_empty]) unmarked.data rfl
    · exact Query.fillsEach_filter hcount (hfront _ (by decide)) unmarked.data
        (List.append_nil _).symm

/-- A query for the row of a key lines up. -/
theorem keyLinesUp {q : Query} {front key : String}
    (hsql : q.sql = front ++ t.sqlName ++ " WHERE " ++ t.keyCondition 0) (hfront : Unmarked front)
    (harguments : q.arguments = [.text key]) : t.KeyLinesUp key q := by
  have hnone : placeholdersOf (front ++ t.sqlName) = [] :=
    placeholdersOf_append_sqlName unmarked hfront
  obtain ⟨hnumbered, hfilled⟩ :=
    numbered_and_filled_key unmarked List.length_nil hsql hnone harguments
  exact ⟨hnumbered, harguments, hfilled⟩

/-- An insertion lines up. -/
theorem insert_linesUp {q : Query} (h : t.insert ps = .ok q) : t.InsertionLinesUp ps q := by
  simp only [TableShape.insert] at h
  split at h
  · exact absurd h (by simp)
  · obtain rfl := Except.ok.inj h
    have hlength : ps.data.names.length = ps.data.length := length_names ps.data
    constructor
    · have hname : placeholdersOf ("INSERT INTO " ++ t.sqlName) = [] :=
        placeholdersOf_append_sqlName unmarked (by decide)
      rw [Query.Numbered]
      dsimp only
      rw [placeholdersOf_append _ (by decide), placeholdersOf_between (by decide),
        placeholdersOf_between (by decide),
        placeholdersOf_intercalate (by decide) (placeholders _ _), placeholdersOf_placeholders,
        hname, placeholdersOf_names unmarked.data, placeholdersOf_of_unmarked (by decide), hlength,
        List.length_map, List.nil_append, List.nil_append, List.append_nil]
    · dsimp only
      rw [hlength, Fields.names, List.map_map]
      rfl
    · rfl

/-- An update lines up. -/
theorem update_linesUp {q : Query} {key : String} (h : t.update key ps = .ok q) :
    t.UpdateLinesUp ps key q := by
  simp only [TableShape.update] at h
  split at h
  · exact absurd h (by simp)
  · obtain rfl := Except.ok.inj h
    have hlength : ps.data.names.length = ps.data.length := length_names ps.data
    have hname : placeholdersOf ("UPDATE " ++ t.sqlName) = [] :=
      placeholdersOf_append_sqlName unmarked (by decide)
    have hfront : placeholdersOf ("UPDATE " ++ t.sqlName ++ " SET " ++
        ", ".intercalate (conditions t.dialect 0 ps.data.names)) =
        (List.range ps.data.length).map t.dialect.placeholder := by
      rw [placeholdersOf_between (by decide), placeholdersOf_intercalate (by decide), hname,
        placeholdersOf_numbered t.dialect unmarked.data, hlength, List.nil_append]
    rw [hlength]
    obtain ⟨hnumbered, hkeyed⟩ :=
      numbered_and_filled_key (q := ⟨_, ps.data.map (·.2) ++ [.text key]⟩) unmarked
        (List.length_map _) rfl hfront rfl
    refine ⟨hnumbered, rfl, ?_, hkeyed⟩
    exact Query.fillsEach_assignments String.append_assoc hname unmarked.data rfl

end Names

/-- There are data exactly if something is inserted or updated. -/
theorem built_iff (key : String) :
    ((∃ q, t.insert ps = .ok q) ↔ ps.data ≠ []) ∧
      ((∃ q, t.update key ps = .ok q) ↔ ps.data ≠ []) := by
  simp only [insert, update, Fields.names]
  cases ps.data with
  | nil => simp
  | cons entry entries => simp

/-- In every query on a table, in every dialect, the placeholders are those of the arguments in
their order, and each argument stands for its column, if no name and no order has a mark of
placeholders. -/
theorem placeholders_line_up (unmarked : t.NamesUnmarked ps paging) (key : String) :
    t.LinesUp ps paging key where
  list := list_linesUp unmarked
  get := keyLinesUp unmarked rfl (by decide) rfl
  insert _ := insert_linesUp unmarked
  insert_built := (built_iff key).1
  update _ := update_linesUp unmarked
  update_built := (built_iff key).2
  delete := keyLinesUp unmarked rfl (by decide) rfl

/-- A filter and an order, and two values to be written. -/
def pricedParameters : Parameters :=
  [(".offset", .int 3), ("name", .text "tea $9"), ("price", .int 4)]

/-- The names of the price list have no marks. -/
theorem pricedParameters_unmarked :
    NamesUnmarked ⟨.postgres, "goods", "ID", ["ID", "name"]⟩ pricedParameters
      ⟨10, 3, some "price DESC", true⟩ where
  name := by decide
  primaryKey := by decide
  columns := by decide
  data := by decide
  order _ h := Option.some.inj h ▸ by decide

/-- The marks in a value are not in the texts, so they are not read as a placeholder. -/
theorem pricedParameters_line_up :
    NamesUnmarked ⟨.postgres, "goods", "ID", ["ID", "name"]⟩ pricedParameters
      ⟨10, 3, some "price DESC", true⟩ ∧
    (update ⟨.postgres, "goods", "ID", ["ID", "name"]⟩ "7" pricedParameters).map (·.sql) =
      .ok "UPDATE goods SET name=$1, price=$2 WHERE ID=$3" ∧
    LinesUp ⟨.postgres, "goods", "ID", ["ID", "name"]⟩ pricedParameters
      ⟨10, 3, some "price DESC", true⟩ "7" :=
  ⟨pricedParameters_unmarked, by decide, placeholders_line_up pricedParameters_unmarked "7"⟩

end TableShape

end SqlRelay
