import SqlRelay.Access.Managed
import SqlRelay.Proofs.Sql.Escaped
import SqlRelay.Table.Query
/-!
# Order clauses and names with something to see

The order of a list is the first text that is given of the request and the table, and a name in the
query for grants is the configured one or else its standard.  Both are chosen before they are
escaped, so what is written may be blank: an `ORDER BY` without an expression, or no name at all.
This happens exactly if the text that is chosen vanishes when it is escaped.

Main results:

- Theorems `Paging.orderBy_eq_firstGiven` and `nameOr_eq_firstGiven`: both choices are the same
  one.
- Theorem `TableShape.wellOrdered_list_iff`: the text of a list has an order clause with an
  expression, or none, exactly if the order is to be seen.
- Theorem `order_and_names_shown_iff`: the exact condition for lists and for the query for grants.
-/

namespace SqlRelay

namespace Paging

/-- The texts that may give the order, from the request and from the table. -/
def orderSources (ps : Parameters) (standard : String) : List String :=
  ((ps.get? orderKey).bind Parameter.text?).toList ++ [standard]

/-- The order of a list is the first text that is given for it. -/
theorem orderOf_eq_firstGiven (ps : Parameters) (standard : String) :
    orderOf ps standard = firstGiven (orderSources ps standard) := by
  unfold orderOf orderSources firstGiven
  cases (ps.get? orderKey).bind Parameter.text? with
  | none => simp
  | some requested => cases hrequested : nonBlank? requested <;> simp [hrequested]

/-- The order is the first text that is given, escaped. -/
theorem orderBy_eq_firstGiven {ps : Parameters} {defaults : PagingDefaults} {paging : Paging}
    (h : resolve ps defaults = .ok paging) :
    paging.orderBy = firstGiven (orderSources ps defaults.orderBy) := by
  rw [← orderOf_eq_firstGiven]
  unfold resolve at h
  split at h
  · exact absurd h (by simp)
  · exact absurd h (by simp)
  · rw [← Except.ok.inj h]

end Paging

/-- An order clause, or none.  A clause has an expression with something to see. -/
inductive OrderClause : String → Prop
  | absent : OrderClause ""
  | ordered {expression : String} (shown : Shown expression) :
      OrderClause (" ORDER BY " ++ expression)

namespace TableShape

variable (t : TableShape) (ps : Parameters) (paging : Paging)

/-- The text of a list before its order. -/
def selection : String :=
  "SELECT " ++ t.columnList ++ (" FROM " ++ t.sqlName ++ " WHERE " ++ t.filter ps)

/-- Between its filter and its page, the text of a list has an order clause or nothing.  On SQL
Server a page has an order clause before it. -/
def WellOrdered : Prop :=
  ∃ clause, (t.list ps paging).rows.sql = t.selection ps ++ clause ++ t.pageClause paging ∧
    OrderClause clause ∧ (t.dialect = .sqlServer → t.pageClause paging ≠ "" → clause ≠ "")

/-- A list selects, orders and cuts out a page. -/
theorem list_sql : (t.list ps paging).rows.sql =
    t.selection ps ++ t.orderClause paging ++ t.pageClause paging :=
  rfl

/-- The clause of an order that is given. -/
theorem orderClause_of_some {order : String} (h : paging.orderBy = some order) :
    t.orderClause paging = " ORDER BY " ++ order := by
  rw [orderClause, h]

/-- Without an order, SQL Server still has an order clause, and no other dialect has one. -/
theorem orderClause_of_none (h : paging.orderBy = none) :
    OrderClause (t.orderClause paging) ∧
      (t.dialect = .sqlServer → t.orderClause paging ≠ "") := by
  rw [orderClause, h]
  by_cases hdialect : t.dialect = .sqlServer
  · simp only [Dialect.pageNeedsOrder, hdialect, decide_true, if_true]
    have hclause : " ORDER BY (SELECT NULL)" = " ORDER BY " ++ "(SELECT NULL)" := rfl
    exact ⟨hclause ▸ .ordered (by decide), fun _ => by simp⟩
  · simp [Dialect.pageNeedsOrder, hdialect, OrderClause.absent]

/-- An order makes a clause if it is shown. -/
theorem orderClause_append_iff (order : String) :
    OrderClause (" ORDER BY " ++ order) ↔ Shown order := by
  constructor
  · intro h
    generalize hclause : " ORDER BY " ++ order = clause at h
    cases h with
    | absent => simp at hclause
    | ordered shown => rwa [(String.append_right_inj _).1 hclause]
  · exact OrderClause.ordered

/-- The text of a list is well ordered exactly if its order is to be seen. -/
theorem wellOrdered_list_iff : t.WellOrdered ps paging ↔
    ∀ order, paging.orderBy = some order → Shown order := by
  have hunique : t.WellOrdered ps paging ↔ OrderClause (t.orderClause paging) ∧
      (t.dialect = .sqlServer → t.pageClause paging ≠ "" → t.orderClause paging ≠ "") := by
    constructor
    · rintro ⟨clause, hsql, hclause⟩
      rw [list_sql] at hsql
      have hsame := (String.append_right_inj _).1 ((String.append_left_inj _).1 hsql)
      rwa [hsame]
    · intro hclause
      exact ⟨_, t.list_sql ps paging, hclause⟩
  rw [hunique]
  cases horder : paging.orderBy with
  | none =>
    obtain ⟨hclause, hserver⟩ := t.orderClause_of_none paging horder
    refine iff_of_true ⟨hclause, fun server _ => hserver server⟩ ?_
    simp
  | some order =>
    rw [t.orderClause_of_some paging horder, orderClause_append_iff]
    simp

end TableShape

/-! ## The query for grants -/

/-- A name of the grant query is the configured one unless that is blank. -/
theorem nameOr_eq (name standard : String) :
    nameOr name standard = escapeSql ((Paging.nonBlank? name).getD standard) := by
  unfold nameOr Paging.nonBlank?
  dsimp only
  split <;> rfl

/-- A configured name or else its standard is the first of the two that is given, escaped. -/
theorem nameOr_eq_firstGiven {standard : String}
    (h : Paging.nonBlank? standard = some standard) (name : String) :
    some (nameOr name standard) = firstGiven [name, standard] := by
  rw [nameOr_eq, firstGiven, List.findSome?_cons, List.findSome?_cons, h]
  cases Paging.nonBlank? name <;> rfl

namespace ManagedConfig

/-- The configured names in the order of the query. -/
def configured (c : ManagedConfig) : List String :=
  [c.targetDatabase, c.targetObjects, c.allowedOrigins, c.read, c.write, c.exec, c.table, c.token]

/-- The standard names in the order of the query. -/
def standards : List String :=
  ["TARGET_DATABASE", "TARGET_OBJECTS", "ALLOWED_ORIGINS", "READ_PRIVATE", "WRITE_PRIVATE",
    "EXEC_PRIVATE", "TOKENS", "TOKEN"]

/-- Each configured name with its standard. -/
def names (c : ManagedConfig) : List (String × String) :=
  c.configured.zip standards

/-- What the query has behind each name. -/
def behindNames : List String :=
  [" AS \"target_database\", ", " AS \"target_objects\", ", " AS \"allowed_origins\", ",
    " AS \"read_private\", ", " AS \"write_private\", ", " AS \"exec_private\" FROM ",
    " WHERE ", "=?token?"]

/-- The query with some names. -/
def queryOf (names : List String) : String :=
  (names.zip behindNames).foldl (fun text part => text ++ part.1 ++ part.2) "SELECT "

/-- The query has a name for each configured one. -/
theorem template_eq (c : ManagedConfig) :
    c.template = queryOf (c.names.map (fun name => nameOr name.1 name.2)) :=
  rfl

/-- Each standard name is given, and it does not vanish. -/
theorem standards_given : ∀ standard ∈ standards,
    Paging.nonBlank? standard = some standard ∧ ¬ Vanishes standard.toList := by
  decide

/-- A name in the query is to be seen, and is the configured one or else its standard, unless the
configured one is given and vanishes. -/
theorem name_shown_iff {c : ManagedConfig} {name : String × String} (h : name ∈ c.names) :
    (Shown (nameOr name.1 name.2) ↔ ¬ (Shown name.1 ∧ Vanishes name.1.toList)) ∧
      (some (nameOr name.1 name.2) = firstShown [name.1, name.2] ↔
        ¬ (Shown name.1 ∧ Vanishes name.1.toList)) := by
  obtain ⟨hgiven, hstandard⟩ := standards_given name.2 (List.of_mem_zip h).2
  have hswallowed : Swallowed [name.1, name.2] ↔ Shown name.1 ∧ Vanishes name.1.toList :=
    swallowed_pair_iff hstandard
  have hshown := firstGiven_shown_iff [name.1, name.2]
  have hsame := firstGiven_eq_firstShown_iff [name.1, name.2]
  rw [← nameOr_eq_firstGiven hgiven, hswallowed] at hshown hsame
  exact ⟨by simpa using hshown, hsame⟩

end ManagedConfig

/-- If the paging of a list is decided, its order is to be seen, it comes from the first text that
leaves something to see, and the lists in this order are well ordered: each of this exactly if the
first text that is given does not vanish.  Each name in the query for grants is to be seen, and is
the configured one or else its standard, unless the configured one is given and vanishes. -/
theorem order_and_names_shown_iff {ps : Parameters} {defaults : PagingDefaults} {paging : Paging}
    (h : Paging.resolve ps defaults = .ok paging) (c : ManagedConfig) :
    (((∀ order, paging.orderBy = some order → Shown order) ↔
        ¬ Swallowed (Paging.orderSources ps defaults.orderBy)) ∧
      (paging.orderBy = firstShown (Paging.orderSources ps defaults.orderBy) ↔
        ¬ Swallowed (Paging.orderSources ps defaults.orderBy)) ∧
      ∀ (t : TableShape) (filter : Parameters), t.WellOrdered filter paging ↔
        ¬ Swallowed (Paging.orderSources ps defaults.orderBy)) ∧
    c.template = ManagedConfig.queryOf (c.names.map (fun name => nameOr name.1 name.2)) ∧
    ∀ name ∈ c.names,
      (Shown (nameOr name.1 name.2) ↔ ¬ (Shown name.1 ∧ Vanishes name.1.toList)) ∧
      (some (nameOr name.1 name.2) = firstShown [name.1, name.2] ↔
        ¬ (Shown name.1 ∧ Vanishes name.1.toList)) := by
  have horder := Paging.orderBy_eq_firstGiven h
  have hshown := firstGiven_shown_iff (Paging.orderSources ps defaults.orderBy)
  have hsame := firstGiven_eq_firstShown_iff (Paging.orderSources ps defaults.orderBy)
  rw [← horder] at hshown hsame
  refine ⟨⟨hshown, hsame, ?_⟩, c.template_eq, fun name hname => ManagedConfig.name_shown_iff hname⟩
  intro t filter
  rw [t.wellOrdered_list_iff, hshown]

/-- An order with a mark inside it is kept without the mark, and the lists are well ordered. -/
theorem markedOrder_is_shown :
    Paging.resolve [(orderKey, .text " NAME -- DESC ")] ⟨50, "ID", false, 0⟩ =
      .ok ⟨50, 0, some "NAME  DESC", false⟩ ∧
    Shown "NAME  DESC" ∧
    ∀ (t : TableShape) (filter : Parameters),
      t.WellOrdered filter ⟨50, 0, some "NAME  DESC", false⟩ := by
  have h : Paging.resolve [(orderKey, .text " NAME -- DESC ")] ⟨50, "ID", false, 0⟩ =
      .ok ⟨50, 0, some "NAME  DESC", false⟩ := by
    decide
  obtain ⟨⟨hshown, -, hordered⟩, -⟩ :=
    order_and_names_shown_iff h ⟨"", "", "", "", "", "", "", "", "", "", ""⟩
  have hsources : ¬ Swallowed (Paging.orderSources [(orderKey, .text " NAME -- DESC ")] "ID") := by
    have hlist : Paging.orderSources [(orderKey, .text " NAME -- DESC ")] "ID" =
        [" NAME -- DESC ", "ID"] := by
      decide
    rw [hlist, swallowed_cons_of_shown (by decide)]
    decide
  exact ⟨h, hshown.2 hsources _ rfl, fun t filter => (hordered t filter).2 hsources⟩

/-- A request for an order that is a mark only takes the order of the table away, and nothing stands
behind `ORDER BY`; a name that is a mark only leaves no name. -/
theorem mark_leaves_blank_order :
    ∃ paging, Paging.resolve [(orderKey, .text "--")] ⟨0, "NAME", false, 0⟩ = .ok paging ∧
      paging.orderBy = some "" ∧ ¬ Shown "" ∧
      (TableShape.list ⟨.sqlServer, "t", "ID", []⟩ [] paging).rows.sql =
        "SELECT * FROM t WHERE 1=1 ORDER BY  OFFSET 0 ROWS FETCH NEXT 100 ROWS ONLY" ∧
      nameOr "--" "TOKENS" = "" :=
  ⟨⟨100, 0, some "", false⟩, by decide, rfl, by decide, by decide, by decide⟩

end SqlRelay
