import SqlRelay.Proofs.Parameter.Order
import SqlRelay.Script.Run
import SqlRelay.Table.Query
/-!
# Parameters that control a request

What controls a request is no data: the queries on a table do not change when such parameters come
or go.  A script may name one all the same, and then it is bound like any other.

Main results:

- Theorem `bindNames_congr`: binding looks up the names that it is given and no others.
- Theorem `Statement.arguments_ignore_controls_iff`: the arguments of a statement do not depend on
  what controls the request exactly if the statement names nothing of the kind.
- Theorem `controls_are_no_data_iff` adds the queries on tables.
-/

namespace SqlRelay

namespace TableShape

variable (t : TableShape) {ps ps' : Parameters}

/-- The filter depends on the data only. -/
theorem filter_congr (same : ps.data = ps'.data) : t.filter ps = t.filter ps' := by
  rw [filter, filter, same]

/-- The queries of a list depend on the data and the paging only. -/
theorem list_congr (same : ps.data = ps'.data) (paging : Paging) :
    t.list ps paging = t.list ps' paging := by
  simp only [list, t.filter_congr same, same]

/-- The query of an insertion depends on the data only. -/
theorem insert_congr (same : ps.data = ps'.data) : t.insert ps = t.insert ps' := by
  simp only [insert, same]

/-- The query of an update depends on the data and the key only. -/
theorem update_congr (same : ps.data = ps'.data) (key : String) :
    t.update key ps = t.update key ps' := by
  simp only [update, same]

end TableShape

/-! ## Arguments of statements -/

/-- Binding looks up the names that it is given and no others. -/
theorem bindNames_congr {ps ps' : Parameters} {names : List String}
    (same : ∀ name ∈ names, ps.get? name = ps'.get? name) :
    bindNames ps names = bindNames ps' names := by
  induction names with
  | nil => rfl
  | cons name rest ih =>
    have hrest := ih (fun other hmem => same other (List.mem_cons_of_mem _ hmem))
    rw [bindNames, bindNames, same name List.mem_cons_self, hrest]

/-- A name without a value lets binding fail. -/
theorem bindNames_ne_ok {ps : Parameters} {names : List String} {name : String}
    (hmem : name ∈ names) (absent : ps.get? name = none) (values : List Parameter) :
    bindNames ps names ≠ .ok values := by
  intro hbound
  have hvalues := (bindNames_eq_ok_iff ps names values).1 hbound
  have hnone : none ∈ values.map some := by
    rw [← hvalues, ← absent]
    exact List.mem_map_of_mem hmem
  simp at hnone

/-- Every one of some names with the null value. -/
def nullParameters (names : List String) : Parameters :=
  Fields.ofList (names.map (fun name => (name, .null)))

/-- Every name that is asked for is given as null. -/
theorem get?_nullParameters {names : List String} {name : String} (hmem : name ∈ names) :
    (nullParameters names).get? name = some .null := by
  rw [nullParameters, Fields.ofList, Fields.get?_putAll]
  cases hfind : (names.map (fun other => (other, Parameter.null))).reverse.find?
      (fun field => field.1 == name) with
  | none =>
    have habsent := List.find?_eq_none.1 hfind (name, .null) (by simpa using hmem)
    simp at habsent
  | some field =>
    have hfield := List.mem_of_find?_eq_some hfind
    simp only [List.mem_reverse, List.mem_map] at hfield
    obtain ⟨other, -, rfl⟩ := hfield
    rfl

/-- With nulls, binding succeeds for any names. -/
theorem bindNames_nullParameters (names : List String) :
    ∃ values, bindNames (nullParameters names) names = .ok values := by
  refine ⟨names.map (fun _ => .null), (bindNames_eq_ok_iff _ _ _).2 ?_⟩
  rw [List.map_map]
  apply List.map_congr_left
  intro name hmem
  exact get?_nullParameters hmem

/-- The arguments of a statement do not depend on what controls the request exactly if the
statement names nothing of the kind. -/
theorem Statement.arguments_ignore_controls_iff (s : Statement) :
    (∀ ps ps' : Parameters, ps.Ordered → ps'.Ordered → ps.SameData ps' →
      s.arguments ps = s.arguments ps') ↔
    ∀ name ∈ s.params, isControlKey name = false := by
  constructor
  · intro ignores name hmem
    by_contra hcontrol
    -- with every name bound the statement has arguments, and without this one it has none
    have ordered : (nullParameters s.params).Ordered := Fields.ordered_ofList _
    have same : (nullParameters s.params).SameData ((nullParameters s.params).erase name) := by
      intro other hdata
      have hne : other ≠ name := by
        intro heq
        exact hcontrol (heq ▸ hdata)
      exact (Fields.get?_erase_of_ne _ hne).symm
    have heq := ignores _ _ ordered (ordered.filter _) same
    obtain ⟨values, hbound⟩ := bindNames_nullParameters s.params
    have hunbound := bindNames_ne_ok hmem (Fields.get?_erase_self (nullParameters s.params) name)
      values
    exact hunbound (heq.symm.trans hbound)
  · intro data ps ps' _ _ same
    exact bindNames_congr (fun name hmem => same name (data name hmem))

/-- What controls a request is no data: if it changes, the queries on a table stay the same, and so
do the errors of writes without data.  The arguments of a statement stay the same exactly if the
statement names nothing that controls a request. -/
theorem controls_are_no_data_iff (s : Statement) :
    (∀ ps ps' : Parameters, ps.Ordered → ps'.Ordered → ps.SameData ps' → ∀ t : TableShape,
      t.insert ps = t.insert ps' ∧ (∀ key, t.update key ps = t.update key ps') ∧
      t.filter ps = t.filter ps' ∧ ∀ paging, t.list ps paging = t.list ps' paging) ∧
    ((∀ ps ps' : Parameters, ps.Ordered → ps'.Ordered → ps.SameData ps' →
      s.arguments ps = s.arguments ps') ↔
      ∀ name ∈ s.params, isControlKey name = false) := by
  constructor
  · intro ps ps' ordered ordered' same t
    have hdata := Parameters.data_eq_of_sameData ordered ordered' same
    exact ⟨t.insert_congr hdata, t.update_congr hdata, t.filter_congr hdata, t.list_congr hdata⟩
  · exact s.arguments_ignore_controls_iff

/-- A statement may name what controls a request, and then its arguments depend on it. -/
theorem slot_binds_control :
    ¬ ∀ (script : String) (text : List Char) (d : Dialect) (statements : List Statement),
      compile script text d = .ok statements → ∀ s ∈ statements, ∀ ps ps' : Parameters,
      ps.Ordered → ps'.Ordered → ps.SameData ps' → s.arguments ps = s.arguments ps' := by
  intro h
  have hcompiled : compile "s" "SELECT ?.a?".toList .sqlite =
      .ok [⟨0, "0", "SELECT ?", [".a"], true, true, "s"⟩] := by
    decide +kernel
  have same : Parameters.SameData [(".a", .text "1")] [] := by
    intro name hdata
    have hcontrol : ".a" ≠ name := by
      rintro rfl
      revert hdata
      decide
    simp [Fields.get?_cons, hcontrol]
  have heq := h _ _ _ _ hcompiled _ List.mem_cons_self [(".a", .text "1")] []
    (List.pairwise_singleton _ _) Fields.ordered_nil same
  revert heq
  decide

end SqlRelay
