import Mathlib.Data.List.Forall2
import SqlRelay.Proofs.Fields
import SqlRelay.Proofs.Script.Transaction
/-!
# Where the arguments of a statement come from

The parameters of a request are those of its query and its body.  A statement gets one argument for
each name in its list of parameters, in this order: the member of the body with the name, if there
is one, and the last pair of the query otherwise.

Main results:

- Definition `Parameters.Given`: the value that query and body give to a name.
- Theorem `Parameters.get?_merge_eq_some_iff`: it is what the merged parameters hold.
- Theorem `Statement.arguments_of_request`: when a statement gets arguments, which ones, and the
  fault if it does not get any.
-/

namespace SqlRelay

namespace Parameters

variable {query : List (String × String)} {body : List (String × Json)} {name : String}

/-- The value that the pairs of a query and the members of a body give to a name. -/
inductive Given (query : List (String × String)) (body : List (String × Json)) (name : String) :
    Parameter → Prop
  /-- A member of the body counts before the query, also if it is null. -/
  | member {value : Json} (last : Fields.LastOf body name value) :
      Given query body name (.ofJson value)
  /-- The last pair of the query has the word for the null value. -/
  | null (absent : name ∉ body.map (·.1)) (last : Fields.LastOf query name "NULL") :
      Given query body name .null
  /-- The last pair of the query has any other text. -/
  | text {raw : String} (absent : name ∉ body.map (·.1)) (last : Fields.LastOf query name raw)
      (other : raw ≠ "NULL") : Given query body name (.text raw)

/-- A name occurs in the body or in the query. -/
def Named (query : List (String × String)) (body : List (String × Json)) (name : String) : Prop :=
  name ∈ body.map (·.1) ∨ name ∈ query.map (·.1)

/-- The last pair of the query gives its text, read as a parameter. -/
theorem Given.ofQuery {raw : String} (absent : name ∉ body.map (·.1))
    (last : Fields.LastOf query name raw) : Given query body name (.ofQuery raw) := by
  unfold Parameter.ofQuery
  split
  case isTrue hnull =>
    subst hnull
    exact .null absent last
  case isFalse hother => exact .text absent last hother

/-- A name is looked up in the body first and then in the query. -/
theorem get?_merge_eq_or (query : List (String × String)) (body : List (String × Json))
    (name : String) :
    (merge query body).get? name =
      (((Fields.ofList body).get? name).map Parameter.ofJson).or
        (((Fields.ofList query).get? name).map Parameter.ofQuery) := by
  simp [get?_merge, Fields.ofList, Fields.get?_putAll, Function.comp_def]

/-- What query and body give is what merged parameters hold. -/
theorem Given.get?_merge {value : Parameter} (given : Given query body name value) :
    (merge query body).get? name = some value := by
  rw [get?_merge_eq_or]
  cases given with
  | member last => rw [Fields.get?_ofList_eq_some_iff.2 last, Option.map_some, Option.some_or]
  | null absent last =>
    rw [Fields.get?_ofList_eq_none_iff.2 absent, Fields.get?_ofList_eq_some_iff.2 last]
    rfl
  | text absent last other =>
    rw [Fields.get?_ofList_eq_none_iff.2 absent, Fields.get?_ofList_eq_some_iff.2 last]
    simp [Parameter.ofQuery, other]

/-- Only names that occur have a value. -/
theorem Given.named {value : Parameter} (given : Given query body name value) :
    Named query body name := by
  cases given with
  | member last => exact .inl (List.mem_map_of_mem last.mem)
  | null _ last => exact .inr (List.mem_map_of_mem last.mem)
  | text _ last => exact .inr (List.mem_map_of_mem last.mem)

/-- Each name that occurs has a value. -/
theorem Named.exists_given (named : Named query body name) :
    ∃ value, Given query body name value := by
  by_cases hbody : name ∈ body.map (·.1)
  · obtain ⟨value, last⟩ := Fields.exists_lastOf_iff.2 hbody
    exact ⟨.ofJson value, .member last⟩
  · obtain ⟨raw, last⟩ := Fields.exists_lastOf_iff.2 (named.resolve_left hbody)
    exact ⟨.ofQuery raw, .ofQuery hbody last⟩

/-- A name that neither query nor body gives has no value. -/
theorem get?_merge_eq_none_iff :
    (merge query body).get? name = none ↔ ¬ Named query body name := by
  rw [get?_merge_eq_or, Option.or_eq_none_iff, Option.map_eq_none_iff, Option.map_eq_none_iff,
    Fields.get?_ofList_eq_none_iff, Fields.get?_ofList_eq_none_iff, Named, not_or]

/-- Merged parameters hold what query and body give. -/
theorem get?_merge_eq_some_iff {value : Parameter} :
    (merge query body).get? name = some value ↔ Given query body name value := by
  constructor
  · intro hvalue
    have named : Named query body name := by
      by_contra hnone
      rw [get?_merge_eq_none_iff.2 hnone] at hvalue
      cases hvalue
    obtain ⟨other, given⟩ := named.exists_given
    obtain rfl : other = value := Option.some.inj (given.get?_merge.symm.trans hvalue)
    exact given
  · exact Given.get?_merge

end Parameters

/-! ## Binding -/

/-- The first name without a value lets binding fail. -/
theorem FirstAbsent.bindNames_eq {ps : Parameters} {names : List String} {name : String}
    (absent : FirstAbsent ps names name) :
    bindNames ps names = .error (.badInput (.absent name)) := by
  obtain ⟨before, behind, rfl, hbefore, hnone⟩ := absent
  induction before with
  | nil => simp [bindNames, hnone]
  | cons earlier before ih =>
    rw [List.forall_mem_cons] at hbefore
    obtain ⟨value, hvalue⟩ := Option.isSome_iff_exists.1 hbefore.1
    simp [bindNames, hvalue, ih hbefore.2]

/-- Binding fails at the first name without a value and in no other way. -/
theorem bindNames_eq_error_iff {ps : Parameters} {names : List String} {e : RelayError} :
    bindNames ps names = .error e ↔ ∃ name, FirstAbsent ps names name ∧
      e = .badInput (.absent name) := by
  constructor
  · intro h
    obtain ⟨name, heq, absent⟩ := bindNames_of_error h
    exact ⟨name, absent, heq⟩
  · rintro ⟨name, absent, rfl⟩
    exact absent.bindNames_eq

section Sources

variable {query : List (String × String)} {body : List (String × Json)} {names : List String}

/-- The first of several names that occurs neither in the body nor in the query. -/
def FirstUnnamed (query : List (String × String)) (body : List (String × Json))
    (names : List String) (name : String) : Prop :=
  ∃ before behind, names = before ++ name :: behind ∧
    (∀ earlier ∈ before, Parameters.Named query body earlier) ∧ ¬ Parameters.Named query body name

/-- The first absent name is the first one that neither query nor body gives. -/
theorem firstAbsent_merge_iff {name : String} :
    FirstAbsent (Parameters.merge query body) names name ↔
      FirstUnnamed query body names name := by
  simp only [FirstAbsent, FirstUnnamed, Parameters.get?_merge_eq_none_iff,
    Option.isSome_iff_ne_none, ne_eq, not_not]

/-- Names are bound to values exactly if each value is given to the name in its place. -/
theorem bindNames_merge_eq_ok_iff {values : List Parameter} :
    bindNames (Parameters.merge query body) names = .ok values ↔
      List.Forall₂ (Parameters.Given query body) names values := by
  rw [bindNames_eq_ok_iff, ← List.forall₂_eq_eq_eq, List.forall₂_map_left_iff,
    List.forall₂_map_right_iff]
  simp only [Parameters.get?_merge_eq_some_iff]

/-- Names are bound if each of them occurs. -/
theorem exists_forall₂_given (named : ∀ name ∈ names, Parameters.Named query body name) :
    ∃ values, List.Forall₂ (Parameters.Given query body) names values := by
  induction names with
  | nil => exact ⟨[], .nil⟩
  | cons name names ih =>
    rw [List.forall_mem_cons] at named
    obtain ⟨value, given⟩ := named.1.exists_given
    obtain ⟨values, hvalues⟩ := ih named.2
    exact ⟨value :: values, .cons given hvalues⟩

/-- Only names that occur are bound. -/
theorem named_of_forall₂_given {values : List Parameter}
    (given : List.Forall₂ (Parameters.Given query body) names values) :
    ∀ name ∈ names, Parameters.Named query body name := by
  induction given with
  | nil => simp
  | cons given _ ih => exact List.forall_mem_cons.2 ⟨given.named, ih⟩

end Sources

/-- A statement gets its arguments exactly if each of its parameters occurs in the body or in the
query.  The argument in each place is then what body and query give to the parameter in this place;
otherwise the first parameter that does not occur is reported. -/
theorem Statement.arguments_of_request (s : Statement) (query : List (String × String))
    (body : Option (List (String × Json))) :
    ((∃ values, s.arguments (Parameters.merge query (body.getD [])) = .ok values) ↔
      ∀ name ∈ s.params, Parameters.Named query (body.getD []) name) ∧
    (∀ values, s.arguments (Parameters.merge query (body.getD [])) = .ok values ↔
      List.Forall₂ (Parameters.Given query (body.getD [])) s.params values) ∧
    ∀ e, s.arguments (Parameters.merge query (body.getD [])) = .error e ↔
      ∃ name, FirstUnnamed query (body.getD []) s.params name ∧
        e = .badInput (.absent name) := by
  refine ⟨?_, fun values => bindNames_merge_eq_ok_iff, ?_⟩
  · constructor
    · rintro ⟨values, hbound⟩
      exact named_of_forall₂_given (bindNames_merge_eq_ok_iff.1 hbound)
    · intro named
      obtain ⟨values, hvalues⟩ := exists_forall₂_given named
      exact ⟨values, bindNames_merge_eq_ok_iff.2 hvalues⟩
  · intro e
    simp only [arguments, bindNames_eq_error_iff, firstAbsent_merge_iff]

end SqlRelay
