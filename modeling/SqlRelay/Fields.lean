/-!
# Named fields in key order

Named values are held as a list of pairs in the order of their names, which compare by code
points; a name occurs once.

Main results:

- Definition `Fields.put` sets a field, `Fields.get?` finds one.
- Theorems `Fields.get?_put_self` and `Fields.get?_put_of_ne`: what a set field changes.
- Theorem `Fields.get?_putAll`: of several settings of one name the last counts.
- Theorems `Fields.get?_erase_self` and `Fields.get?_erase_of_ne`: what removing changes.
-/

namespace SqlRelay

/-- Named values in the order of their names. -/
abbrev Fields (α : Type) := List (String × α)

namespace Fields

variable {α β : Type}

/-- The value of a name. -/
def get? (fields : Fields α) (name : String) : Option α :=
  (fields.find? (fun field => field.1 == name)).map (·.2)

/-- Whether a name has a value. -/
def has (fields : Fields α) (name : String) : Bool :=
  fields.any (fun field => field.1 == name)

/-- Sets the value of a name, which keeps its place or takes the one that the order gives. -/
def put : Fields α → String → α → Fields α
  | [], name, value => [(name, value)]
  | field :: rest, name, value =>
    if field.1 = name then (name, value) :: rest
    else if name < field.1 then (name, value) :: field :: rest
    else field :: put rest name value

/-- Removes the value of a name. -/
def erase (fields : Fields α) (name : String) : Fields α :=
  fields.filter (fun field => field.1 != name)

/-- Sets one field after the other. -/
def putAll (fields : Fields α) (more : List (String × α)) : Fields α :=
  more.foldl (fun acc field => acc.put field.1 field.2) fields

/-- The fields set one after the other from none. -/
def ofList (more : List (String × α)) : Fields α :=
  putAll [] more

/-- The names in order. -/
def names (fields : Fields α) : List String :=
  fields.map (·.1)

/-- Changes every value. -/
def mapValues (f : α → β) (fields : Fields α) : Fields β :=
  fields.map (fun field => (field.1, f field.2))

/-! ## What setting and removing change -/

@[simp]
theorem get?_nil (name : String) : get? ([] : Fields α) name = none := rfl

theorem get?_cons (field : String × α) (rest : Fields α) (name : String) :
    get? (field :: rest) name = if field.1 = name then some field.2 else get? rest name := by
  by_cases h : field.1 = name <;> simp [get?, h]

@[simp]
theorem get?_put_self (fields : Fields α) (name : String) (value : α) :
    (fields.put name value).get? name = some value := by
  induction fields with
  | nil => simp [put, get?_cons]
  | cons field rest ih =>
    unfold put
    split
    · simp [get?_cons]
    · split
      · simp [get?_cons]
      · rename_i hne _
        simp [get?_cons, hne, ih]

theorem get?_put_of_ne (fields : Fields α) {name other : String} (value : α) (h : other ≠ name) :
    (fields.put name value).get? other = fields.get? other := by
  induction fields with
  | nil => simp [put, get?_cons, Ne.symm h]
  | cons field rest ih =>
    unfold put
    split
    · rename_i heq
      have : ¬ field.1 = other := fun he => h (he ▸ heq)
      simp [get?_cons, this, Ne.symm h]
    · split
      · simp [get?_cons, Ne.symm h]
      · simp [get?_cons, ih]

/-- Of several settings of one name the last counts. -/
theorem get?_putAll (fields : Fields α) (more : List (String × α)) (name : String) :
    (fields.putAll more).get? name =
      ((more.reverse.find? (fun field => field.1 == name)).map (·.2)).or (fields.get? name) := by
  induction more generalizing fields with
  | nil => simp [putAll]
  | cons field rest ih =>
    have step : putAll fields (field :: rest) = putAll (fields.put field.1 field.2) rest := rfl
    rw [step, ih, List.reverse_cons, List.find?_append]
    cases hr : rest.reverse.find? (fun field => field.1 == name) with
    | some found => simp
    | none =>
      by_cases h : field.1 = name
      · subst h; simp
      · simp [h, get?_put_of_ne _ _ (Ne.symm h)]

@[simp]
theorem get?_erase_self (fields : Fields α) (name : String) :
    (fields.erase name).get? name = none := by
  simp [get?, erase]

/-- Removing a field leaves the other ones alone. -/
theorem get?_erase_of_ne (fields : Fields α) {name other : String} (h : other ≠ name) :
    (fields.erase name).get? other = fields.get? other := by
  induction fields with
  | nil => rfl
  | cons field rest ih =>
    unfold erase at ih ⊢
    rw [List.filter_cons, get?_cons, ← ih]
    by_cases hf : field.1 = name
    · have : ¬ name = other := Ne.symm h
      simp [hf, this]
    · simp [hf, get?_cons]

end Fields
end SqlRelay
