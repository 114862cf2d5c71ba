import Mathlib.Data.List.Sort
import SqlRelay.Parameter
import SqlRelay.Proofs.Text.ByteOrder
/-!
# Parameters in the order of their names

Named fields that were set one after the other stand in the order of their names, each name once.
Such fields are what their look-up says and nothing more: what can be looked up alike is the same.

Main results:

- Theorem `Fields.Ordered.putAll`: setting fields keeps them in order.
- Theorem `Fields.Ordered.eq_of_get?`: fields in order are the same if every look-up is.
- Definition `Parameters.DataInOrder` lists the data among parameters in the order of the bytes of
  their names; theorem `Parameters.data_inOrder`: `Parameters.data` is that list.
-/

namespace SqlRelay

namespace Fields

variable {α : Type}

/-- The fields stand in the order of their names, and each name occurs once. -/
def Ordered (fields : Fields α) : Prop :=
  fields.Pairwise (fun a b => a.1 < b.1)

theorem ordered_nil : Ordered ([] : Fields α) := List.Pairwise.nil

/-- A field is the one that was set, or it was there before. -/
theorem mem_of_mem_put {fields : Fields α} {name : String} {value : α} {field : String × α}
    (h : field ∈ fields.put name value) : field = (name, value) ∨ field ∈ fields := by
  induction fields with
  | nil => exact .inl (by simpa [put] using h)
  | cons first rest ih =>
    unfold put at h
    split at h
    · rcases List.mem_cons.1 h with hsame | hrest
      · exact .inl hsame
      · exact .inr (List.mem_cons_of_mem _ hrest)
    · split at h
      · exact List.mem_cons.1 h
      · rcases List.mem_cons.1 h with hfirst | hput
        · exact .inr (hfirst ▸ List.mem_cons_self)
        · exact (ih hput).imp_right (List.mem_cons_of_mem _)

/-- Setting a field keeps the order. -/
theorem Ordered.put {fields : Fields α} (ordered : fields.Ordered) (name : String) (value : α) :
    (fields.put name value).Ordered := by
  induction fields with
  | nil => exact List.pairwise_singleton _ _
  | cons first rest ih =>
    obtain ⟨hfirst, hrest⟩ := List.pairwise_cons.1 ordered
    unfold Fields.put
    split
    · rename_i hsame
      refine List.pairwise_cons.2 ⟨?_, hrest⟩
      intro field hmem
      exact hsame ▸ hfirst field hmem
    · rename_i hne
      split
      · rename_i hbefore
        refine List.pairwise_cons.2 ⟨?_, ordered⟩
        intro field hmem
        rcases List.mem_cons.1 hmem with rfl | hmem
        · exact hbefore
        · exact String.lt_trans hbefore (hfirst field hmem)
      · rename_i hbehind
        have hlt : first.1 < name :=
          Std.lt_of_le_of_ne (String.not_lt.1 hbehind) hne
        refine List.pairwise_cons.2 ⟨?_, ih hrest⟩
        intro field hmem
        rcases mem_of_mem_put hmem with rfl | hmem
        · exact hlt
        · exact hfirst field hmem

/-- Setting fields one after the other keeps the order. -/
theorem Ordered.putAll {fields : Fields α} (ordered : fields.Ordered)
    (more : List (String × α)) : (fields.putAll more).Ordered := by
  induction more generalizing fields with
  | nil => exact ordered
  | cons field more ih => exact ih (ordered.put field.1 field.2)

/-- Fields that were set from none are in order. -/
theorem ordered_ofList (more : List (String × α)) : (ofList more).Ordered :=
  ordered_nil.putAll more

/-- In order, a look-up finds exactly the fields that are there. -/
theorem Ordered.get?_eq_some_iff {fields : Fields α} (ordered : fields.Ordered) (name : String)
    (value : α) : fields.get? name = some value ↔ (name, value) ∈ fields := by
  induction fields with
  | nil => simp
  | cons first rest ih =>
    obtain ⟨hfirst, hrest⟩ := List.pairwise_cons.1 ordered
    rw [get?_cons, List.mem_cons]
    by_cases hname : first.1 = name
    · have hgone : (name, value) ∉ rest := by
        intro hmem
        have hlt := hfirst _ hmem
        rw [hname] at hlt
        exact String.lt_irrefl _ hlt
      subst hname
      constructor
      · intro hvalue
        have : first.2 = value := by simpa using hvalue
        exact .inl (this ▸ rfl)
      · intro hmem
        rcases hmem with hsame | hmem
        · simpa using (congrArg Prod.snd hsame).symm
        · exact absurd hmem hgone
    · rw [if_neg hname, ih hrest]
      constructor
      · exact .inr
      · intro hmem
        rcases hmem with hsame | hmem
        · exact absurd (congrArg Prod.fst hsame).symm hname
        · exact hmem

/-- Fields in order are the same if every look-up is. -/
theorem Ordered.eq_of_get? {a b : Fields α} (ha : a.Ordered) (hb : b.Ordered)
    (same : ∀ name, a.get? name = b.get? name) : a = b := by
  have hirrefl : Std.Irrefl (fun x y : String × α => x.1 < y.1) :=
    ⟨fun x => String.lt_irrefl x.1⟩
  have hantisymm : Std.Antisymm (fun x y : String × α => x.1 < y.1) :=
    ⟨fun x y hxy hyx => absurd hyx (String.lt_asymm hxy)⟩
  apply List.Pairwise.eq_of_mem_iff ha hb
  rintro ⟨name, value⟩
  rw [← ha.get?_eq_some_iff, ← hb.get?_eq_some_iff, same]

/-- Names in order are the same if the same names are there. -/
theorem Ordered.names_eq {a b : Fields α} (ha : a.Ordered) (hb : b.Ordered)
    (same : ∀ name, name ∈ a.names ↔ name ∈ b.names) : a.names = b.names := by
  have hnames : ∀ {c : Fields α}, c.Ordered → c.names.Pairwise (· < ·) :=
    fun hc => List.pairwise_map.2 hc
  exact (hnames ha).eq_of_mem_iff (hnames hb) same

end Fields

namespace Parameters

/-! ## Data in order -/

/-- The parameters of a request are in order. -/
theorem ordered_merge (query : List (String × String)) (body : List (String × Json)) :
    (merge query body).Ordered :=
  (Fields.ordered_ofList _).putAll _

/-- Entries are the data among parameters, each once, in the order of the bytes of their names. -/
structure DataInOrder (ps : Parameters) (entries : List (String × Parameter)) : Prop where
  order : entries.Pairwise (fun a b => Utf8.encode a.1 < Utf8.encode b.1)
  mem_iff : ∀ name value,
    (name, value) ∈ entries ↔ isControlKey name = false ∧ ps.get? name = some value

/-- The same names of data are there. -/
def SameNames (ps ps' : Parameters) : Prop :=
  ∀ name, isControlKey name = false → (name ∈ ps.names ↔ name ∈ ps'.names)

/-- The same data are there; whatever controls the request may differ. -/
def SameData (ps ps' : Parameters) : Prop :=
  ∀ name, isControlKey name = false → ps.get? name = ps'.get? name

variable {ps ps' : Parameters}

/-- The data are in order if the parameters are. -/
theorem ordered_data (ordered : ps.Ordered) : ps.data.Ordered :=
  ordered.filter _

/-- Parameters in order have their data in order. -/
theorem data_inOrder (ordered : ps.Ordered) : ps.DataInOrder ps.data where
  order := (ordered_data ordered).imp (Utf8.encode_lt_iff _ _).2
  mem_iff := by
    intro name value
    rw [data, List.mem_filter, ordered.get?_eq_some_iff, and_comm]
    simp

/-- The data are the parameters that are no control parameters. -/
theorem get?_data (ps : Parameters) (name : String) :
    ps.data.get? name = if isControlKey name then none else ps.get? name := by
  induction ps with
  | nil => simp [data]
  | cons first rest ih =>
    unfold data at ih ⊢
    rw [List.filter_cons, Fields.get?_cons]
    by_cases hname : first.1 = name
    · subst hname
      cases hcontrol : isControlKey first.1 with
      | false => simp [Fields.get?_cons]
      | true => simpa [hcontrol] using ih
    · cases isControlKey first.1 with
      | false => simpa [Fields.get?_cons, hname] using ih
      | true => simpa [hname] using ih

/-- Parameters in order with the same data are alike but for what controls the request. -/
theorem data_eq_of_sameData (ordered : ps.Ordered) (ordered' : ps'.Ordered)
    (same : ps.SameData ps') : ps.data = ps'.data := by
  apply (ordered_data ordered).eq_of_get? (ordered_data ordered')
  intro name
  rw [get?_data, get?_data]
  cases hcontrol : isControlKey name with
  | false => exact same name hcontrol
  | true => rfl

/-- The names of the data are those that are no control names. -/
theorem mem_names_data (ps : Parameters) (name : String) :
    name ∈ ps.data.names ↔ isControlKey name = false ∧ name ∈ ps.names := by
  simp only [data, Fields.names, List.mem_map, List.mem_filter]
  constructor
  · rintro ⟨field, ⟨hmem, hdata⟩, rfl⟩
    exact ⟨by simpa using hdata, field, hmem, rfl⟩
  · rintro ⟨hdata, field, hmem, rfl⟩
    exact ⟨field, ⟨hmem, by simpa using hdata⟩, rfl⟩

/-- Parameters in order with the same names of data list them alike. -/
theorem names_data_eq_of_sameNames (ordered : ps.Ordered) (ordered' : ps'.Ordered)
    (same : ps.SameNames ps') : ps.data.names = ps'.data.names := by
  apply (ordered_data ordered).names_eq (ordered_data ordered')
  intro name
  rw [mem_names_data, mem_names_data]
  constructor
  · intro ⟨hdata, hmem⟩
    exact ⟨hdata, (same name hdata).1 hmem⟩
  · intro ⟨hdata, hmem⟩
    exact ⟨hdata, (same name hdata).2 hmem⟩

end Parameters
end SqlRelay
