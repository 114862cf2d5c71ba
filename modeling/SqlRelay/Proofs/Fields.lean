import SqlRelay.Proofs.Parameter.Order
/-!
# The last value of a name

Fields are made from pairs of a name and a value, of which the last one of a name counts.

Main results:

- Definition `Fields.LastOf` says which value of a name is the last one.
- Theorem `Fields.get?_ofList_eq_some_iff`: looking up a name finds its last value.
- Theorem `Fields.mem_ofList_iff`: the fields are the last values of all names, and by
  `Fields.nodup_names_ofList` each name occurs once.
- Theorem `Fields.perm_ofList`: pairs of distinct names are all kept.
-/

namespace SqlRelay.Fields

variable {α : Type} {pairs : List (String × α)} {name : String} {value : α}

/-- The last of the pairs with a name has this value. -/
def LastOf (pairs : List (String × α)) (name : String) (value : α) : Prop :=
  ∃ before behind, pairs = before ++ (name, value) :: behind ∧ ∀ later ∈ behind, later.1 ≠ name

/-- The last pair of a name is one of the pairs. -/
theorem LastOf.mem (last : LastOf pairs name value) : (name, value) ∈ pairs := by
  obtain ⟨before, behind, rfl, -⟩ := last
  simp

/-- Searching from the end finds the last pair of a name. -/
theorem find?_reverse_eq_some_iff :
    (pairs.reverse.find? (fun pair => pair.1 == name)).map (·.2) = some value ↔
      LastOf pairs name value := by
  rw [Option.map_eq_some_iff]
  constructor
  · rintro ⟨pair, hfind, rfl⟩
    obtain ⟨hname, behind, before, hsplit, hbehind⟩ := List.find?_eq_some_iff_append.1 hfind
    obtain rfl : pair.1 = name := by simpa using hname
    refine ⟨before.reverse, behind.reverse, by simpa using congrArg List.reverse hsplit, ?_⟩
    intro later hlater
    simpa using hbehind later (List.mem_reverse.1 hlater)
  · rintro ⟨before, behind, rfl, hbehind⟩
    refine ⟨(name, value), ?_, rfl⟩
    apply List.find?_eq_some_iff_append.2
    refine ⟨by simp, behind.reverse, before.reverse, by simp, ?_⟩
    intro later hlater
    simpa using hbehind later (List.mem_reverse.1 hlater)

/-- A name has a last value exactly if it has any. -/
theorem exists_lastOf_iff : (∃ value, LastOf pairs name value) ↔ name ∈ pairs.map (·.1) := by
  constructor
  · rintro ⟨value, last⟩
    exact List.mem_map_of_mem last.mem
  · intro hmem
    obtain ⟨pair, hpair, rfl⟩ := List.mem_map.1 hmem
    have hfound : (pairs.reverse.find? (fun other => other.1 == pair.1)).isSome = true :=
      List.find?_isSome.2 ⟨pair, List.mem_reverse.2 hpair, by simp⟩
    obtain ⟨last, hlast⟩ := Option.isSome_iff_exists.1 hfound
    exact ⟨last.2, find?_reverse_eq_some_iff.1 (by rw [hlast]; rfl)⟩

/-- Looking up a name finds its last value. -/
theorem get?_ofList_eq_some_iff :
    (ofList pairs).get? name = some value ↔ LastOf pairs name value := by
  rw [ofList, get?_putAll, get?_nil, Option.or_none, find?_reverse_eq_some_iff]

/-- Looking up a name finds nothing exactly if no pair has it. -/
theorem get?_ofList_eq_none_iff : (ofList pairs).get? name = none ↔ name ∉ pairs.map (·.1) := by
  rw [← exists_lastOf_iff, Option.eq_none_iff_forall_ne_some, not_exists]
  exact forall_congr' fun value => not_congr get?_ofList_eq_some_iff

/-- The fields are the last values of all names. -/
theorem mem_ofList_iff : (name, value) ∈ ofList pairs ↔ LastOf pairs name value := by
  rw [← (ordered_ofList pairs).get?_eq_some_iff, get?_ofList_eq_some_iff]

/-- Each name occurs once among fields. -/
theorem nodup_names_ofList (pairs : List (String × α)) : (ofList pairs).names.Nodup := by
  have hnames : (ofList pairs).names.Pairwise (· < ·) := List.pairwise_map.2 (ordered_ofList pairs)
  apply hnames.imp
  intro a b hlt hsame
  exact String.lt_irrefl a (hsame ▸ hlt)

/-! ## Distinct names -/

/-- Among pairs of distinct names each one is the last of its name. -/
theorem lastOf_iff_mem (distinct : (pairs.map (·.1)).Nodup) :
    LastOf pairs name value ↔ (name, value) ∈ pairs := by
  constructor
  · exact LastOf.mem
  · intro hmem
    obtain ⟨before, behind, rfl⟩ := List.append_of_mem hmem
    refine ⟨before, behind, rfl, ?_⟩
    intro later hlater hsame
    have hbehind : name ∉ behind.map (·.1) := by
      rw [List.map_append, List.map_cons, List.nodup_append] at distinct
      exact (List.nodup_cons.1 distinct.2.1).1
    exact hbehind (hsame ▸ List.mem_map_of_mem hlater)

/-- Pairs of distinct names are found by their names. -/
theorem get?_eq_some_of_mem (distinct : (pairs.map (·.1)).Nodup) (hmem : (name, value) ∈ pairs) :
    get? pairs name = some value := by
  obtain ⟨before, behind, rfl⟩ := List.append_of_mem hmem
  rw [List.map_append, List.map_cons, List.nodup_append] at distinct
  have hbefore : ∀ pair ∈ before, pair.1 ≠ name := by
    intro pair hpair
    exact distinct.2.2 _ (List.mem_map_of_mem hpair) _ List.mem_cons_self
  have hnone : before.find? (fun pair => pair.1 == name) = none := by
    simpa using hbefore
  simp [get?, List.find?_append, hnone]

/-- Setting pairs of distinct names keeps them all. -/
theorem perm_ofList (distinct : (pairs.map (·.1)).Nodup) : (ofList pairs).Perm pairs := by
  have hpairs : (ofList pairs).Nodup := List.Nodup.of_map _ (nodup_names_ofList pairs)
  rw [List.perm_ext_iff_of_nodup hpairs (List.Nodup.of_map _ distinct)]
  rintro ⟨name, value⟩
  rw [mem_ofList_iff, lastOf_iff_mem distinct]

end SqlRelay.Fields
