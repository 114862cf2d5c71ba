import Mathlib.Data.List.Forall2
import SqlRelay.Configuration.Reader
/-!
# Fields of records

A record that is written as an object may have its members in any order, and members that nobody
knows.  Its fields are found by their names.

Main results:

- Definition `Tree.HasMembers`: the members of an object, by the texts of their names.
- Theorem `recordFields?_of_hasMembers`: the fields are found if no known one stands twice.
-/

namespace SqlRelay

open Json (Tree TextUnit readText?)

/-- A member has a name that can be read, and a value. -/
def IsNamed (member : List TextUnit × Tree) (field : String × Tree) : Prop :=
  readText? member.1 = some field.1 ∧ member.2 = field.2

/-- A tree is an object with some members, each with its name and value. -/
inductive HasMembers : Tree → List (String × Tree) → Prop
  | intro {members : List (List TextUnit × Tree)} {fields : List (String × Tree)}
      (named : List.Forall₂ IsNamed members fields) : HasMembers (.object members) fields

/-- The members whose names are known. -/
def knownFields (names : List String) (fields : List (String × Tree)) : List (String × Tree) :=
  fields.filter (fun field => names.contains field.1)

variable {names : List String} {fields : List (String × Tree)}

/-- No known name stands twice. -/
def KnownOnce (names : List String) (fields : List (String × Tree)) : Prop :=
  ((knownFields names fields).map (·.1)).Nodup

/-- A field of a known name is kept. -/
theorem knownFields_cons_of_mem {field : String × Tree} (known : field.1 ∈ names) :
    knownFields names (field :: fields) = field :: knownFields names fields :=
  List.filter_cons_of_pos (by simpa using known)

/-- A field of another name is left out. -/
theorem knownFields_cons_of_not_mem {field : String × Tree} (unknown : field.1 ∉ names) :
    knownFields names (field :: fields) = knownFields names fields :=
  List.filter_cons_of_neg (by simpa using unknown)

/-- Members are known by their names. -/
theorem knownMembers?_eq {members : List (List TextUnit × Tree)}
    (named : List.Forall₂ IsNamed members fields) (once : KnownOnce names fields) :
    knownMembers? names members = some (knownFields names fields) := by
  induction named with
  | nil => rfl
  | @cons member field members fields hnamed _ ih =>
    obtain ⟨key, tree⟩ := member
    obtain ⟨name, value⟩ := field
    obtain ⟨hname, rfl⟩ : readText? key = some name ∧ tree = value := hnamed
    by_cases known : name ∈ names
    · rw [KnownOnce, knownFields_cons_of_mem known, List.map_cons, List.nodup_cons] at once
      have hother : ∀ member ∈ knownFields names fields, member.1 ≠ name := by
        intro member hmember hsame
        exact once.1 (hsame ▸ List.mem_map_of_mem (f := (·.1)) hmember)
      have habsent : (knownFields names fields).any (fun member => member.1 == name) = false := by
        simpa using hother
      simp [knownMembers?, hname, ih once.2, known, habsent, knownFields_cons_of_mem]
    · rw [KnownOnce, knownFields_cons_of_not_mem known] at once
      simp [knownMembers?, hname, ih once, known, knownFields_cons_of_not_mem]

/-- A known name is found among all members. -/
theorem get?_knownFields {name : String} (known : name ∈ names) :
    Fields.get? (knownFields names fields) name = Fields.get? fields name := by
  induction fields with
  | nil => rfl
  | cons field fields ih =>
    by_cases hfield : field.1 ∈ names
    · rw [knownFields_cons_of_mem hfield, Fields.get?_cons, Fields.get?_cons, ih]
    · have hother : field.1 ≠ name := by
        intro hsame
        exact hfield (hsame ▸ known)
      rw [knownFields_cons_of_not_mem hfield, Fields.get?_cons, if_neg hother, ih]

/-- The fields of a record are found by their names. -/
theorem recordFields?_of_hasMembers {t : Tree} (members : HasMembers t fields)
    (once : KnownOnce names fields) :
    recordFields? names t = some (names.map (Fields.get? fields)) := by
  obtain ⟨named⟩ := members
  rw [recordFields?, knownMembers?_eq named once, Option.map_some]
  congr 1
  apply List.map_congr_left
  intro name known
  exact get?_knownFields known

end SqlRelay
