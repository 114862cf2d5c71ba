import Mathlib.Data.List.TakeWhile
import SqlRelay.Proofs.Sql.Characters
/-!
# Placeholders in SQL text

A placeholder begins with one of the marks `?`, `$`, `@` and `:`, and goes on over the letters and
digits behind it.  So the placeholders of a text can be read from left to right, whatever its
dialect is.  What holds no mark has none, and a text is read piece by piece where a piece begins
with neither a letter nor a digit.

Main results:

- Definition `placeholdersOf` lists the placeholders of a text from left to right.
- Theorem `placeholdersOf_append`: a text has the placeholders of its pieces.
- Theorem `placeholdersOf_condition`: a column set equal to a placeholder has this one only.
- Theorems `placeholdersOf_intercalate` and `placeholdersOf_append_join`: texts with dividers
  between them.
-/

namespace SqlRelay

/-- The placeholders of a text: each mark with the letters and digits behind it. -/
def placeholdersIn : List Char → List (List Char)
  | [] => []
  | c :: cs =>
    if c ∈ slotMarks then (c :: cs.takeWhile Char.isAlphanum) :: placeholdersIn cs
    else placeholdersIn cs

/-- The placeholders of a text, from left to right. -/
def placeholdersOf (s : String) : List (List Char) :=
  placeholdersIn s.toList

/-- A text without the marks of placeholders. -/
def Unmarked (s : String) : Prop :=
  ∀ c ∈ s.toList, c ∉ slotMarks

instance (s : String) : Decidable (Unmarked s) :=
  List.decidableBAll (fun c => c ∉ slotMarks) s.toList

/-- A text that no placeholder before it can go on in. -/
def Apart (s : String) : Prop :=
  ∀ c ∈ s.toList.head?, c.isAlphanum = false

instance (s : String) : Decidable (Apart s) :=
  Option.decidableForallMem s.toList.head?

theorem not_mem_slotMarks_of_isAlphanum {c : Char} (h : c.isAlphanum = true) : c ∉ slotMarks := by
  intro hmark
  rcases (mem_slotMarks_iff c).1 hmark with rfl | rfl | rfl | rfl <;> exact absurd h (by decide)

/-- The placeholders of two texts follow one another if no number goes on in the second. -/
theorem placeholdersIn_append {a b : List Char} (apart : ∀ c ∈ b.head?, c.isAlphanum = false) :
    placeholdersIn (a ++ b) = placeholdersIn a ++ placeholdersIn b := by
  have hstop : b.takeWhile Char.isAlphanum = [] := by
    cases b with
    | nil => rfl
    | cons c b => simp [apart c (by simp)]
  induction a with
  | nil => rfl
  | cons c a ih =>
    have htoken : (a ++ b).takeWhile Char.isAlphanum = a.takeWhile Char.isAlphanum := by
      rw [List.takeWhile_append]
      split
      · rename_i hwhole
        rw [hstop, List.append_nil, (List.takeWhile_prefix _).eq_of_length hwhole]
      · rfl
    rw [List.cons_append, placeholdersIn, placeholdersIn, htoken, ih]
    split <;> rfl

/-- Characters that are no marks have no placeholders. -/
theorem placeholdersIn_of_unmarked {a : List Char} (h : ∀ c ∈ a, c ∉ slotMarks) (b : List Char) :
    placeholdersIn (a ++ b) = placeholdersIn b := by
  induction a with
  | nil => rfl
  | cons c a ih =>
    rw [List.cons_append, placeholdersIn, if_neg (h c List.mem_cons_self),
      ih (fun d hd => h d (List.mem_cons_of_mem _ hd))]

/-! ## Pieces of text -/

section Pieces

variable {a b : String}

/-- A text has the placeholders of its pieces. -/
theorem placeholdersOf_append (a : String) (apart : Apart b) :
    placeholdersOf (a ++ b) = placeholdersOf a ++ placeholdersOf b := by
  rw [placeholdersOf, String.toList_append]
  exact placeholdersIn_append apart

/-- A text without marks has no placeholders to add in front. -/
theorem placeholdersOf_unmarked_append (h : Unmarked a) (b : String) :
    placeholdersOf (a ++ b) = placeholdersOf b := by
  rw [placeholdersOf, String.toList_append]
  exact placeholdersIn_of_unmarked h _

theorem placeholdersOf_of_unmarked (h : Unmarked a) : placeholdersOf a = [] := by
  have hnothing : placeholdersOf (a ++ "") = [] := placeholdersOf_unmarked_append h ""
  rwa [String.append_empty] at hnothing

theorem Unmarked.append (ha : Unmarked a) (hb : Unmarked b) : Unmarked (a ++ b) := by
  intro c hc
  rw [String.toList_append] at hc
  exact (List.mem_append.1 hc).elim (ha c) (hb c)

/-- A text that begins apart does so with more text behind it. -/
theorem Apart.append (ha : Apart a) (hsome : a ≠ "") (b : String) : Apart (a ++ b) := by
  intro c hc
  rw [String.toList_append, List.head?_append_of_ne_nil _ (by simpa using hsome)] at hc
  exact ha c hc

end Pieces

/-- Escaping a name makes no marks. -/
theorem Unmarked.escapeSql {name : String} (h : Unmarked name) : Unmarked (escapeSql name) := by
  intro c hc
  rw [SqlRelay.escapeSql, String.toList_ofList] at hc
  exact h c (mem_escapeChars hc)

/-- Spelled text has no marks. -/
theorem Spelled.unmarked {s : String} (h : Spelled s) : Unmarked s := by
  intro c hc
  rcases h c hc with rfl | halnum
  · decide
  · exact not_mem_slotMarks_of_isAlphanum halnum

/-- A placeholder is read as itself. -/
theorem placeholdersOf_placeholder (d : Dialect) (index : Nat) :
    placeholdersOf (String.ofList (d.placeholder index)) = [d.placeholder index] := by
  obtain ⟨mark, behind, heq, hmark, hbehind⟩ := d.placeholder_eq_cons index
  have hnone : placeholdersIn behind = [] := by
    rw [← List.append_nil behind,
      placeholdersIn_of_unmarked (fun c hc => not_mem_slotMarks_of_isAlphanum (hbehind c hc))]
    rfl
  rw [placeholdersOf, String.toList_ofList, heq, placeholdersIn, if_pos hmark, hnone,
    List.takeWhile_eq_self_iff.2 hbehind]

/-- A column set equal to a placeholder has this one only. -/
theorem placeholdersOf_condition (d : Dialect) {name : String} (h : Unmarked name) (index : Nat) :
    placeholdersOf (escapeSql name ++ "=" ++ String.ofList (d.placeholder index)) =
      [d.placeholder index] := by
  have hfront : Unmarked (escapeSql name ++ "=") := h.escapeSql.append (by decide)
  rw [placeholdersOf_unmarked_append hfront, placeholdersOf_placeholder]

/-- A text without marks that no placeholder can go on in, to be put between others. -/
structure Divider (s : String) : Prop where
  nonempty : s ≠ ""
  unmarked : Unmarked s
  apart : Apart s

instance (s : String) : Decidable (Divider s) :=
  decidable_of_iff (s ≠ "" ∧ Unmarked s ∧ Apart s)
    ⟨fun h => ⟨h.1, h.2.1, h.2.2⟩, fun h => ⟨h.nonempty, h.unmarked, h.apart⟩⟩

section Divided

variable {divider : String} (hdivider : Divider divider)

include hdivider

/-- The placeholders on both sides of a divider are kept apart. -/
theorem placeholdersOf_between (a b : String) :
    placeholdersOf (a ++ divider ++ b) = placeholdersOf a ++ placeholdersOf b := by
  rw [String.append_assoc, placeholdersOf_append a (hdivider.apart.append hdivider.nonempty b),
    placeholdersOf_unmarked_append hdivider.unmarked]

/-- The placeholders of divided texts follow one another. -/
theorem placeholdersOf_intercalate (texts : List String) :
    placeholdersOf (divider.intercalate texts) = texts.flatMap placeholdersOf := by
  induction texts with
  | nil => rfl
  | cons text texts ih =>
    by_cases hnone : texts = []
    · simp [hnone]
    · rw [String.intercalate_cons_of_ne_nil hnone, placeholdersOf_between hdivider, ih,
        List.flatMap_cons]

/-- So they do behind a text in front of all dividers. -/
theorem placeholdersOf_append_join (a : String) (texts : List String) :
    placeholdersOf (a ++ String.join (texts.map (divider ++ ·))) =
      placeholdersOf a ++ texts.flatMap placeholdersOf := by
  induction texts generalizing a with
  | nil => simp
  | cons text texts ih =>
    rw [List.map_cons, String.join_cons, ← String.append_assoc, ← String.append_assoc, ih,
      placeholdersOf_between hdivider, List.flatMap_cons, List.append_assoc]

end Divided
end SqlRelay
