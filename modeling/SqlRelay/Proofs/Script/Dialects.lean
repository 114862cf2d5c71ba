import Mathlib.Data.List.Forall2
import SqlRelay.Script.Statement
/-!
# Scripts in several dialects

A dialect is only heard in the SQL text of statements.  Whatever its placeholders look like, they
begin with a mark that is no letter and no blank, as the slots of a body do; so neither the word
that a statement begins with nor the case of its first letter can come out of a placeholder.

Main results:

- Definition `Template.front` is the text of a template up to its first slot.
- Theorems `returnsRows_append_marked` and `beginsUppercase_append_marked`: what begins with a mark
  has no part in the classification of the text before it.
- Theorem `Template.read_render`: SQL text is classified as the body that it is written from.
- Theorem `compile_independent_of_dialect`: in any two dialects a script has the same error, or
  statements that agree in all but their SQL text.
-/

namespace SqlRelay

/-- The characters that slots and placeholders begin with. -/
def slotMarks : List Char := ['?', '$', '@', ':']

/-- A text that has nothing in front of its first mark. -/
def BeginsMarked (cs : List Char) : Prop :=
  ∀ c ∈ cs.head?, c ∈ slotMarks

@[simp]
theorem beginsMarked_nil : BeginsMarked [] := by
  simp [BeginsMarked]

@[simp]
theorem beginsMarked_cons (c : Char) (cs : List Char) :
    BeginsMarked (c :: cs) ↔ c ∈ slotMarks := by
  simp [BeginsMarked]

/-- A placeholder begins with a mark in every dialect. -/
theorem placeholder_beginsMarked (d : Dialect) (index : Nat) (rest : List Char) :
    BeginsMarked (d.placeholder index ++ rest) := by
  cases d <;> simp [Dialect.placeholder, slotMarks]

theorem mem_slotMarks_iff (c : Char) : c ∈ slotMarks ↔ c = '?' ∨ c = '$' ∨ c = '@' ∨ c = ':' := by
  simp [slotMarks]

section Mark

variable {c : Char} (h : c ∈ slotMarks)

include h

theorem isBlank_of_mem_slotMarks : Text.isBlank c = false := by
  rcases (mem_slotMarks_iff c).1 h with rfl | rfl | rfl | rfl <;> decide

theorem toUpper_of_mem_slotMarks : c.toUpper = c := by
  rcases (mem_slotMarks_iff c).1 h with rfl | rfl | rfl | rfl <;> decide

theorem isUppercase_of_mem_slotMarks : Text.isUppercase c = false := by
  rcases (mem_slotMarks_iff c).1 h with rfl | rfl | rfl | rfl <;> decide

end Mark

/-- No mark stands in a word that a statement with rows begins with. -/
theorem not_mem_slotMarks_of_rowWords {word : String} (hword : word ∈ rowWords) :
    ∀ c ∈ word.toList, c ∉ slotMarks := by
  have hall : rowWords.all
      (fun word => word.toList.all (fun c => !slotMarks.contains c)) = true := by
    decide
  intro c hc
  have hword := List.all_eq_true.1 (List.all_eq_true.1 hall word hword) c hc
  simpa using hword

/-! ## Texts before a mark -/

section Marked

variable {front rest : List Char} (marked : BeginsMarked rest)

include marked

/-- A word without marks does not reach into what begins with a mark. -/
theorem isPrefixOf_append_marked {word : List Char} (hword : ∀ c ∈ word, c ∉ slotMarks) :
    word.isPrefixOf (front ++ rest) = word.isPrefixOf front := by
  induction word generalizing front with
  | nil => simp
  | cons w word ih =>
    cases front with
    | nil =>
      cases rest with
      | nil => rfl
      | cons c rest =>
        have hmark : c ∈ slotMarks := (beginsMarked_cons c rest).1 marked
        have hne : w ≠ c := by
          rintro rfl
          exact hword w (by simp) hmark
        simp [List.isPrefixOf, hne]
    | cons f front =>
      have hrest : word.isPrefixOf (front ++ rest) = word.isPrefixOf front :=
        ih (fun c hc => hword c (by simp [hc]))
      simp [List.isPrefixOf, hrest]

/-- Trimming a text does not reach a mark behind it. -/
theorem trimStart_append_marked :
    Text.trimStart (front ++ rest) = Text.trimStart front ++ rest := by
  have hdrop : rest.dropWhile Text.isBlank = rest := by
    cases rest with
    | nil => rfl
    | cons c rest =>
      have hblank := isBlank_of_mem_slotMarks ((beginsMarked_cons c rest).1 marked)
      simp [hblank]
  unfold Text.trimStart
  rw [List.dropWhile_append, hdrop]
  split
  · rename_i hempty
    rw [List.isEmpty_iff.1 hempty, List.nil_append]
  · rfl

theorem BeginsMarked.map_toUpper : BeginsMarked (rest.map Char.toUpper) := by
  cases rest with
  | nil => simp
  | cons c rest =>
    have hmark := (beginsMarked_cons c rest).1 marked
    rw [List.map_cons, beginsMarked_cons, toUpper_of_mem_slotMarks hmark]
    exact hmark

/-- What begins with a mark does not make a statement return rows. -/
theorem returnsRows_append_marked : returnsRows (front ++ rest) = returnsRows front := by
  have hword : ∀ word ∈ rowWords,
      startsWithWord (front ++ rest) word = startsWithWord front word := by
    intro word hword
    unfold startsWithWord
    rw [trimStart_append_marked marked, List.map_append]
    exact isPrefixOf_append_marked marked.map_toUpper (not_mem_slotMarks_of_rowWords hword)
  unfold returnsRows
  rw [Bool.eq_iff_iff, List.any_eq_true, List.any_eq_true]
  constructor
  · rintro ⟨word, hmem, hstarts⟩
    exact ⟨word, hmem, hword word hmem ▸ hstarts⟩
  · rintro ⟨word, hmem, hstarts⟩
    exact ⟨word, hmem, (hword word hmem).symm ▸ hstarts⟩

/-- What begins with a mark does not begin with a capital letter. -/
theorem beginsUppercase_append_marked :
    beginsUppercase (front ++ rest) = beginsUppercase front := by
  cases front with
  | cons c front => rfl
  | nil =>
    cases rest with
    | nil => rfl
    | cons c rest => exact isUppercase_of_mem_slotMarks ((beginsMarked_cons c rest).1 marked)

end Marked

/-! ## Templates and statements -/

namespace Template

/-- The text of a template up to its first slot. -/
def front : Template → List Char
  | [] => []
  | .char c :: rest => c :: front rest
  | .slot _ :: _ => []

/-- A body goes on behind its front with a mark, if it goes on. -/
theorem source_eq_front (t : Template) :
    ∃ rest, BeginsMarked rest ∧ t.source = t.front ++ rest := by
  induction t with
  | nil => exact ⟨[], beginsMarked_nil, rfl⟩
  | cons piece t ih =>
    cases piece with
    | char c =>
      obtain ⟨rest, marked, hsource⟩ := ih
      exact ⟨rest, marked, by simp [pieceSource, front, hsource]⟩
    | slot name =>
      refine ⟨'?' :: name ++ ['?'] ++ source t, ?_, by simp [pieceSource, front]⟩
      simp [slotMarks]

/-- SQL text goes on behind the front of its template with a mark, if it goes on. -/
theorem renderFrom_eq_front (d : Dialect) (index : Nat) (t : Template) :
    ∃ rest, BeginsMarked rest ∧ renderFrom d index t = t.front ++ rest := by
  induction t with
  | nil => exact ⟨[], beginsMarked_nil, rfl⟩
  | cons piece t ih =>
    cases piece with
    | char c =>
      obtain ⟨rest, marked, hrender⟩ := ih
      exact ⟨rest, marked, by simp [renderFrom, front, hrender]⟩
    | slot name => exact ⟨_, placeholder_beginsMarked d index _, rfl⟩

/-- Whatever is read off the front of a text alone is read off SQL text as off the body that it is
written from. -/
theorem read_render {α : Type} {read : List Char → α}
    (ofFront : ∀ {front rest : List Char}, BeginsMarked rest → read (front ++ rest) = read front)
    (d : Dialect) (t : Template) : read (t.render d) = read t.source := by
  obtain ⟨behind, hbehind, hsource⟩ := t.source_eq_front
  obtain ⟨rest, hrest, hrender⟩ := t.renderFrom_eq_front d 0
  calc
    read (t.render d) = read t.front := by rw [render, hrender, ofFront hrest]
    _ = read t.source := by rw [hsource, ofFront hbehind]

/-- SQL text returns rows exactly if its body says so. -/
theorem returnsRows_render (d : Dialect) (body : List Char) :
    returnsRows ((ofBody body).render d) = returnsRows body := by
  rw [read_render returnsRows_append_marked, source_ofBody]

/-- SQL text begins with a capital letter exactly if its body does. -/
theorem beginsUppercase_render (d : Dialect) (body : List Char) :
    beginsUppercase ((ofBody body).render d) = beginsUppercase body := by
  rw [read_render beginsUppercase_append_marked, source_ofBody]

end Template

namespace Statement

/-- Two statements that agree in all but their SQL text. -/
structure Alike (a b : Statement) : Prop where
  index : a.index = b.index
  label : a.label = b.label
  params : a.params = b.params
  isQuery : a.isQuery = b.isQuery
  isExported : a.isExported = b.isExported
  script : a.script = b.script

/-- A statement that is classified as the body of a fragment, before its slots are filled. -/
structure Classifies (f : Fragment) (s : Statement) : Prop where
  isQuery : s.isQuery = returnsRows f.body
  isExported : s.isExported = beginsUppercase f.body

variable (script : String) (d d' : Dialect) (index : Nat) (f : Fragment)

/-- A compiled statement has the classification of its fragment. -/
theorem ofFragment_classifies : Classifies f (ofFragment script d index f) where
  isQuery := Template.returnsRows_render d f.body
  isExported := Template.beginsUppercase_render d f.body

/-- A fragment is compiled alike for two dialects. -/
theorem ofFragment_alike : (ofFragment script d index f).Alike (ofFragment script d' index f) where
  index := rfl
  label := rfl
  params := rfl
  isQuery := (ofFragment_classifies script d index f).isQuery.trans
    (ofFragment_classifies script d' index f).isQuery.symm
  isExported := (ofFragment_classifies script d index f).isExported.trans
    (ofFragment_classifies script d' index f).isExported.symm
  script := rfl

end Statement

section Scripts

variable (script : String)

/-- Fragments are compiled alike for two dialects. -/
theorem statementsFrom_alike (d d' : Dialect) (start : Nat) (fs : List Fragment) :
    List.Forall₂ Statement.Alike (statementsFrom script d start fs)
      (statementsFrom script d' start fs) := by
  induction fs generalizing start with
  | nil => exact .nil
  | cons f fs ih => exact .cons (Statement.ofFragment_alike script d d' start f) (ih (start + 1))

/-- Compiled statements have the classifications of their fragments. -/
theorem statementsFrom_classifies (d : Dialect) (start : Nat) (fs : List Fragment) :
    List.Forall₂ Statement.Classifies fs (statementsFrom script d start fs) := by
  induction fs generalizing start with
  | nil => exact .nil
  | cons f fs ih => exact .cons (Statement.ofFragment_classifies script d start f) (ih (start + 1))

/-- In any two dialects a script has the same error, that of its text, or as many statements that
agree one by one in all but their SQL text and are classified as the bodies that they are written
from; and every body is classified in every dialect as the SQL text that it gives. -/
theorem compile_independent_of_dialect (text : List Char) (d d' : Dialect) :
    ((∃ e, fragments? text = .error e ∧ compile script text d = .error e ∧
        compile script text d' = .error e) ∨
      ∃ parts statements statements', fragments? text = .ok parts ∧
        compile script text d = .ok statements ∧ compile script text d' = .ok statements' ∧
        List.Forall₂ Statement.Alike statements statements' ∧
        List.Forall₂ Statement.Classifies (bodies parts) statements ∧
        List.Forall₂ Statement.Classifies (bodies parts) statements') ∧
    ∀ body dialect,
      returnsRows ((Template.ofBody body).render dialect) = returnsRows body ∧
        beginsUppercase ((Template.ofBody body).render dialect) = beginsUppercase body := by
  constructor
  · cases hparts : fragments? text with
    | error e => exact .inl ⟨e, rfl, by simp [compile, hparts], by simp [compile, hparts]⟩
    | ok parts =>
      exact .inr ⟨parts, _, _, rfl, compile_eq_ok hparts script d, compile_eq_ok hparts script d',
        statementsFrom_alike script d d' 0 _, statementsFrom_classifies script d 0 _,
        statementsFrom_classifies script d' 0 _⟩
  · intro body dialect
    exact ⟨Template.returnsRows_render dialect body, Template.beginsUppercase_render dialect body⟩

end Scripts
end SqlRelay
