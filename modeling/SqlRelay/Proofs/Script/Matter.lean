import Mathlib.Tactic.SplitIfs
import SqlRelay.Proofs.Script.Reading
import SqlRelay.Proofs.Text.Trim
/-!
# The matter of SQL text

The matter of a text is what is left without its comments and the blanks outside literals: the
characters of literals, with their quotes, and the other characters of code.  A dash or a slash
counts once it is known to begin no comment.

Main results:

- Definition `matter` reads a text with the scanner; `KeepsSql` says that nothing of it is lost.
- Theorem `Region.read_blanks`: blanks at the end of a text that is scanned to its end have no
  matter.
- Theorems `keepsSql_trim_left_iff` and `keepsSql_trim_right_iff`: blanks around a fragment and
  around a body do not count.
-/

namespace SqlRelay

/-- A character of a literal, or one of code. -/
inductive Matter where
  | quoted (c : Char)
  | code (c : Char)
  deriving DecidableEq, Repr

namespace Region

/-- What a character of code is known to be at once. -/
def enterMatter (c : Char) : List Matter :=
  if isQuote c then [.quoted c]
  else if c = '-' ∨ c = '/' ∨ Text.isBlank c = true then []
  else [.code c]

/-- What is known of a text with one more character. -/
def matterOf (r : Region) (c : Char) : List Matter :=
  match r with
  | .code => enterMatter c
  | .dash => if c = '-' then [] else .code '-' :: enterMatter c
  | .slash => if c = '*' then [] else .code '/' :: enterMatter c
  | .literal _ => [.quoted c]
  | .lineComment | .blockComment | .star => []

/-- What is known once the text is at its end. -/
def pending : Region → List Matter
  | .dash => [.code '-']
  | .slash => [.code '/']
  | _ => []

/-- What is known of a text that starts in a region. -/
def read (r : Region) (cs : List Char) : List Matter :=
  notes step matterOf r cs

@[simp]
theorem read_nil (r : Region) : r.read [] = [] := rfl

theorem read_cons (r : Region) (c : Char) (cs : List Char) :
    r.read (c :: cs) = r.matterOf c ++ (r.step c).read cs := rfl

theorem read_append (r : Region) (a b : List Char) :
    r.read (a ++ b) = r.read a ++ (r.after a).read b :=
  notes_append step matterOf r a b

end Region

/-- The matter of a text. -/
def matter (cs : List Char) : List Matter :=
  Region.code.read cs ++ (Region.code.after cs).pending

/-- A body that has the matter of a fragment and is scanned to its end. -/
def KeepsSql (fragment body : List Char) : Prop :=
  matter body = matter fragment ∧ (Region.code.after body).isComplete = true

instance (fragment body : List Char) : Decidable (KeepsSql fragment body) :=
  inferInstanceAs (Decidable (_ ∧ _))

/-- A literal is opened by a quote. -/
def Region.Proper : Region → Prop
  | .literal quote => isQuote quote = true
  | _ => True

/-- Every region that a character of code leads to is proper. -/
theorem Region.proper_enter (c : Char) : (enter c).Proper := by
  unfold enter
  split_ifs with hquote
  · exact hquote
  all_goals trivial

/-- A proper region leads to proper ones. -/
theorem Region.Proper.step {r : Region} (h : r.Proper) (c : Char) : (r.step c).Proper := by
  cases r with
  | literal quote =>
    simp only [Region.step]
    split_ifs
    · trivial
    · exact h
  | code => exact proper_enter c
  | dash | slash =>
    simp only [Region.step]
    split_ifs
    · trivial
    · exact proper_enter c
  | lineComment | blockComment | star =>
    simp only [Region.step]
    split_ifs <;> trivial

/-- The scanner reaches literals through their quotes. -/
theorem Region.Proper.after {r : Region} (h : r.Proper) (cs : List Char) : (r.after cs).Proper := by
  induction cs generalizing r with
  | nil => exact h
  | cons c cs ih => exact ih (h.step c)

/-! ## Blanks -/

/-- A blank opens and closes nothing but a line comment. -/
theorem ne_of_isBlank {c : Char} (h : Text.isBlank c = true) :
    isQuote c = false ∧ c ≠ '-' ∧ c ≠ '/' ∧ c ≠ '*' := by
  refine ⟨?_, ?_, ?_, ?_⟩
  · cases hquote : isQuote c with
    | false => rfl
    | true =>
      simp only [isQuote, Bool.or_eq_true, beq_iff_eq] at hquote
      rcases hquote with (rfl | rfl) | rfl <;> exact absurd h (by decide)
  all_goals
    rintro rfl
    exact absurd h (by decide)

/-- A blank has no matter in code. -/
@[simp]
theorem Region.enterMatter_blank {c : Char} (h : Text.isBlank c = true) : enterMatter c = [] := by
  simp [enterMatter, h, ne_of_isBlank h]

/-- A character that is no quote does not close a literal. -/
theorem Region.step_literal {quote c : Char} (hquote : isQuote quote = true)
    (hc : isQuote c = false) : (Region.literal quote).step c = .literal quote := by
  have hne : c ≠ quote := by
    rintro rfl
    exact absurd hquote (by simp [hc])
  simp [step, hne]

/-- A blank leads from code to code. -/
theorem Region.step_blank_of_isCode {r : Region} (hr : r.isCode = true) {c : Char}
    (h : Text.isBlank c = true) : r.step c = .code := by
  cases r <;> simp_all [isCode, step, enter, ne_of_isBlank h]

/-- A blank settles what was pending. -/
theorem Region.matterOf_blank_of_isCode {r : Region} (hr : r.isCode = true) {c : Char}
    (h : Text.isBlank c = true) : r.matterOf c = r.pending := by
  cases r <;> simp_all [isCode, matterOf, pending, ne_of_isBlank h]

/-- Blanks do not change whether a text may end. -/
theorem Region.isComplete_step_blank {r : Region} (hr : r.Proper) {c : Char}
    (h : Text.isBlank c = true) : (r.step c).isComplete = r.isComplete := by
  obtain ⟨hquote, -, hslash, hstar⟩ := ne_of_isBlank h
  cases r with
  | code | dash | slash => rw [step_blank_of_isCode rfl h] <;> rfl
  | literal quote => rw [step_literal hr hquote]
  | lineComment =>
    simp only [step]
    split_ifs <;> rfl
  | blockComment | star => simp [step, hslash, hstar, isComplete]

/-- Blanks do not change whether a text may end. -/
theorem Region.isComplete_after_blanks {r : Region} (hr : r.Proper) {ws : List Char}
    (h : Text.AllBlank ws) : (r.after ws).isComplete = r.isComplete := by
  induction ws generalizing r with
  | nil => rfl
  | cons c ws ih =>
    rw [Text.allBlank_cons] at h
    rw [after_cons, ih (hr.step c) h.2, isComplete_step_blank hr h.1]

/-- Blanks at the end of a text that may end have no matter. -/
theorem Region.read_blanks {r : Region} (hr : r.isComplete = true) {ws : List Char}
    (h : Text.AllBlank ws) : r.read ws ++ (r.after ws).pending = r.pending := by
  induction ws generalizing r with
  | nil => rfl
  | cons c ws ih =>
    rw [Text.allBlank_cons] at h
    rw [read_cons, after_cons, List.append_assoc]
    by_cases hcode : r.isCode = true
    · rw [step_blank_of_isCode hcode h.1, ih rfl h.2, matterOf_blank_of_isCode hcode h.1]
      exact List.append_nil _
    · have hcomment : r = .lineComment := by
        cases r <;> simp_all [isComplete, isCode]
      subst hcomment
      have hnext : (Region.lineComment.step c).isComplete = true ∧
          (Region.lineComment.step c).pending = [] := by
        simp only [step]
        split_ifs <;> exact ⟨rfl, rfl⟩
      rw [ih hnext.1 h.2, hnext.2]
      rfl

/-- Blanks of code lead nowhere and have no matter. -/
theorem Region.code_blanks {ws : List Char} (h : Text.AllBlank ws) :
    Region.code.after ws = .code ∧ Region.code.read ws = [] := by
  induction ws with
  | nil => exact ⟨rfl, rfl⟩
  | cons c ws ih =>
    rw [Text.allBlank_cons] at h
    rw [after_cons, read_cons, step_blank_of_isCode rfl h.1, matterOf_blank_of_isCode rfl h.1]
    exact ih h.2

/-- Blanks around a text do not change whether it is scanned to its end. -/
theorem isComplete_between_blanks {before after : List Char} (hbefore : Text.AllBlank before)
    (hafter : Text.AllBlank after) (cs : List Char) :
    (Region.code.after (before ++ cs ++ after)).isComplete =
      (Region.code.after cs).isComplete := by
  rw [Region.after_append, Region.after_append, (Region.code_blanks hbefore).1]
  exact Region.isComplete_after_blanks (Region.Proper.after (r := .code) trivial cs) hafter

/-- Blanks around a text that is scanned to its end have no matter. -/
theorem matter_between_blanks {before cs after : List Char} (hbefore : Text.AllBlank before)
    (hafter : Text.AllBlank after) (h : (Region.code.after cs).isComplete = true) :
    matter (before ++ cs ++ after) = matter cs := by
  obtain ⟨hstart, hnothing⟩ := Region.code_blanks hbefore
  unfold matter
  rw [List.append_assoc, Region.read_append, Region.after_append, hstart, hnothing,
    List.nil_append, Region.read_append, Region.after_append, List.append_assoc,
    Region.read_blanks h hafter]

/-- Whether a text is scanned to its end does not depend on the blanks around it. -/
theorem isComplete_trim (cs : List Char) :
    (Region.code.after (Text.trim cs)).isComplete = (Region.code.after cs).isComplete := by
  obtain ⟨before, after, hbefore, hafter, hsplit⟩ := Text.trim_split cs
  have hblanks := isComplete_between_blanks hbefore hafter (Text.trim cs)
  rw [← hblanks, ← hsplit]

/-- The matter of a text that is scanned to its end does not depend on the blanks around it. -/
theorem matter_trim {cs : List Char} (h : (Region.code.after cs).isComplete = true) :
    matter (Text.trim cs) = matter cs := by
  obtain ⟨before, after, hbefore, hafter, hsplit⟩ := Text.trim_split cs
  rw [← isComplete_trim] at h
  have hblanks := matter_between_blanks hbefore hafter h
  rw [← hblanks, ← hsplit]

/-- Blanks around a fragment do not count. -/
theorem keepsSql_trim_left_iff {fragment : List Char}
    (h : (Region.code.after fragment).isComplete = true) (body : List Char) :
    KeepsSql (Text.trim fragment) body ↔ KeepsSql fragment body := by
  rw [KeepsSql, KeepsSql, matter_trim h]

/-- Blanks around a body do not count. -/
theorem keepsSql_trim_right_iff (fragment body : List Char) :
    KeepsSql fragment (Text.trim body) ↔ KeepsSql fragment body := by
  rw [KeepsSql, KeepsSql, isComplete_trim, and_congr_left_iff]
  intro h
  rw [matter_trim h]

end SqlRelay
