import SqlRelay.Script.Fragment
/-!
# Readings of SQL text

A reading goes over a text with the scanner and notes something at each character.  Two readings
are used: the skeleton of a text, which forgets what its quoted literals hold, and the matter of a
text, which forgets its comments and the blanks outside literals.

Main results:

- Definition `notes` and Theorem `notes_append`: a reading goes over a text piece by piece.
- Theorem `forall_split_cons`: what holds at each place of a list holds at its head and at each
  place of its tail.
- Theorem `fragments?_eq_ok_iff`: a text can be cut exactly if it is scanned to its end.
- Theorem `isComplete_of_mem_fragments`: so can each of its fragments.
-/

namespace SqlRelay

section Notes

variable {σ α : Type} (step : σ → Char → σ) (note : σ → Char → List α)

/-- What a reading notes, one character after the other. -/
def notes : σ → List Char → List α
  | _, [] => []
  | s, c :: cs => note s c ++ notes (step s c) cs

@[simp]
theorem notes_nil (s : σ) : notes step note s [] = [] := rfl

theorem notes_cons (s : σ) (c : Char) (cs : List Char) :
    notes step note s (c :: cs) = note s c ++ notes step note (step s c) cs := rfl

/-- A reading goes over a text piece by piece. -/
theorem notes_append (s : σ) (a b : List Char) :
    notes step note s (a ++ b) = notes step note s a ++ notes step note (a.foldl step s) b := by
  induction a generalizing s with
  | nil => rfl
  | cons c cs ih => simp [notes_cons, ih]

end Notes

/-- What holds at each place of a list holds at its head and at each place of its tail. -/
theorem forall_split_cons {α : Type} {P : List α → α → List α → Prop} {x : α} {xs : List α} :
    (∀ before y after, x :: xs = before ++ y :: after → P before y after) ↔
      P [] x xs ∧ ∀ before y after, xs = before ++ y :: after → P (x :: before) y after := by
  constructor
  · intro h
    exact ⟨h [] x xs rfl, fun before y after hxs => h (x :: before) y after (by simp [hxs])⟩
  · rintro ⟨hhead, htail⟩ before y after hxs
    cases before with
    | nil =>
      obtain ⟨rfl, rfl⟩ := List.cons.inj hxs
      exact hhead
    | cons z before =>
      obtain ⟨rfl, hrest⟩ := List.cons.inj hxs
      exact htail before y after hrest

/-! ## Texts that are scanned to their end -/

/-- Whether a place lies in a comment. -/
def Region.isComment : Region → Bool
  | .lineComment | .blockComment | .star => true
  | _ => false

/-- A text that can be cut at its semicolons. -/
def Accepted (cs : List Char) : Prop :=
  ∃ parts, fragments? cs = .ok parts

/-- A scan has no error if it ends in a complete region. -/
theorem Scan.error?_eq_none_iff (s : Scan) : s.error? = none ↔ s.region.isComplete = true := by
  unfold Scan.error? Region.isComplete
  cases s.region <;> simp

/-- A text can be cut exactly if the scan does not end in a literal or block comment. -/
theorem fragments?_eq_ok_iff (cs : List Char) (parts : List (List Char)) :
    fragments? cs = .ok parts ↔
      (Region.code.after cs).isComplete = true ∧ parts = fragmentsFrom .code cs := by
  have hscan := (Scan.of cs).error?_eq_none_iff
  rw [Scan.of_region] at hscan
  unfold fragments?
  cases herror : (Scan.of cs).error? with
  | none => simp [hscan.1 herror, eq_comm]
  | some e =>
    have hnot : ¬ (Region.code.after cs).isComplete = true := by
      rw [← hscan, herror]
      simp
    simp [hnot]

/-- A text is accepted if it is scanned to its end. -/
theorem accepted_iff (cs : List Char) :
    Accepted cs ↔ (Region.code.after cs).isComplete = true := by
  simp [Accepted, fragments?_eq_ok_iff]

/-- A text may end in code. -/
theorem Region.isComplete_of_isCode {r : Region} (h : r.isCode = true) : r.isComplete = true := by
  cases r <;> simp_all [isCode, isComplete]

/-- A semicolon of code leaves the scan in code. -/
theorem Region.step_semicolon {r : Region} (h : r.isCode = true) : r.step ';' = .code := by
  cases r <;> simp_all [isCode, step, enter, isQuote]

/-- One more character in front is a semicolon that cuts, or it goes on with the first part. -/
theorem fragmentsFrom_cons (r : Region) (c : Char) (cs : List Char) :
    (r.isCode = true ∧ c = ';' ∧ fragmentsFrom r (c :: cs) = [] :: fragmentsFrom .code cs) ∨
      (r.isCode = true → c ≠ ';') ∧ ∃ first rest, fragmentsFrom (r.step c) cs = first :: rest ∧
        fragmentsFrom r (c :: cs) = (c :: first) :: rest := by
  by_cases hcut : r.isCode = true ∧ c = ';'
  · obtain ⟨hcode, rfl⟩ := hcut
    left
    exact ⟨hcode, rfl, by simp [fragmentsFrom, hcode]⟩
  · right
    have hparts : fragmentsFrom r (c :: cs) =
        Text.extendFirst c (fragmentsFrom (r.step c) cs) := by
      simpa [fragmentsFrom] using fun hcode hc => absurd ⟨hcode, hc⟩ hcut
    obtain ⟨first, rest, htail⟩ :=
      List.exists_cons_of_ne_nil (fragmentsFrom_ne_nil (r.step c) cs)
    refine ⟨fun hcode hc => hcut ⟨hcode, hc⟩, first, rest, htail, ?_⟩
    rw [hparts, htail]
    rfl

/-- The fragments of a text that is scanned to its end are so too, the first of them from where
the text starts. -/
theorem fragmentsFrom_complete (r : Region) (cs : List Char)
    (h : (r.after cs).isComplete = true) :
    ∃ first rest, fragmentsFrom r cs = first :: rest ∧ (r.after first).isComplete = true ∧
      ∀ part ∈ rest, (Region.code.after part).isComplete = true := by
  induction cs generalizing r with
  | nil => exact ⟨[], [], rfl, h, by simp⟩
  | cons c cs ih =>
    rw [Region.after_cons] at h
    rcases fragmentsFrom_cons r c cs with ⟨hcode, rfl, hcut⟩ | ⟨-, part, parts, htail, hparts⟩
    · rw [Region.step_semicolon hcode] at h
      obtain ⟨first, rest, hfragments, hfirst, hrest⟩ := ih .code h
      refine ⟨[], _, hcut, Region.isComplete_of_isCode hcode, ?_⟩
      rw [hfragments]
      intro part hpart
      rcases List.mem_cons.1 hpart with rfl | hpart
      · exact hfirst
      · exact hrest part hpart
    · obtain ⟨first, rest, hfragments, hfirst, hrest⟩ := ih (r.step c) h
      obtain ⟨rfl, rfl⟩ := List.cons.inj (htail.symm.trans hfragments)
      exact ⟨c :: part, parts, hparts, hfirst, hrest⟩

/-- Every fragment of a text that can be cut is scanned to its end. -/
theorem isComplete_of_mem_fragments {cs : List Char} {parts : List (List Char)}
    (h : fragments? cs = .ok parts) {part : List Char} (hpart : part ∈ parts) :
    (Region.code.after part).isComplete = true := by
  obtain ⟨hcomplete, rfl⟩ := (fragments?_eq_ok_iff cs parts).1 h
  obtain ⟨first, rest, hparts, hfirst, hrest⟩ := fragmentsFrom_complete .code cs hcomplete
  rw [hparts] at hpart
  rcases List.mem_cons.1 hpart with rfl | hpart
  · exact hfirst
  · exact hrest part hpart

end SqlRelay
