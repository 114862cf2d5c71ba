import Mathlib.Data.List.TakeWhile
import SqlRelay.Text.Blank
/-!
# Blanks at the ends of a text

A text is its trimmed form between blanks, and blanks that are put at its end are trimmed away.

Main results:

- Theorem `trim_split`: a text is its trimmed form between blanks.
- Theorems `trim_append_blanks` and `trim_blanks_append`: blanks at the ends do not count.
- Theorem `trim_eq_self_iff`: the texts that are not trimmed have no blank at either end.
- Theorem `not_mem_of_mem_cut`: no separator stands in a part.
-/

namespace SqlRelay.Text

/-- A text of blanks only. -/
def AllBlank (cs : List Char) : Prop :=
  ∀ c ∈ cs, isBlank c = true

@[simp]
theorem allBlank_nil : AllBlank [] := by
  simp [AllBlank]

@[simp]
theorem allBlank_cons (c : Char) (cs : List Char) :
    AllBlank (c :: cs) ↔ isBlank c = true ∧ AllBlank cs := by
  simp [AllBlank]

/-- Trimming takes blanks off the front. -/
theorem trimStart_split (cs : List Char) : ∃ ws, AllBlank ws ∧ cs = ws ++ trimStart cs := by
  refine ⟨cs.takeWhile isBlank, ?_, (List.takeWhile_append_dropWhile).symm⟩
  intro c hc
  exact List.mem_takeWhile_imp hc

/-- Trimming takes blanks off the end. -/
theorem trimEnd_split (cs : List Char) : ∃ ws, AllBlank ws ∧ cs = trimEnd cs ++ ws := by
  obtain ⟨ws, hblank, hsplit⟩ := trimStart_split cs.reverse
  refine ⟨ws.reverse, ?_, ?_⟩
  · intro c hc
    exact hblank c (List.mem_reverse.1 hc)
  · have := congrArg List.reverse hsplit
    rwa [List.reverse_reverse, List.reverse_append] at this

/-- A text is its trimmed form between blanks. -/
theorem trim_split (cs : List Char) :
    ∃ before after, AllBlank before ∧ AllBlank after ∧ cs = before ++ trim cs ++ after := by
  obtain ⟨before, hbefore, hstart⟩ := trimStart_split cs
  obtain ⟨after, hafter, hend⟩ := trimEnd_split (trimStart cs)
  refine ⟨before, after, hbefore, hafter, ?_⟩
  rw [List.append_assoc]
  exact hstart.trans (congrArg (before ++ ·) hend)

/-- A text that is trimmed in front does not begin with a blank. -/
theorem isBlank_of_trimStart_eq_cons {cs rest : List Char} {c : Char}
    (h : trimStart cs = c :: rest) : isBlank c = false := by
  have hne : cs.dropWhile isBlank ≠ [] := by
    rw [← trimStart, h]
    simp
  have hhead := List.head_dropWhile_not isBlank hne
  have hc : (cs.dropWhile isBlank).head hne = c := by
    simp [show cs.dropWhile isBlank = c :: rest from h]
  rwa [hc] at hhead

/-- A text that is trimmed at the end does not end with a blank. -/
theorem isBlank_of_trimEnd_eq_append {cs init : List Char} {c : Char}
    (h : trimEnd cs = init ++ [c]) : isBlank c = false := by
  have hreverse : trimStart cs.reverse = c :: init.reverse := by
    have := congrArg List.reverse h
    rwa [trimEnd, List.reverse_reverse, List.reverse_append] at this
  exact isBlank_of_trimStart_eq_cons hreverse

/-- Blanks at the end make no difference. -/
theorem trimEnd_append_blanks (cs : List Char) {ws : List Char} (h : AllBlank ws) :
    trimEnd (cs ++ ws) = trimEnd cs := by
  unfold trimEnd
  rw [List.reverse_append, List.dropWhile_append_of_pos]
  intro c hc
  exact h c (List.mem_reverse.1 hc)

/-- Blanks at the end do not count. -/
theorem trim_append_blanks (cs : List Char) {ws : List Char} (h : AllBlank ws) :
    trim (cs ++ ws) = trim cs := by
  have hdrop : ws.dropWhile isBlank = [] := by
    rw [List.dropWhile_eq_nil_iff]
    exact h
  rw [trim, trim, trimStart, trimStart, List.dropWhile_append, hdrop]
  split
  · rename_i hempty
    rw [List.isEmpty_iff.1 hempty]
  · exact trimEnd_append_blanks _ h

/-- Trimming leaves nothing of a text exactly if it is blank. -/
theorem trim_eq_nil_iff (cs : List Char) : trim cs = [] ↔ AllBlank cs := by
  constructor
  · intro htrim
    obtain ⟨before, after, hbefore, hafter, hsplit⟩ := trim_split cs
    rw [hsplit, htrim, List.append_nil]
    intro c hc
    exact (List.mem_append.1 hc).elim (hbefore c) (hafter c)
  · intro hblank
    exact trim_append_blanks [] hblank

/-- Blanks in front do not count. -/
theorem trim_blanks_append {ws : List Char} (h : AllBlank ws) (cs : List Char) :
    trim (ws ++ cs) = trim cs := by
  rw [trim, trim, trimStart, trimStart, List.dropWhile_append_of_pos h]

/-- A text keeps a character that is no blank in front when its end is trimmed. -/
theorem trimEnd_cons_of_not_blank {c : Char} (h : isBlank c = false) (cs : List Char) :
    ∃ rest, trimEnd (c :: cs) = c :: rest ∧ rest <+: cs := by
  obtain ⟨ws, hblank, hsplit⟩ := trimEnd_split (c :: cs)
  cases htrim : trimEnd (c :: cs) with
  | nil =>
    rw [htrim, List.nil_append] at hsplit
    have hc := hblank c (by simp [← hsplit])
    exact absurd hc (by simp [h])
  | cons d rest =>
    rw [htrim, List.cons_append] at hsplit
    obtain ⟨rfl, hrest⟩ := List.cons.inj hsplit
    exact ⟨rest, rfl, ws, hrest.symm⟩

/-- Behind a character that is no blank nothing is trimmed in front. -/
theorem trimStart_append_of_exists {a : List Char} (h : ∃ c ∈ a, isBlank c = false)
    (b : List Char) : trimStart (a ++ b) = trimStart a ++ b := by
  obtain ⟨c, hc, hblank⟩ := h
  have hne : a.dropWhile isBlank ≠ [] := by
    intro hempty
    rw [List.dropWhile_eq_nil_iff] at hempty
    exact absurd (hempty c hc) (by simp [hblank])
  rw [trimStart, trimStart, List.dropWhile_append, if_neg (by simpa using hne)]

/-- A text that begins and ends without a blank is not trimmed. -/
theorem trim_eq_self {first last : Char} {rest init : List Char} {cs : List Char}
    (begins : cs = first :: rest) (ends : cs = init ++ [last])
    (hfirst : isBlank first = false) (hlast : isBlank last = false) : trim cs = cs := by
  have hstart : trimStart cs = cs := by
    rw [begins, trimStart, List.dropWhile_cons_of_neg (by simp [hfirst])]
  rw [trim, hstart, ends, trimEnd, List.reverse_append, List.reverse_singleton,
    List.singleton_append, List.dropWhile_cons_of_neg (by simp [hlast])]
  simp

theorem length_trim_le (cs : List Char) : (trim cs).length ≤ cs.length := by
  obtain ⟨before, after, -, -, hsplit⟩ := trim_split cs
  have hlength := congrArg List.length hsplit
  simp only [List.length_append] at hlength
  omega

/-- The texts that are not trimmed are those without a blank at either end. -/
theorem trim_eq_self_iff (cs : List Char) :
    trim cs = cs ↔
      (∀ c ∈ cs.head?, isBlank c = false) ∧ ∀ c ∈ cs.getLast?, isBlank c = false := by
  constructor
  · intro htrim
    -- a blank at one of the ends makes the trimmed text shorter
    constructor
    · intro c hc
      obtain ⟨rest, rfl⟩ := List.head?_eq_some_iff.1 hc
      rw [← Bool.not_eq_true]
      intro hblank
      have hblanks : AllBlank [c] := by simpa using hblank
      have hshort := length_trim_le rest
      rw [← trim_blanks_append hblanks, List.singleton_append, htrim] at hshort
      exact absurd hshort (by simp)
    · intro c hc
      obtain ⟨init, rfl⟩ := List.getLast?_eq_some_iff.1 hc
      rw [← Bool.not_eq_true]
      intro hblank
      have hblanks : AllBlank [c] := by simpa using hblank
      have hshort := length_trim_le init
      rw [← trim_append_blanks init hblanks, htrim] at hshort
      exact absurd hshort (by simp)
  · rintro ⟨hfirst, hlast⟩
    cases hends : cs.getLast? with
    | none =>
      rw [List.getLast?_eq_none_iff.1 hends]
      rfl
    | some last =>
      obtain ⟨init, ends⟩ := List.getLast?_eq_some_iff.1 hends
      cases hbegins : cs.head? with
      | none =>
        rw [List.head?_eq_none_iff.1 hbegins]
        rfl
      | some first =>
        obtain ⟨rest, begins⟩ := List.head?_eq_some_iff.1 hbegins
        exact trim_eq_self begins ends (hfirst first hbegins) (hlast last hends)

/-! ## Parts -/

/-- A text is cut at each of its separators. -/
theorem cut_append_sep (sep : Char) (a b : List Char) :
    cut (· == sep) (a ++ sep :: b) = cut (· == sep) a ++ cut (· == sep) b := by
  induction a with
  | nil => simp [cut_cons]
  | cons c a ih =>
    rw [List.cons_append, cut_cons, cut_cons, ih]
    split
    · rfl
    · cases hparts : cut (· == sep) a with
      | nil => exact absurd hparts (cut_ne_nil _ a)
      | cons first parts => rfl

/-- No separator stands in a part. -/
theorem not_mem_of_mem_cut {sep : Char} {cs part : List Char}
    (h : part ∈ cut (· == sep) cs) : sep ∉ part := by
  induction cs generalizing part with
  | nil =>
    rw [cut_nil, List.mem_singleton] at h
    simp [h]
  | cons c cs ih =>
    rw [cut_cons] at h
    split at h
    · rcases List.mem_cons.1 h with rfl | h
      · simp
      · exact ih h
    · rename_i hc
      have hne : c ≠ sep := by simpa using hc
      cases hparts : cut (· == sep) cs with
      | nil => exact absurd hparts (cut_ne_nil _ cs)
      | cons first parts =>
        rw [hparts] at h ih
        rcases List.mem_cons.1 h with rfl | h
        · simpa [hne.symm] using ih (by simp)
        · exact ih (by simp [h])

end SqlRelay.Text
