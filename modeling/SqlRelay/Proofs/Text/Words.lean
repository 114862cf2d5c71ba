import SqlRelay.Proofs.Text.Trim
/-!
# Words between blanks

A text with some words in it, blanks between any two of them and perhaps at its ends, is cut into
these words again, whichever blanks they are and however many.

Main results:

- Definition `Spaced`: a text has some words with blanks between them.
- Theorem `fieldsOf_of_spaced`: such a text is cut into its words.
- Theorem `fieldsOf_eq_iff`: no other text is cut into them.
-/

namespace SqlRelay.Text

/-- A text that is not empty and has no blank. -/
def IsWord (word : String) : Prop :=
  word ≠ "" ∧ ∀ c ∈ word.toList, isBlank c = false

/-- A text has some words with blanks between them, and perhaps in front and behind. -/
inductive Spaced : List String → List Char → Prop
  | blanks {blanks : List Char} (blank : AllBlank blanks) : Spaced [] blanks
  | word {blanks cs : List Char} {words : List String} {word : String} (front : AllBlank blanks)
      (gap : ∀ c ∈ cs.head?, isBlank c = true) (behind : Spaced words cs) :
      Spaced (word :: words) (blanks ++ (word.toList ++ cs))

theorem words_blank_cons {c : Char} (h : isBlank c = true) (cs : List Char) :
    words (c :: cs) = words cs := by
  simp [words, cut_cons, h]

/-- Blanks in front do not count. -/
theorem words_blanks_append {blanks : List Char} (h : AllBlank blanks) (cs : List Char) :
    words (blanks ++ cs) = words cs := by
  induction blanks with
  | nil => rfl
  | cons c blanks ih =>
    rw [allBlank_cons] at h
    rw [List.cons_append, words_blank_cons h.1, ih h.2]

/-- A word in front goes on with the first part. -/
theorem cut_isBlank_append {word : List Char} (h : ∀ c ∈ word, isBlank c = false)
    (cs : List Char) :
    ∃ first rest, cut isBlank cs = first :: rest ∧
      cut isBlank (word ++ cs) = (word ++ first) :: rest := by
  induction word with
  | nil =>
    obtain ⟨first, rest, hcut⟩ := List.exists_cons_of_ne_nil (cut_ne_nil isBlank cs)
    exact ⟨first, rest, hcut, hcut⟩
  | cons c word ih =>
    rw [List.forall_mem_cons] at h
    obtain ⟨first, rest, hcut, hword⟩ := ih h.2
    refine ⟨first, rest, hcut, ?_⟩
    rw [List.cons_append, cut_cons, h.1, hword]
    rfl

/-- A word before a blank, or at the end, is cut off. -/
theorem words_append {word cs : List Char} (nonempty : word ≠ [])
    (unblank : ∀ c ∈ word, isBlank c = false) (gap : ∀ c ∈ cs.head?, isBlank c = true) :
    words (word ++ cs) = word :: words cs := by
  obtain ⟨first, rest, hcut, hword⟩ := cut_isBlank_append unblank cs
  -- nothing stands before the blank
  have hfirst : first = [] := by
    cases cs with
    | nil => simpa using (List.cons.inj hcut).1.symm
    | cons c cs =>
      have hblank : isBlank c = true := gap c rfl
      rw [cut_cons, hblank] at hcut
      exact (List.cons.inj hcut).1.symm
  subst hfirst
  simp [words, hcut, hword, nonempty]

/-! ## Cutting spaced words -/

/-- A text with blanks between its words is cut into them. -/
theorem words_of_spaced {ws : List String} {cs : List Char} (spaced : Spaced ws cs)
    (h : ∀ word ∈ ws, IsWord word) : words cs = ws.map String.toList := by
  induction spaced with
  | @blanks blanks blank =>
    have hblanks := words_blanks_append blank []
    rw [List.append_nil] at hblanks
    rw [hblanks]
    rfl
  | @word _ _ _ word front gap _ ih =>
    rw [List.forall_mem_cons] at h
    have hnonempty : word.toList ≠ [] := by simpa using h.1.1
    rw [words_blanks_append front, words_append hnonempty h.1.2 gap, ih h.2, List.map_cons]

/-- Spaced words are read back. -/
theorem fieldsOf_of_spaced {ws : List String} {s : String} (spaced : Spaced ws s.toList)
    (h : ∀ word ∈ ws, IsWord word) : fieldsOf s = ws := by
  rw [fieldsOf, words_of_spaced spaced h, List.map_map]
  simp [Function.comp_def]

/-- A blank in front of spaced words is one more of the blanks before them. -/
theorem Spaced.blank_cons {ws : List String} {cs : List Char} {c : Char} (hc : isBlank c = true)
    (spaced : Spaced ws cs) : Spaced ws (c :: cs) := by
  cases spaced with
  | blanks blank => exact .blanks ((allBlank_cons c _).2 ⟨hc, blank⟩)
  | word front gap behind =>
    rw [← List.cons_append]
    exact .word ((allBlank_cons c _).2 ⟨hc, front⟩) gap behind

/-- Every text has some words with blanks between them. -/
theorem exists_spaced (cs : List Char) :
    ∃ ws, Spaced ws cs ∧ ∀ word ∈ ws, IsWord word := by
  induction hlength : cs.length using Nat.strong_induction_on generalizing cs with
  | h n ih =>
    cases cs with
    | nil => exact ⟨[], .blanks allBlank_nil, by simp⟩
    | cons c cs =>
      have hshorter : cs.length < n := by simp [← hlength]
      by_cases hc : isBlank c = true
      · obtain ⟨ws, spaced, hws⟩ := ih _ hshorter cs rfl
        exact ⟨ws, spaced.blank_cons hc, hws⟩
      · -- the word goes on to the next blank
        have hsplit := List.takeWhile_append_dropWhile (p := fun c => !isBlank c) (l := cs)
        have hword : ∀ d ∈ cs.takeWhile (fun c => !isBlank c), isBlank d = false := by
          intro d hd
          simpa using List.mem_takeWhile_imp hd
        have hgap : ∀ d ∈ (cs.dropWhile (fun c => !isBlank c)).head?, isBlank d = true := by
          intro d hd
          have hhead := List.head?_dropWhile_not (fun c => !isBlank c) cs
          rw [Option.mem_def.1 hd] at hhead
          simpa using hhead
        have hrest : (cs.dropWhile (fun c => !isBlank c)).length < n :=
          Nat.lt_of_le_of_lt (List.dropWhile_suffix _).length_le hshorter
        obtain ⟨ws, spaced, hws⟩ := ih _ hrest _ rfl
        refine ⟨String.ofList (c :: cs.takeWhile (fun c => !isBlank c)) :: ws, ?_, ?_⟩
        · have hcons : Spaced (String.ofList (c :: cs.takeWhile (fun c => !isBlank c)) :: ws) _ :=
            .word allBlank_nil hgap spaced
          rw [String.toList_ofList, List.nil_append, List.cons_append, hsplit] at hcons
          exact hcons
        · rw [List.forall_mem_cons]
          refine ⟨⟨by simp, ?_⟩, hws⟩
          rw [String.toList_ofList, List.forall_mem_cons]
          exact ⟨by simpa using hc, hword⟩

/-- A text is cut into some words exactly if it has these words with blanks between them. -/
theorem fieldsOf_eq_iff {ws : List String} {s : String} :
    fieldsOf s = ws ↔ Spaced ws s.toList ∧ ∀ word ∈ ws, IsWord word := by
  constructor
  · intro hfields
    obtain ⟨found, spaced, hfound⟩ := exists_spaced s.toList
    obtain rfl : found = ws := (fieldsOf_of_spaced spaced hfound).symm.trans hfields
    exact ⟨spaced, hfound⟩
  · rintro ⟨spaced, h⟩
    exact fieldsOf_of_spaced spaced h

end SqlRelay.Text
