import SqlRelay.Proofs.Script.Splicing
import SqlRelay.Proofs.Text.Trim
import SqlRelay.Table.Paging
/-!
# What escaping leaves

Order texts and configured names are trimmed, passed over if they are blank, and escaped.  Escaping
drops marks of two dashes, so a text that is not blank may still leave nothing to see: this happens
exactly to a text that is made of blanks and of such marks.

Main results:

- Definition `Vanishes` is the grammar of the texts of which escaping leaves nothing to see.
- Theorem `allBlank_escapeChars_iff`: these are all of them.
- Definition `firstGiven` is the first text that is given, escaped; `firstShown` is the first text
  of which escaping leaves something.
- Theorems `firstGiven_shown_iff` and `firstGiven_eq_firstShown_iff`: both are the same, and to be
  seen, exactly if the first text that is given does not vanish.
-/

namespace SqlRelay

/-- A text with something to see. -/
def Shown (s : String) : Prop :=
  ∃ c ∈ s.toList, Text.isBlank c = false

instance (s : String) : Decidable (Shown s) :=
  decidable_of_iff (s.toList.any (fun c => !Text.isBlank c) = true) (by simp [Shown])

/-- A text is shown if it is not all blank. -/
theorem shown_iff (s : String) : Shown s ↔ ¬ Text.AllBlank s.toList := by
  simp [Shown, Text.AllBlank]

/-- A text counts as given exactly if it is not blank. -/
theorem Paging.nonBlank?_eq (s : String) :
    nonBlank? s = if Shown s then some (Text.trimmed s) else none := by
  have hempty : (Text.trimmed s).isEmpty = true ↔ ¬ Shown s := by
    rw [String.isEmpty_iff, Text.trimmed, String.ofList_eq_empty_iff, Text.trim_eq_nil_iff,
      shown_iff, not_not]
  by_cases hshown : Shown s
  · rw [nonBlank?, if_neg (by simpa [hempty] using hshown), if_pos hshown]
  · rw [nonBlank?, if_pos (hempty.2 hshown), if_neg hshown]

/-! ## Texts that vanish -/

/-- A text that is made of blanks and of marks of two dashes. -/
inductive Vanishes : List Char → Prop
  | nil : Vanishes []
  | blank {c : Char} {cs : List Char} (hc : Text.isBlank c = true) (rest : Vanishes cs) :
      Vanishes (c :: cs)
  | mark {cs : List Char} (rest : Vanishes cs) : Vanishes ('-' :: '-' :: cs)

/-- Two dashes are dropped, so the rest decides. -/
theorem vanishes_mark_iff (cs : List Char) : Vanishes ('-' :: '-' :: cs) ↔ Vanishes cs := by
  constructor
  · rintro (_ | ⟨hc, -⟩ | rest)
    · exact absurd hc (by decide)
    · exact rest
  · exact Vanishes.mark

/-- A character that begins no dash pair stays, so it must be blank. -/
theorem vanishes_cons_iff {c : Char} {cs : List Char} (h : ¬ ['-', '-'] <+: c :: cs) :
    Vanishes (c :: cs) ↔ Text.isBlank c = true ∧ Vanishes cs := by
  constructor
  · rintro (_ | ⟨hc, rest⟩ | -)
    · exact ⟨hc, rest⟩
    · exact absurd (by simp [List.cons_prefix_cons]) h
  · rintro ⟨hc, rest⟩
    exact .blank hc rest

theorem not_mark_of_not_pair {c : Char} {cs : List Char}
    (h : ∀ rest, c = '-' → cs = '-' :: rest → False) : ¬ ['-', '-'] <+: c :: cs := by
  rintro ⟨rest, hrest⟩
  obtain ⟨hc, hcs⟩ := List.cons.inj hrest
  exact h rest hc.symm hcs.symm

/-- Doubling quotes neither adds nor takes blanks. -/
theorem allBlank_doubleQuotes_iff (cs : List Char) :
    Text.AllBlank (doubleQuotes cs) ↔ Text.AllBlank cs := by
  induction cs with
  | nil => rfl
  | cons c cs ih =>
    rw [doubleQuotes_cons, Text.allBlank_cons, ← ih]
    split
    · rename_i hquote
      subst hquote
      simp
    · simp

/-- A text vanishes if nothing but blanks is left of it without its dash pairs. -/
theorem allBlank_dropDashPairs_iff (cs : List Char) :
    Text.AllBlank (dropDashPairs cs) ↔ Vanishes cs := by
  fun_induction dropDashPairs cs with
  | case1 rest ih => rw [ih, vanishes_mark_iff]
  | case2 c rest hpair ih =>
    rw [Text.allBlank_cons, ih, vanishes_cons_iff (not_mark_of_not_pair hpair)]
  | case3 => simp [Vanishes.nil]

/-- Escaping leaves nothing to see exactly of the texts that vanish. -/
theorem allBlank_escapeChars_iff (cs : List Char) :
    Text.AllBlank (escapeChars cs) ↔ Vanishes cs := by
  rw [escapeChars, dropDashPairs_doubleQuotes, allBlank_doubleQuotes_iff,
    allBlank_dropDashPairs_iff]

instance (cs : List Char) : Decidable (Vanishes cs) :=
  decidable_of_iff ((escapeChars cs).all Text.isBlank = true)
    (List.all_eq_true.trans (allBlank_escapeChars_iff cs))

theorem Vanishes.of_allBlank {cs : List Char} (h : Text.AllBlank cs) : Vanishes cs := by
  induction cs with
  | nil => exact .nil
  | cons c cs ih =>
    rw [Text.allBlank_cons] at h
    exact .blank h.1 (ih h.2)

/-- Blanks in front do not matter for vanishing. -/
theorem vanishes_blanks_append_iff {ws : List Char} (h : Text.AllBlank ws) (cs : List Char) :
    Vanishes (ws ++ cs) ↔ Vanishes cs := by
  induction ws with
  | nil => rfl
  | cons w ws ih =>
    rw [Text.allBlank_cons] at h
    have hmark : ¬ ['-', '-'] <+: w :: (ws ++ cs) := by
      intro hprefix
      rw [← (List.cons_prefix_cons.1 hprefix).1] at h
      exact absurd h.1 (by decide)
    rw [List.cons_append, vanishes_cons_iff hmark, ih h.2]
    exact and_iff_right h.1

/-- No mark reaches into the blanks behind a text. -/
theorem not_mark_append_blanks {c : Char} {cs ws : List Char} (h : ¬ ['-', '-'] <+: c :: cs)
    (hblank : Text.AllBlank ws) : ¬ ['-', '-'] <+: c :: (cs ++ ws) := by
  intro hprefix
  obtain ⟨hc, htail⟩ := List.cons_prefix_cons.1 hprefix
  cases cs with
  | nil =>
    have hdash := hblank '-' (htail.subset List.mem_cons_self)
    exact absurd hdash (by decide)
  | cons d cs =>
    refine h (List.cons_prefix_cons.2 ⟨hc, ?_⟩)
    exact List.cons_prefix_cons.2 ⟨(List.cons_prefix_cons.1 htail).1, List.nil_prefix⟩

/-- Blanks at the end do not matter for vanishing. -/
theorem vanishes_append_blanks_iff (cs : List Char) {ws : List Char} (h : Text.AllBlank ws) :
    Vanishes (cs ++ ws) ↔ Vanishes cs := by
  fun_induction dropDashPairs cs with
  | case1 rest ih => simpa only [List.cons_append, vanishes_mark_iff] using ih
  | case2 c rest hpair ih =>
    have hmark := not_mark_of_not_pair hpair
    rw [List.cons_append, vanishes_cons_iff (not_mark_append_blanks hmark h), ih,
      vanishes_cons_iff hmark]
  | case3 => simpa [Vanishes.nil] using Vanishes.of_allBlank h

/-- Blanks around a text do not count. -/
theorem vanishes_trim_iff (cs : List Char) : Vanishes (Text.trim cs) ↔ Vanishes cs := by
  obtain ⟨before, after, hbefore, hafter, hsplit⟩ := Text.trim_split cs
  have hwhole : Vanishes cs ↔ Vanishes (before ++ Text.trim cs ++ after) :=
    iff_of_eq (congrArg Vanishes hsplit)
  rw [hwhole, vanishes_append_blanks_iff _ hafter, vanishes_blanks_append_iff hbefore]

/-- Of a trimmed text, escaping leaves something to see exactly if the text does not vanish. -/
theorem shown_escapeSql_trimmed_iff (s : String) :
    Shown (escapeSql (Text.trimmed s)) ↔ ¬ Vanishes s.toList := by
  rw [shown_iff, escapeSql, Text.trimmed, String.toList_ofList, String.toList_ofList,
    allBlank_escapeChars_iff, vanishes_trim_iff]

/-! ## The first text that is given -/

/-- The first text that is given, escaped. -/
def firstGiven (sources : List String) : Option String :=
  (sources.findSome? Paging.nonBlank?).map escapeSql

/-- The escaped form of a text without the blanks around it, if there is something to see. -/
def shownForm? (s : String) : Option String :=
  let form := escapeSql (Text.trimmed s)
  if Shown form then some form else none

/-- The escaped form of the first text of which escaping leaves something to see. -/
def firstShown (sources : List String) : Option String :=
  sources.findSome? shownForm?

/-- The first text that is given vanishes. -/
inductive Swallowed : List String → Prop
  | here {s : String} {more : List String} (given : Shown s) (vanishes : Vanishes s.toList) :
      Swallowed (s :: more)
  | later {s : String} {more : List String} (blank : ¬ Shown s) (rest : Swallowed more) :
      Swallowed (s :: more)

theorem swallowed_nil : ¬ Swallowed [] := by
  rintro ⟨⟩

/-- A text that is shown is the one that is swallowed or not. -/
theorem swallowed_cons_of_shown {s : String} (h : Shown s) (more : List String) :
    Swallowed (s :: more) ↔ Vanishes s.toList := by
  constructor
  · rintro (⟨-, vanishes⟩ | ⟨blank, -⟩)
    · exact vanishes
    · exact absurd h blank
  · exact Swallowed.here h

theorem swallowed_cons_of_blank {s : String} (h : ¬ Shown s) (more : List String) :
    Swallowed (s :: more) ↔ Swallowed more := by
  constructor
  · rintro (⟨given, -⟩ | ⟨-, rest⟩)
    · exact absurd given h
    · exact rest
  · exact Swallowed.later h

/-- With a second text that does not vanish, only the first one counts. -/
theorem swallowed_pair_iff {s standard : String} (h : ¬ Vanishes standard.toList) :
    Swallowed [s, standard] ↔ Shown s ∧ Vanishes s.toList := by
  have hstandard : Shown standard := (shown_iff standard).2 (mt Vanishes.of_allBlank h)
  by_cases hshown : Shown s
  · rw [swallowed_cons_of_shown hshown, and_iff_right hshown]
  · rw [swallowed_cons_of_blank hshown, swallowed_cons_of_shown hstandard]
    exact iff_of_false h (fun hs => hshown hs.1)

/-- The first text that is shown is taken. -/
theorem firstGiven_cons_of_shown {s : String} (h : Shown s) (more : List String) :
    firstGiven (s :: more) = some (escapeSql (Text.trimmed s)) := by
  simp [firstGiven, Paging.nonBlank?_eq, h]

theorem firstGiven_cons_of_blank {s : String} (h : ¬ Shown s) (more : List String) :
    firstGiven (s :: more) = firstGiven more := by
  simp [firstGiven, Paging.nonBlank?_eq, h]

/-- A text that vanishes is passed over. -/
theorem firstShown_cons_of_vanishes {s : String} (h : Vanishes s.toList) (more : List String) :
    firstShown (s :: more) = firstShown more := by
  simp [firstShown, shownForm?, shown_escapeSql_trimmed_iff, h]

/-- The first text that does not vanish is taken. -/
theorem firstShown_cons_of_shown {s : String} (h : ¬ Vanishes s.toList) (more : List String) :
    firstShown (s :: more) = some (escapeSql (Text.trimmed s)) := by
  simp [firstShown, shownForm?, shown_escapeSql_trimmed_iff, h]

/-- What is chosen so is never blank. -/
theorem shown_of_firstShown {sources : List String} {text : String}
    (h : firstShown sources = some text) : Shown text := by
  obtain ⟨s, -, hform⟩ := List.exists_of_findSome?_eq_some h
  simp only [shownForm?] at hform
  split at hform
  · rename_i hshown
    exact Option.some.inj hform ▸ hshown
  · exact absurd hform (by simp)

/-- The first text that is given leaves something to see, unless it vanishes. -/
theorem firstGiven_shown_iff (sources : List String) :
    (∀ text, firstGiven sources = some text → Shown text) ↔ ¬ Swallowed sources := by
  induction sources with
  | nil => simp [firstGiven, swallowed_nil]
  | cons s more ih =>
    by_cases hshown : Shown s
    · simp [firstGiven_cons_of_shown hshown, swallowed_cons_of_shown hshown,
        shown_escapeSql_trimmed_iff]
    · rw [firstGiven_cons_of_blank hshown, swallowed_cons_of_blank hshown, ih]

/-- To pass over blank texts is to pass over texts that leave nothing to see, unless the first text
that is given vanishes. -/
theorem firstGiven_eq_firstShown_iff (sources : List String) :
    firstGiven sources = firstShown sources ↔ ¬ Swallowed sources := by
  induction sources with
  | nil => simp [firstGiven, firstShown, swallowed_nil]
  | cons s more ih =>
    by_cases hshown : Shown s
    · rw [firstGiven_cons_of_shown hshown, swallowed_cons_of_shown hshown]
      by_cases hvanishes : Vanishes s.toList
      · -- what is left of the text is blank, and the first text shown never is
        rw [firstShown_cons_of_vanishes hvanishes]
        refine iff_of_false ?_ (not_not_intro hvanishes)
        intro hsame
        exact (shown_escapeSql_trimmed_iff s).1 (shown_of_firstShown hsame.symm) hvanishes
      · rw [firstShown_cons_of_shown hvanishes]
        exact iff_of_true rfl hvanishes
    · have hvanishes : Vanishes s.toList :=
        .of_allBlank (not_not.1 (mt (shown_iff s).2 hshown))
      rw [firstGiven_cons_of_blank hshown, swallowed_cons_of_blank hshown,
        firstShown_cons_of_vanishes hvanishes, ih]

end SqlRelay
