import SqlRelay.Proofs.Text.Trim
import SqlRelay.Script.Fragment
/-!
# Lines of a fragment

The body of a fragment is made of lines: blank lines and lines that begin with two dashes are left
out, and every other line loses a carriage return at its end.  A line that gives a label begins
with two dashes as well.

Main results:

- Theorem `Fragment.body_eq`: the body is the trimmed text of the lines that are kept.
- Theorem `Fragment.body_eq_keptText`: so it is whatever blanks stand around the fragment.
- Theorems `shape_of_isSqlLine` and `shape_of_not_isSqlLine`: how both kinds of lines begin.
-/

namespace SqlRelay

/-- The text of lines that end with line feeds. -/
def linesText (ls : List (List Char)) : List Char :=
  ls.flatMap (· ++ ['\n'])

/-- The lines that hold SQL, without their carriage returns. -/
def keptLines (ls : List (List Char)) : List (List Char) :=
  (ls.filter isSqlLine).map Text.dropReturn

/-- The lines of a fragment between its line feeds. -/
def fragmentLines (part : List Char) : List (List Char) :=
  Text.cut (· == '\n') (Text.trim part)

@[simp]
theorem linesText_nil : linesText [] = [] := rfl

@[simp]
theorem linesText_cons (l : List Char) (ls : List (List Char)) :
    linesText (l :: ls) = l ++ '\n' :: linesText ls := by
  simp [linesText]

/-- Lines that end with line feeds are joined lines and one more line feed. -/
theorem linesText_eq {ls : List (List Char)} (h : ls ≠ []) :
    linesText ls = Text.unlines ls ++ ['\n'] := by
  induction ls with
  | nil => exact absurd rfl h
  | cons l ls ih =>
    cases ls with
    | nil => simp [Text.unlines]
    | cons next ls =>
      rw [linesText_cons, ih (by simp)]
      simp [Text.unlines, List.intercalate_cons_cons]

/-- The line feed at the end does not count. -/
theorem trim_linesText (ls : List (List Char)) :
    Text.trim (linesText ls) = Text.trim (Text.unlines ls) := by
  cases ls with
  | nil => rfl
  | cons l ls =>
    have hblank : Text.AllBlank ['\n'] := by simp [Text.isBlank]
    rw [linesText_eq (by simp), Text.trim_append_blanks _ hblank]

/-- One carriage return is dropped at the end of a line. -/
@[simp]
theorem dropReturn_append (l : List Char) : Text.dropReturn (l ++ ['\r']) = l := by
  simp [Text.dropReturn]

/-- A line has no carriage return at its end, or it loses one. -/
theorem dropReturn_cases (l : List Char) :
    Text.dropReturn l = l ∧ l.getLast? ≠ some '\r' ∨ ∃ l', l = l' ++ ['\r'] := by
  by_cases hlast : l.getLast? = some '\r'
  · exact .inr (List.getLast?_eq_some_iff.1 hlast)
  · exact .inl ⟨by simp [Text.dropReturn, hlast], hlast⟩

/-- A carriage return does not make a line one that holds SQL. -/
theorem isSqlLine_dropReturn (l : List Char) : isSqlLine (Text.dropReturn l) = isSqlLine l := by
  rcases dropReturn_cases l with ⟨hsame, -⟩ | ⟨l', rfl⟩
  · rw [hsame]
  · have hblank : Text.AllBlank ['\r'] := by simp [Text.isBlank]
    rw [dropReturn_append, isSqlLine, isSqlLine, Text.trim_append_blanks _ hblank]

/-- A line with SQL is kept, without its carriage return. -/
theorem keptLines_cons_of_isSqlLine {l : List Char} (h : isSqlLine l = true)
    (ls : List (List Char)) : keptLines (l :: ls) = Text.dropReturn l :: keptLines ls := by
  simp [keptLines, h]

/-- A line without SQL is left out. -/
theorem keptLines_cons_of_not {l : List Char} (h : isSqlLine l = false)
    (ls : List (List Char)) : keptLines (l :: ls) = keptLines ls := by
  simp [keptLines, h]

/-! ## The body of a fragment -/

/-- The lines with SQL are the kept ones, if the last part has no carriage return to lose. -/
theorem filter_linesOfParts {parts : List (List Char)}
    (h : ∀ before last, parts = before ++ [last] → Text.dropReturn last = last) :
    (Text.linesOfParts parts).filter isSqlLine = keptLines parts := by
  induction parts with
  | nil => rfl
  | cons part parts ih =>
    cases parts with
    | nil =>
      have hlast := h [] part rfl
      cases hsql : isSqlLine part with
      | true =>
        have hne : part ≠ [] := by
          rintro rfl
          exact absurd hsql (by decide)
        rw [keptLines_cons_of_isSqlLine hsql, hlast]
        simp [Text.linesOfParts, hne, hsql, keptLines]
      | false =>
        rw [keptLines_cons_of_not hsql]
        by_cases hne : part = [] <;> simp [Text.linesOfParts, hne, hsql, keptLines]
    | cons next parts =>
      have hrest := ih fun before last hsplit => h (part :: before) last (by simp [hsplit])
      rw [Text.linesOfParts, List.filter_cons, hrest, isSqlLine_dropReturn]
      cases hsql : isSqlLine part with
      | true => exact (keptLines_cons_of_isSqlLine hsql _).symm
      | false => exact (keptLines_cons_of_not hsql _).symm

/-- A text of joined parts ends with the last of them. -/
theorem suffix_intercalate {α : Type} (sep : List α) (before : List (List α)) (last : List α) :
    last <:+ List.intercalate sep (before ++ [last]) := by
  induction before with
  | nil => simp
  | cons part before ih =>
    have hne : before ++ [last] ≠ [] := by simp
    rw [List.cons_append, List.intercalate_cons_of_ne_nil hne]
    exact ih.trans (List.suffix_append _ _)

/-- The last line of a trimmed text does not end with a carriage return. -/
theorem dropReturn_of_last {part last : List Char} {before : List (List Char)}
    (h : fragmentLines part = before ++ [last]) : Text.dropReturn last = last := by
  rcases dropReturn_cases last with ⟨hsame, -⟩ | ⟨l, rfl⟩
  · exact hsame
  · obtain ⟨front, hfront⟩ := suffix_intercalate ['\n'] before (l ++ ['\r'])
    have htrim : Text.trim part = (front ++ l) ++ ['\r'] := by
      rw [← Text.cut_join '\n' (Text.trim part), List.append_assoc, hfront, ← h]
      rfl
    exact absurd (Text.isBlank_of_trimEnd_eq_append htrim) (by decide)

/-- The lines with SQL of a trimmed text are those that are kept of its fragment. -/
theorem sqlLines_trim (part : List Char) :
    sqlLines (Text.trim part) = Text.trim (linesText (keptLines (fragmentLines part))) := by
  have hfilter : (Text.lines (Text.trim part)).filter isSqlLine =
      keptLines (fragmentLines part) :=
    filter_linesOfParts fun _ _ => dropReturn_of_last
  rw [sqlLines, hfilter, trim_linesText]

/-- A line that gives a label holds no SQL. -/
theorem isSqlLine_of_label {line label : List Char} (h : labelOfLine? line = some label) :
    isSqlLine line = false := by
  unfold labelOfLine? at h
  split at h
  · simp at h
  · rename_i rest hcomment
    unfold commentText? at hcomment
    split at hcomment
    · rename_i hdashes
      simp [isSqlLine, hdashes]
    · simp at hcomment

/-- A text without separators is one part. -/
theorem cut_of_not_mem {sep : Char} {cs : List Char} (h : sep ∉ cs) :
    Text.cut (· == sep) cs = [cs] := by
  induction cs with
  | nil => rfl
  | cons c cs ih =>
    rw [List.mem_cons, not_or] at h
    rw [Text.cut_cons, ih h.2]
    simp [Ne.symm h.1, Text.extendFirst]

/-- A text is cut at its first separator and behind it. -/
theorem cut_append_cons {sep : Char} {first : List Char} (h : sep ∉ first) (rest : List Char) :
    Text.cut (· == sep) (first ++ sep :: rest) = first :: Text.cut (· == sep) rest := by
  induction first with
  | nil => simp [Text.cut_cons]
  | cons c first ih =>
    rw [List.mem_cons, not_or] at h
    rw [List.cons_append, Text.cut_cons, ih h.2]
    simp [Ne.symm h.1, Text.extendFirst]

/-- A first line that holds no SQL may be left away. -/
theorem sqlLines_append_cons {first : List Char} (hfirst : '\n' ∉ first)
    (h : isSqlLine first = false) (rest : List Char) :
    sqlLines (first ++ '\n' :: rest) = sqlLines rest := by
  have hlines : Text.lines (first ++ '\n' :: rest) = Text.dropReturn first :: Text.lines rest := by
    rw [Text.lines, cut_append_cons hfirst, Text.lines]
    cases hparts : Text.cut (· == '\n') rest with
    | nil => exact absurd hparts (Text.cut_ne_nil _ rest)
    | cons part parts => rfl
  rw [sqlLines, hlines, List.filter_cons, isSqlLine_dropReturn, h]
  rfl

/-- One line that holds no SQL leaves nothing. -/
theorem sqlLines_of_not_mem {line : List Char} (hline : '\n' ∉ line)
    (h : isSqlLine line = false) : sqlLines line = [] := by
  rw [sqlLines, Text.lines, cut_of_not_mem hline]
  by_cases hempty : line = []
  · subst hempty
    rfl
  · simp only [Text.linesOfParts, List.isEmpty_iff, hempty, if_false, List.filter_cons, h,
      Bool.false_eq_true, List.filter_nil]
    rfl

/-- A first line without SQL changes nothing. -/
theorem sqlLines_splitLine {cs : List Char} (h : isSqlLine (splitLine cs).1 = false) :
    sqlLines (splitLine cs).2 = sqlLines cs := by
  have hsplit := List.takeWhile_append_dropWhile (p := (· != '\n')) (l := cs)
  have hfirst : '\n' ∉ cs.takeWhile (· != '\n') := by
    intro hmem
    simpa using List.mem_takeWhile_imp hmem
  change isSqlLine (cs.takeWhile (· != '\n')) = false at h
  change sqlLines ((cs.dropWhile (· != '\n')).drop 1) = sqlLines cs
  cases hrest : cs.dropWhile (· != '\n') with
  | nil =>
    rw [hrest, List.append_nil] at hsplit
    rw [← hsplit, sqlLines_of_not_mem hfirst h]
    rfl
  | cons c rest =>
    have hc : c = '\n' := by
      have hhead := List.head_dropWhile_not (· != '\n') (l := cs) (by simp [hrest])
      simpa [hrest] using hhead
    rw [hrest, hc] at hsplit
    rw [← hsplit, sqlLines_append_cons hfirst h]
    rfl

/-- The body of a fragment is the trimmed text of the lines that are kept. -/
theorem Fragment.body_eq (part : List Char) :
    (Fragment.ofText part).body =
      Text.trim (linesText (keptLines (fragmentLines part))) := by
  rw [← sqlLines_trim]
  unfold Fragment.ofText
  cases hlabel : labelOfLine? (splitLine (Text.trim part)).1 with
  | none => simp [hlabel]
  | some label =>
    simp only [hlabel]
    exact sqlLines_splitLine (isSqlLine_of_label hlabel)

/-! ## Blanks around a fragment -/

/-- The trimmed text of the lines that hold SQL. -/
def keptText (cs : List Char) : List Char :=
  Text.trim (linesText (keptLines (Text.cut (· == '\n') cs)))

theorem linesText_append (ls ms : List (List Char)) :
    linesText (ls ++ ms) = linesText ls ++ linesText ms := by
  simp [linesText]

theorem keptLines_append (ls ms : List (List Char)) :
    keptLines (ls ++ ms) = keptLines ls ++ keptLines ms := by
  simp [keptLines]

/-- A line and what is left of it without a carriage return differ in blanks at the end. -/
theorem dropReturn_blanks (l : List Char) :
    ∃ ws, Text.AllBlank ws ∧ Text.dropReturn l ++ ws = l := by
  rcases dropReturn_cases l with ⟨hsame, -⟩ | ⟨l', rfl⟩
  · exact ⟨[], Text.allBlank_nil, by rw [hsame, List.append_nil]⟩
  · exact ⟨['\r'], by simp [Text.isBlank], by rw [dropReturn_append]⟩

theorem dropReturn_cons {l : List Char} (h : l ≠ []) (c : Char) :
    Text.dropReturn (c :: l) = c :: Text.dropReturn l := by
  unfold Text.dropReturn
  rw [List.getLast?_cons_of_ne_nil h, List.dropLast_cons_of_ne_nil h]
  split <;> rfl

/-- The last line that is kept ends where it ends without its blanks. -/
theorem trim_append_lastLine (before l : List Char) :
    Text.trim (before ++ linesText [Text.dropReturn l]) = Text.trim (before ++ l) := by
  obtain ⟨ws, hblank, hsplit⟩ := dropReturn_blanks l
  have hfeed : Text.AllBlank ['\n'] := by simp [Text.isBlank]
  calc Text.trim (before ++ linesText [Text.dropReturn l])
      = Text.trim ((before ++ Text.dropReturn l) ++ ['\n']) := by simp
    _ = Text.trim (before ++ Text.dropReturn l) := Text.trim_append_blanks _ hfeed
    _ = Text.trim ((before ++ Text.dropReturn l) ++ ws) := (Text.trim_append_blanks _ hblank).symm
    _ = Text.trim (before ++ l) := by rw [List.append_assoc, hsplit]

/-- Blanks do not make a line one that holds SQL. -/
theorem isSqlLine_append_blanks (l : List Char) {ws : List Char} (h : Text.AllBlank ws) :
    isSqlLine (l ++ ws) = isSqlLine l := by
  rw [isSqlLine, isSqlLine, Text.trim_append_blanks l h]

/-- Blanks in front of a line do not matter. -/
theorem isSqlLine_blanks_append {ws : List Char} (h : Text.AllBlank ws) (l : List Char) :
    isSqlLine (ws ++ l) = isSqlLine l := by
  rw [isSqlLine, isSqlLine, Text.trim_blanks_append h]

/-- A blank behind the last line does not count. -/
theorem trim_keptLines_snoc (ls : List (List Char)) (l : List Char) {ws : List Char}
    (h : Text.AllBlank ws) :
    Text.trim (linesText (keptLines (ls ++ [l ++ ws]))) =
      Text.trim (linesText (keptLines (ls ++ [l]))) := by
  rw [keptLines_append, keptLines_append, linesText_append, linesText_append]
  cases hsql : isSqlLine l with
  | false =>
    have hsql' : isSqlLine (l ++ ws) = false := by rw [isSqlLine_append_blanks l h, hsql]
    rw [keptLines_cons_of_not hsql, keptLines_cons_of_not hsql']
  | true =>
    have hsql' : isSqlLine (l ++ ws) = true := by rw [isSqlLine_append_blanks l h, hsql]
    rw [keptLines_cons_of_isSqlLine hsql, keptLines_cons_of_isSqlLine hsql']
    have hnone : keptLines [] = [] := rfl
    rw [hnone, trim_append_lastLine, trim_append_lastLine, ← List.append_assoc,
      Text.trim_append_blanks _ h]

/-- A text has one line, or a last line behind others. -/
theorem exists_lastLine (cs : List Char) :
    '\n' ∉ cs ∨ ∃ before l, cs = before ++ '\n' :: l ∧ '\n' ∉ l := by
  induction cs with
  | nil => simp
  | cons c cs ih =>
    rcases ih with hnone | ⟨before, l, rfl, hl⟩
    · by_cases hc : c = '\n'
      · exact .inr ⟨[], cs, by simp [hc], hnone⟩
      · exact .inl (by simp [hnone, Ne.symm hc])
    · exact .inr ⟨c :: before, l, rfl, hl⟩

/-- The lines of a text are those before a place and its last one. -/
theorem exists_lines_append (cs : List Char) :
    ∃ ls l, ∀ b, '\n' ∉ b → Text.cut (· == '\n') (cs ++ b) = ls ++ [l ++ b] := by
  rcases exists_lastLine cs with hnone | ⟨before, l, rfl, hl⟩
  · refine ⟨[], cs, fun b hb => ?_⟩
    exact cut_of_not_mem (by simp [hnone, hb])
  · refine ⟨Text.cut (· == '\n') before, l, fun b hb => ?_⟩
    have hlast : Text.cut (· == '\n') (l ++ b) = [l ++ b] := cut_of_not_mem (by simp [hl, hb])
    rw [List.append_assoc, List.cons_append, Text.cut_append_sep, hlast]

/-- A blank at the end of a text does not matter for what is kept. -/
theorem keptText_append_blank (cs : List Char) {c : Char} (h : Text.isBlank c = true) :
    keptText (cs ++ [c]) = keptText cs := by
  unfold keptText
  by_cases hc : c = '\n'
  · rw [hc, Text.cut_append_sep, keptLines_append]
    have hnone : keptLines (Text.cut (· == '\n') []) = [] := rfl
    rw [hnone, List.append_nil]
  · obtain ⟨ls, l, hlines⟩ := exists_lines_append cs
    have hlast := hlines [] (by simp)
    rw [List.append_nil, List.append_nil] at hlast
    rw [hlines [c] (by simp [Ne.symm hc]), hlast]
    exact trim_keptLines_snoc ls l (by simp [h])

/-- A blank at the front of a text does not matter for what is kept. -/
theorem keptText_blank_cons {c : Char} (h : Text.isBlank c = true) (cs : List Char) :
    keptText (c :: cs) = keptText cs := by
  have hblank : Text.AllBlank [c] := by simp [h]
  unfold keptText
  rw [Text.cut_cons]
  split
  · rw [keptLines_cons_of_not (by decide)]
  · obtain ⟨l, ls, hlines⟩ :=
      List.exists_cons_of_ne_nil (Text.cut_ne_nil (· == '\n') cs)
    have hsame : isSqlLine (c :: l) = isSqlLine l := isSqlLine_blanks_append hblank l
    rw [hlines, Text.extendFirst]
    cases hsql : isSqlLine l with
    | false => rw [keptLines_cons_of_not hsql, keptLines_cons_of_not (hsame.trans hsql)]
    | true =>
      have hne : l ≠ [] := by
        rintro rfl
        exact absurd hsql (by decide)
      rw [keptLines_cons_of_isSqlLine hsql, keptLines_cons_of_isSqlLine (hsame.trans hsql),
        linesText_cons, linesText_cons, dropReturn_cons hne]
      exact Text.trim_blanks_append hblank _

theorem keptText_append_blanks (cs : List Char) {ws : List Char} (h : Text.AllBlank ws) :
    keptText (cs ++ ws) = keptText cs := by
  induction ws generalizing cs with
  | nil => rw [List.append_nil]
  | cons c ws ih =>
    rw [Text.allBlank_cons] at h
    rw [← List.singleton_append, ← List.append_assoc, ih _ h.2, keptText_append_blank cs h.1]

theorem keptText_blanks_append {ws : List Char} (h : Text.AllBlank ws) (cs : List Char) :
    keptText (ws ++ cs) = keptText cs := by
  induction ws with
  | nil => rfl
  | cons c ws ih =>
    rw [Text.allBlank_cons] at h
    rw [List.cons_append, keptText_blank_cons h.1, ih h.2]

/-- Blanks around the text of a fragment do not count. -/
theorem keptText_trim (cs : List Char) : keptText (Text.trim cs) = keptText cs := by
  obtain ⟨before, after, hbefore, hafter, hsplit⟩ := Text.trim_split cs
  calc keptText (Text.trim cs) = keptText (before ++ Text.trim cs ++ after) := by
        rw [keptText_append_blanks _ hafter, keptText_blanks_append hbefore]
    _ = keptText cs := by rw [← hsplit]

/-- A body is made of the lines of its fragment, whatever blanks stand around them. -/
theorem Fragment.body_eq_keptText (part : List Char) :
    (Fragment.ofText part).body = keptText part := by
  rw [Fragment.body_eq, ← keptText_trim]
  rfl

/-! ## How lines begin -/

/-- Two dashes in front of a text stand in front of the blanks at its end. -/
theorem dashes_of_append_blanks {cs ws : List Char} (h : Text.AllBlank ws)
    (hdashes : ['-', '-'] <+: cs ++ ws) : ['-', '-'] <+: cs := by
  have hdash : '-' ∉ ws := fun hmem => absurd (h '-' hmem) (by decide)
  rcases cs with _ | ⟨c, _ | ⟨d, cs⟩⟩
  · obtain ⟨rest, hrest⟩ := hdashes
    rw [List.nil_append] at hrest
    exact absurd (by simp [← hrest]) hdash
  · obtain ⟨rest, hrest⟩ := hdashes
    have hws : '-' :: rest = ws := (List.cons.inj hrest).2
    exact absurd (by simp [← hws]) hdash
  · simpa [List.cons_prefix_cons] using hdashes

/-- A line holds no SQL if nothing or a comment is left of it. -/
theorem isSqlLine_eq_false_iff (l : List Char) :
    isSqlLine l = false ↔ Text.trim l = [] ∨ ['-', '-'] <+: Text.trim l := by
  unfold isSqlLine
  split
  · rename_i htrim
    simp [htrim]
  · rename_i rest htrim
    simp [htrim]
  · rename_i hnil hdashes
    simp only [Bool.true_eq_false, false_iff, not_or]
    refine ⟨hnil, ?_⟩
    rintro ⟨rest, hrest⟩
    exact hdashes rest hrest.symm

/-- A line that holds SQL begins, after blanks, with a character that begins no comment. -/
theorem shape_of_isSqlLine {l : List Char} (h : isSqlLine l = true) :
    ∃ ws c rest, l = ws ++ c :: rest ∧ Text.AllBlank ws ∧ Text.isBlank c = false ∧
      ¬ ['-', '-'] <+: c :: rest := by
  have hnot : ¬ (Text.trim l = [] ∨ ['-', '-'] <+: Text.trim l) := by
    rw [← isSqlLine_eq_false_iff, h]
    simp
  rw [not_or] at hnot
  obtain ⟨ws, hblank, hsplit⟩ := Text.trimStart_split l
  obtain ⟨after, hafter, hend⟩ := Text.trimEnd_split (Text.trimStart l)
  cases hstart : Text.trimStart l with
  | nil => exact absurd (by rw [Text.trim, hstart]; rfl) hnot.1
  | cons c rest =>
    refine ⟨ws, c, rest, by rw [← hstart]; exact hsplit, hblank,
      Text.isBlank_of_trimStart_eq_cons hstart, ?_⟩
    intro hdashes
    rw [← hstart, hend] at hdashes
    exact hnot.2 (dashes_of_append_blanks hafter hdashes)

/-- Any other line begins, after blanks, with a comment, or it ends there. -/
theorem shape_of_not_isSqlLine {l : List Char} (h : isSqlLine l = false) :
    ∃ ws rest, l = ws ++ rest ∧ Text.AllBlank ws ∧ (rest = [] ∨ ['-', '-'] <+: rest) := by
  obtain ⟨ws, hblank, hsplit⟩ := Text.trimStart_split l
  obtain ⟨after, hafter, hend⟩ := Text.trimEnd_split (Text.trimStart l)
  refine ⟨ws, _, hsplit, hblank, ?_⟩
  rcases (isSqlLine_eq_false_iff l).1 h with hnil | hdashes
  · left
    cases hstart : Text.trimStart l with
    | nil => rfl
    | cons c rest =>
      rw [← Text.trim, hnil, List.nil_append, hstart] at hend
      have hc := Text.isBlank_of_trimStart_eq_cons hstart
      exact absurd (hafter c (by simp [← hend])) (by simp [hc])
  · right
    rw [hend]
    exact hdashes.trans (List.prefix_append _ _)

end SqlRelay
