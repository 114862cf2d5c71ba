import SqlRelay.Proofs.Script.Composition
import SqlRelay.Proofs.Script.Stripping
/-!
# Comment lines

A line of code that only holds a comment is not seen by anything that makes statements out of a
script.  For the scanner it leads from code to code; it is left out of the body of its fragment;
and it gives no label if something stands before it, for only the first line of a fragment may.

Main results:

- Theorem `Fragment.label_append`: a label depends on the first line that is not blank.
- Theorem `Fragment.ofText_insert`: a comment line behind the first line of a fragment changes
  neither label nor body.
- Theorem `compile_insert_commentLine`: nor does it change the statements of its script.
-/

namespace SqlRelay

attribute [ext] Fragment

/-- The label of a fragment is the one of its first line. -/
theorem Fragment.label_eq (part : List Char) :
    (Fragment.ofText part).label = labelOfLine? (splitLine (Text.trim part)).1 := by
  unfold Fragment.ofText
  cases hlabel : labelOfLine? (splitLine (Text.trim part)).1 <;> simp [hlabel]

/-- Blanks around a line do not count for the label that it gives. -/
theorem labelOfLine?_congr {l l' : List Char} (h : Text.trim l = Text.trim l') :
    labelOfLine? l = labelOfLine? l' := by
  rw [labelOfLine?, labelOfLine?, commentText?, commentText?, h]

/-- Blanks at the end of a text are blanks at the end of its first line, or they stand behind
it. -/
theorem trim_firstLine_trimEnd (cs : List Char) :
    Text.trim (splitLine (Text.trimEnd cs)).1 = Text.trim (splitLine cs).1 := by
  obtain ⟨ws, hblank, hsplit⟩ := Text.trimEnd_split cs
  conv_rhs => rw [hsplit]
  simp only [splitLine]
  rw [List.takeWhile_append]
  split
  · rename_i hwhole
    have hline : (Text.trimEnd cs).takeWhile (· != '\n') = Text.trimEnd cs :=
      List.takeWhile_prefix _ |>.eq_of_length hwhole
    have hrest : Text.AllBlank (ws.takeWhile (· != '\n')) :=
      fun c hc => hblank c ((List.takeWhile_prefix _).subset hc)
    rw [hline, Text.trim_append_blanks _ hrest]
  · rfl

/-- The first line of a text does not depend on what stands behind a line feed. -/
theorem firstLine_append {a : List Char} (h : '\n' ∈ a) (b : List Char) :
    (splitLine (a ++ b)).1 = (splitLine a).1 := by
  simp only [splitLine]
  rw [List.takeWhile_append, if_neg]
  intro hwhole
  have hline : a.takeWhile (· != '\n') = a := List.takeWhile_prefix _ |>.eq_of_length hwhole
  rw [← hline] at h
  simpa using List.mem_takeWhile_imp h

/-! ## Comment lines of a fragment -/

/-- A line that begins with two dashes holds no SQL. -/
theorem isSqlLine_dashes (comment : List Char) : isSqlLine ('-' :: '-' :: comment) = false := by
  obtain ⟨ws, hblank, hsplit⟩ := Text.trimEnd_split ('-' :: '-' :: comment)
  have htrim : Text.trim ('-' :: '-' :: comment) = Text.trimEnd ('-' :: '-' :: comment) := rfl
  rw [isSqlLine_eq_false_iff, htrim]
  right
  apply dashes_of_append_blanks hblank
  rw [← hsplit]
  exact ⟨comment, rfl⟩

/-- A line that holds no SQL may be put in where a line begins. -/
theorem keptText_insert (x : List Char) {line : List Char} (hfeed : '\n' ∉ line)
    (hsql : isSqlLine line = false) (y : List Char) :
    keptText (x ++ '\n' :: (line ++ '\n' :: y)) = keptText (x ++ '\n' :: y) := by
  have hone : Text.cut (· == '\n') line = [line] := cut_of_not_mem hfeed
  unfold keptText
  rw [Text.cut_append_sep, Text.cut_append_sep, Text.cut_append_sep, hone, List.singleton_append,
    keptLines_append, keptLines_cons_of_not hsql, keptLines_append]

section FirstLine

variable {x : List Char} (hline : x.getLast? = some '\n')
  (hnonblank : ∃ c ∈ x, Text.isBlank c = false)

include hline hnonblank

/-- Behind a line that is not blank, nothing has a part in the label. -/
theorem Fragment.label_append (y : List Char) :
    (Fragment.ofText (x ++ y)).label = labelOfLine? (splitLine (Text.trimStart x)).1 := by
  obtain ⟨x', rfl⟩ := List.getLast?_eq_some_iff.1 hline
  have hx' : ∃ c ∈ x', Text.isBlank c = false := by
    obtain ⟨c, hc, hblank⟩ := hnonblank
    rcases List.mem_append.1 hc with hc | hc
    · exact ⟨c, hc, hblank⟩
    · rw [List.mem_singleton.1 hc] at hblank
      exact absurd hblank (by decide)
  have hfeed : '\n' ∈ Text.trimStart (x' ++ ['\n']) := by
    simp [Text.trimStart_append_of_exists hx']
  have htrim : Text.trim (x' ++ ['\n'] ++ y) =
      Text.trimEnd (Text.trimStart (x' ++ ['\n'] ++ y)) := rfl
  rw [Fragment.label_eq, htrim]
  apply labelOfLine?_congr
  rw [trim_firstLine_trimEnd, Text.trimStart_append_of_exists hnonblank, firstLine_append hfeed]

/-- A comment line behind the first line of a fragment changes neither label nor body. -/
theorem Fragment.ofText_insert {comment : List Char} (hcomment : '\n' ∉ comment) (y : List Char) :
    Fragment.ofText (x ++ ('-' :: '-' :: comment ++ '\n' :: y)) = Fragment.ofText (x ++ y) := by
  apply Fragment.ext
  · rw [Fragment.label_append hline hnonblank, Fragment.label_append hline hnonblank]
  · obtain ⟨x', rfl⟩ := List.getLast?_eq_some_iff.1 hline
    have hfeed : '\n' ∉ '-' :: '-' :: comment := by simpa using hcomment
    have hbody := keptText_insert x' hfeed (isSqlLine_dashes comment) y
    rw [Fragment.body_eq_keptText, Fragment.body_eq_keptText]
    simpa using hbody

end FirstLine

/-! ## Comment lines of a script -/

/-- Where a line begins in code, nothing is pending. -/
theorem Region.BeginsLine.eq_code {r : Region} (h : r.BeginsLine) (hcode : r.isCode = true) :
    r = .code := by
  cases h with
  | code => rfl
  | comment | literal hquote => exact Bool.noConfusion hcode

/-- What stands before a place in the fragment that the place lies in. -/
def fragmentBefore (before : List Char) : List Char :=
  (fragmentsFrom .code before).getLast (fragmentsFrom_ne_nil .code before)

/-- The fragment before a place ends there. -/
theorem fragmentBefore_suffix (before : List Char) : fragmentBefore before <:+ before := by
  have hne := fragmentsFrom_ne_nil .code before
  have hjoin := join_fragmentsFrom .code before
  rw [← List.dropLast_concat_getLast hne] at hjoin
  conv_rhs => rw [← hjoin]
  exact suffix_intercalate _ _ _

/-- A place for a comment line: the start of a line, in code, with something that is not blank
before it in its fragment. -/
structure CommentPlace (before : List Char) : Prop where
  startsLine : before = [] ∨ before.getLast? = some '\n'
  inCode : (Region.code.after before).isCode = true
  notFirst : ∃ c ∈ fragmentBefore before, Text.isBlank c = false

/-- A comment goes on to the end of its line. -/
theorem fragmentsFrom_comment {comment : List Char} (h : '\n' ∉ comment) {cs first : List Char}
    {rest : List (List Char)} (hcs : fragmentsFrom .code cs = first :: rest) :
    fragmentsFrom .code ('-' :: '-' :: comment ++ '\n' :: cs) =
      ('-' :: '-' :: comment ++ '\n' :: first) :: rest := by
  have hline : fragmentsFrom .lineComment (comment ++ '\n' :: cs) =
      (comment ++ '\n' :: first) :: rest := by
    induction comment with
    | nil => simp [fragmentsFrom, Region.isCode, Region.step, hcs, Text.extendFirst]
    | cons c comment ih =>
      rw [List.mem_cons, not_or] at h
      have hstep : Region.lineComment.step c = .lineComment := by simp [Region.step, Ne.symm h.1]
      rw [List.cons_append, fragmentsFrom, hstep, ih h.2]
      rfl
  have hdashes : fragmentsFrom .code ('-' :: '-' :: comment ++ '\n' :: cs) =
      Text.extendFirst '-' (Text.extendFirst '-'
        (fragmentsFrom .lineComment (comment ++ '\n' :: cs))) := rfl
  rw [hdashes, hline]
  rfl

namespace CommentPlace

variable {before : List Char} (h : CommentPlace before)

include h

/-- The text before a line ends with a line feed. -/
theorem getLast? : before.getLast? = some '\n' := by
  rcases h.startsLine with rfl | hlast
  · obtain ⟨c, hc, -⟩ := h.notFirst
    exact absurd hc (by simp [fragmentBefore, fragmentsFrom])
  · exact hlast

theorem after_eq : Region.code.after before = .code := by
  obtain ⟨before', hbefore⟩ := List.getLast?_eq_some_iff.1 h.getLast?
  have hline : (Region.code.after before).BeginsLine := by
    rw [hbefore, Region.after_append]
    exact Region.BeginsLine.code.after_line before'
  exact hline.eq_code h.inCode

/-- What stands before the place in its fragment ends with a line feed too. -/
theorem fragmentBefore_getLast? : (fragmentBefore before).getLast? = some '\n' := by
  obtain ⟨front, hfront⟩ := fragmentBefore_suffix before
  have hlast := h.getLast?
  rw [← hfront, List.getLast?_append] at hlast
  cases hx : (fragmentBefore before).getLast? with
  | none =>
    obtain ⟨c, hc, -⟩ := h.notFirst
    exact absurd (List.getLast?_eq_none_iff.1 hx) (List.ne_nil_of_mem hc)
  | some c => rwa [hx] at hlast

end CommentPlace

/-- Behind a comment line of code the scanner is in code again. -/
theorem Region.after_commentLine {comment : List Char} (h : '\n' ∉ comment) (after : List Char) :
    Region.code.after ('-' :: '-' :: comment ++ '\n' :: after) = Region.code.after after := by
  have hdashes : Region.code.after ('-' :: '-' :: comment ++ '\n' :: after) =
      Region.lineComment.after (comment ++ '\n' :: after) := rfl
  rw [hdashes, Region.after_append, (Region.lineComment_run h).1]
  rfl

section Insert

variable {before comment : List Char} (h : CommentPlace before) (hcomment : '\n' ∉ comment)
  (after : List Char)

include h hcomment

/-- The fragments of a script have the labels and bodies that they have with a comment line. -/
theorem map_ofText_insert :
    (fragmentsFrom .code (before ++ ('-' :: '-' :: comment ++ '\n' :: after))).map Fragment.ofText =
      (fragmentsFrom .code (before ++ after)).map Fragment.ofText := by
  have hbefore : fragmentsFrom .code before =
      (fragmentsFrom .code before).dropLast ++ [fragmentBefore before] :=
    (List.dropLast_concat_getLast (fragmentsFrom_ne_nil .code before)).symm
  obtain ⟨first, rest, hafter⟩ := List.exists_cons_of_ne_nil (fragmentsFrom_ne_nil .code after)
  have hwithout : fragmentsFrom (Region.code.after before) after = first :: rest := by
    rw [h.after_eq, hafter]
  have hwith : fragmentsFrom (Region.code.after before)
      ('-' :: '-' :: comment ++ '\n' :: after) =
        ('-' :: '-' :: comment ++ '\n' :: first) :: rest := by
    rw [h.after_eq, fragmentsFrom_comment hcomment hafter]
  rw [fragmentsFrom_append hbefore hwith, fragmentsFrom_append hbefore hwithout,
    List.map_append, List.map_append, List.map_cons, List.map_cons,
    Fragment.ofText_insert h.fragmentBefore_getLast? h.notFirst hcomment]

/-- A comment line, whatever it holds, does not change the statements of a script if it is put in
where a line of code begins and something that is not blank stands before it in its fragment. -/
theorem compile_insert_commentLine {script : String} {d : Dialect} {statements : List Statement}
    (hcompiles : compile script (before ++ after) d = .ok statements) :
    compile script (before ++ ('-' :: '-' :: comment ++ '\n' :: after)) d = .ok statements := by
  have hend : Region.code.after (before ++ ('-' :: '-' :: comment ++ '\n' :: after)) =
      Region.code.after (before ++ after) := by
    rw [Region.after_append, h.after_eq, Region.after_commentLine hcomment, Region.after_append,
      h.after_eq]
  have hbodies : bodies (fragmentsFrom .code (before ++ ('-' :: '-' :: comment ++ '\n' :: after))) =
      bodies (fragmentsFrom .code (before ++ after)) := by
    rw [bodies, bodies, map_ofText_insert h hcomment]
  cases hparts : fragments? (before ++ after) with
  | error e => simp [compile, hparts] at hcompiles
  | ok parts =>
    rw [compile_eq_ok hparts] at hcompiles
    obtain ⟨hcomplete, rfl⟩ := (fragments?_eq_ok_iff _ _).1 hparts
    have hinserted := (fragments?_eq_ok_iff _ _).2 ⟨hend ▸ hcomplete, rfl⟩
    rw [compile_eq_ok hinserted, hbodies, hcompiles]

end Insert

/-- A comment line that looks like the end of a literal, of a comment and of a statement, like a
label and like a slot. -/
theorem compile_insert_hostileComment :
    CommentPlace "-- @label: a\nselect 'it''s',\n".toList ∧
      '\n' ∉ " */ '; -- @label: b ?x? /* \"".toList ∧
      compile "s" ("-- @label: a\nselect 'it''s',\n".toList ++ " ?y?".toList) .sqlite =
        .ok [⟨0, "a", "select 'it''s',\n ?", ["y"], true, false, "s"⟩] ∧
      compile "s" ("-- @label: a\nselect 'it''s',\n".toList ++
          ('-' :: '-' :: " */ '; -- @label: b ?x? /* \"".toList ++ '\n' :: " ?y?".toList))
          .sqlite =
        .ok [⟨0, "a", "select 'it''s',\n ?", ["y"], true, false, "s"⟩] := by
  have hplace : CommentPlace "-- @label: a\nselect 'it''s',\n".toList :=
    ⟨by decide +kernel, by decide +kernel, '@', by decide +kernel, by decide⟩
  have hcomment : '\n' ∉ " */ '; -- @label: b ?x? /* \"".toList := by decide +kernel
  have hcompiles : compile "s" ("-- @label: a\nselect 'it''s',\n".toList ++ " ?y?".toList)
      .sqlite = .ok [⟨0, "a", "select 'it''s',\n ?", ["y"], true, false, "s"⟩] := by
    decide +kernel
  exact ⟨hplace, hcomment, hcompiles, compile_insert_commentLine hplace hcomment _ hcompiles⟩

end SqlRelay
