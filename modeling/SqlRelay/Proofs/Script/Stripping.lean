import SqlRelay.Proofs.Script.Lines
import SqlRelay.Proofs.Script.Matter
/-!
# What the body of a fragment keeps

Lines are left out of a body as they are written, while the scanner may read a line feed inside a
literal or a block comment.  A line that is left out of a literal was a part of it, and one that is
left out of a block comment may have ended it.

Main results:

- Theorem `keptFrom_iff`: what the lines of a text must be like for the kept ones to have its
  matter.
- Theorem `ofText_keepsSql_iff`: the same for the fragments of a script.
- Theorem `Fragment.keepsSql_of_lineFeeds`: line feeds of code and of line comments do no harm.
-/

namespace SqlRelay

/-- The regions that a line may begin in. -/
inductive Region.BeginsLine : Region → Prop
  | code : BeginsLine .code
  | comment : BeginsLine .blockComment
  | literal {quote : Char} (h : isQuote quote = true) : BeginsLine (.literal quote)

namespace Region

/-- Where a line begins the region is proper. -/
theorem BeginsLine.proper {r : Region} (h : r.BeginsLine) : r.Proper := by
  cases h with
  | code | comment => trivial
  | literal hquote => exact hquote

/-- A line begins behind each line feed. -/
theorem Proper.step_lineFeed {r : Region} (h : r.Proper) : (r.step '\n').BeginsLine := by
  cases r with
  | literal quote =>
    rw [step_literal h rfl]
    exact .literal h
  | code | dash | slash | lineComment => exact .code
  | blockComment | star => exact .comment

/-- Behind a line another one begins. -/
theorem BeginsLine.after_line {r : Region} (h : r.BeginsLine) (l : List Char) :
    ((r.after l).step '\n').BeginsLine :=
  (h.proper.after l).step_lineFeed

/-- Nothing is pending where a line begins. -/
theorem BeginsLine.pending {r : Region} (h : r.BeginsLine) : r.pending = [] := by
  cases h <;> rfl

/-- Behind a text of lines another line begins. -/
theorem BeginsLine.after_linesText {r : Region} (h : r.BeginsLine) (ls : List (List Char)) :
    (r.after (linesText ls)).BeginsLine := by
  induction ls generalizing r with
  | nil => exact h
  | cons l ls ih =>
    rw [linesText_cons, after_append, after_cons]
    exact ih (h.after_line l)

/-- Whether a place lies in a literal. -/
def isLiteral : Region → Bool
  | .literal _ => true
  | _ => false

end Region

/-- A line whose carriage return stands in a literal. -/
def LosesReturn (r : Region) (l : List Char) : Prop :=
  l.getLast? = some '\r' ∧ (r.after l).isLiteral = true

/-- Outside literals a carriage return makes no difference to a line feed. -/
theorem Region.return_lineFeed {r : Region} (h : r.isLiteral = false) :
    r.matterOf '\r' ++ (r.step '\r').matterOf '\n' = r.matterOf '\n' ∧
      (r.step '\r').step '\n' = r.step '\n' := by
  cases r with
  | literal quote => simp [isLiteral] at h
  | code | dash | slash | lineComment | blockComment | star => decide

/-- A carriage return neither opens nor closes a literal. -/
theorem Region.isLiteral_step_return {r : Region} (h : r.Proper) :
    (r.step '\r').isLiteral = r.isLiteral := by
  cases r with
  | literal quote => rw [step_literal h rfl]
  | code | dash | slash | lineComment | blockComment | star => rfl

/-- A line that is kept with its carriage return lost reads on as before, unless the carriage
return stood in a literal. -/
theorem read_dropReturn_iff {r : Region} (h : r.Proper) (l a b : List Char) :
    r.read (Text.dropReturn l ++ '\n' :: a) = r.read (l ++ '\n' :: b) ↔
      ¬ LosesReturn r l ∧ ((r.after l).step '\n').read a = ((r.after l).step '\n').read b := by
  rcases dropReturn_cases l with ⟨hsame, hlast⟩ | ⟨l', rfl⟩
  · rw [hsame, Region.read_append, Region.read_append, Region.read_cons, Region.read_cons]
    simp [LosesReturn, hlast]
  · have hlast : (l' ++ ['\r']).getLast? = some '\r' := by simp
    have hafter : r.after (l' ++ ['\r']) = (r.after l').step '\r' := by
      rw [Region.after_append, Region.after_cons, Region.after_nil]
    rw [dropReturn_append, List.append_assoc, Region.read_append, Region.read_append,
      List.append_cancel_left_eq, LosesReturn, hafter,
      Region.isLiteral_step_return (h.after l')]
    cases hliteral : (r.after l').isLiteral with
    | true =>
      -- the carriage return itself is read where the line feed should be
      have hquoted : ∀ c, (r.after l').matterOf c = [.quoted c] := by
        intro c
        cases hregion : r.after l' <;> simp_all [Region.isLiteral, Region.matterOf]
      simp [Region.read_cons, hquoted, hlast]
    | false =>
      obtain ⟨hmatter, hstep⟩ := Region.return_lineFeed hliteral
      rw [List.singleton_append, Region.read_cons, Region.read_cons, Region.read_cons,
        ← List.append_assoc, hmatter, hstep]
      simp

/-- A lost carriage return leads to the same region. -/
theorem step_lineFeed_dropReturn {r : Region} (h : r.Proper) (l : List Char) :
    (r.after (Text.dropReturn l)).step '\n' = (r.after l).step '\n' := by
  rcases dropReturn_cases l with ⟨hsame, -⟩ | ⟨l', rfl⟩
  · rw [hsame]
  · rw [dropReturn_append, Region.after_append, Region.after_cons, Region.after_nil]
    have hproper := h.after l'
    cases hliteral : (r.after l').isLiteral with
    | true =>
      cases hregion : r.after l' <;> simp_all [Region.isLiteral]
      rw [Region.step_literal hproper rfl, Region.step_literal hproper rfl,
        Region.step_literal hproper rfl]
    | false => exact (Region.return_lineFeed hliteral).2.symm

/-! ## Lines that are left out -/

/-- A line without matter that leads back to where it began. -/
def Passes (r : Region) (l : List Char) : Prop :=
  r.read (l ++ ['\n']) = [] ∧ (r.after l).step '\n' = r

/-- The kept lines of a text have its matter and are scanned to their end. -/
def KeptFrom (r : Region) (ls : List (List Char)) : Prop :=
  r.read (linesText (keptLines ls)) = r.read (linesText ls) ∧
    (r.after (linesText (keptLines ls))).isComplete = true

/-- What the lines of a text must be like for the kept ones to have its matter.  A line that is
kept loses no carriage return of a literal.  A line that is left out passes.

There is one case that cannot be read off the single lines, and for it the last alternative is
`KeptFrom` of the same lines, which is the property itself: a line of a block comment is left out
although it ends the comment, or has matter behind the end.  Then all that follows is scanned from
another region, and it may still come to the same matter, as when a later line ends the comment. -/
def LinesKept : Region → List (List Char) → Prop
  | _, [] => True
  | r, l :: ls =>
    if isSqlLine l then ¬ LosesReturn r l ∧ LinesKept ((r.after l).step '\n') ls
    else Passes r l ∧ LinesKept r ls ∨ ¬ Passes r l ∧ r = .blockComment ∧ KeptFrom r (l :: ls)

instance (r : Region) (l : List Char) : Decidable (LosesReturn r l) :=
  inferInstanceAs (Decidable (_ ∧ _))

instance (r : Region) (l : List Char) : Decidable (Passes r l) :=
  inferInstanceAs (Decidable (_ ∧ _))

instance (r : Region) (ls : List (List Char)) : Decidable (KeptFrom r ls) :=
  inferInstanceAs (Decidable (_ ∧ _))

instance LinesKept.decidable : (r : Region) → (ls : List (List Char)) → Decidable (LinesKept r ls)
  | _, [] => .isTrue trivial
  | r, l :: ls =>
    have : Decidable (LinesKept ((r.after l).step '\n') ls) := LinesKept.decidable _ ls
    have : Decidable (LinesKept r ls) := LinesKept.decidable r ls
    inferInstanceAs (Decidable (if isSqlLine l then _ else _))

/-- A line comment goes on to the end of its line. -/
theorem Region.lineComment_run {cs : List Char} (h : '\n' ∉ cs) :
    Region.lineComment.after cs = .lineComment ∧ Region.lineComment.read cs = [] := by
  induction cs with
  | nil => exact ⟨rfl, rfl⟩
  | cons c cs ih =>
    rw [List.mem_cons, not_or] at h
    have hstep : Region.lineComment.step c = .lineComment := by
      simp [step, Ne.symm h.1]
    rw [after_cons, read_cons, hstep]
    exact ih h.2

/-- In code, every line that is left out passes. -/
theorem passes_code {l : List Char} (h : isSqlLine l = false) (hl : '\n' ∉ l) :
    Passes .code l := by
  obtain ⟨ws, rest, rfl, hblank, hrest⟩ := shape_of_not_isSqlLine h
  obtain ⟨hafter, hread⟩ := Region.code_blanks hblank
  unfold Passes
  rw [List.append_assoc, Region.read_append, Region.after_append, hafter, hread]
  rcases hrest with rfl | ⟨comment, rfl⟩
  · decide
  · have hcomment : '\n' ∉ comment := by
      intro hmem
      exact hl (by simp [hmem])
    obtain ⟨hafter', hread'⟩ := Region.lineComment_run hcomment
    have hdashes : Region.code.after ['-', '-'] = .lineComment ∧
        Region.code.read ['-', '-'] = [] := by
      decide
    rw [List.append_assoc, Region.read_append, Region.after_append, hdashes.1, hdashes.2,
      Region.read_append, hafter', hread']
    decide

/-- A blank of a literal, other than a line feed. -/
def Matter.isIndent : Matter → Bool
  | .quoted c => Text.isBlank c && c != '\n'
  | .code _ => false

/-- What a literal holds behind the blanks in front. -/
theorem dropWhile_read_literal {quote : Char} (hquote : isQuote quote = true) {ws : List Char}
    (hblank : Text.AllBlank ws) (hws : '\n' ∉ ws) {c : Char} (rest : List Char)
    (hc : (Text.isBlank c && c != '\n') = false) :
    ((Region.literal quote).read (ws ++ c :: rest)).dropWhile Matter.isIndent =
      .quoted c :: ((Region.literal quote).step c).read rest := by
  induction ws with
  | nil =>
    exact List.dropWhile_cons_of_neg (by simp [Matter.isIndent, hc])
  | cons w ws ih =>
    rw [Text.allBlank_cons] at hblank
    rw [List.mem_cons, not_or] at hws
    have hindent : Matter.isIndent (.quoted w) = true := by
      simp [Matter.isIndent, hblank.1, Ne.symm hws.1]
    rw [List.cons_append, Region.read_cons,
      Region.step_literal hquote (ne_of_isBlank hblank.1).1]
    exact (List.dropWhile_cons_of_pos hindent).trans (ih hblank.2 hws.2)

/-- A line that is left out of a literal is missed: the next kept line begins otherwise. -/
theorem read_literal_ne {quote : Char} (hquote : isQuote quote = true) {l k : List Char}
    (hl : isSqlLine l = false) (hk : isSqlLine k = true) (hlfeed : '\n' ∉ l) (hkfeed : '\n' ∉ k)
    (a b : List Char) :
    (Region.literal quote).read (k ++ '\n' :: a) ≠
      (Region.literal quote).read (l ++ '\n' :: b) := by
  intro hread
  obtain ⟨ws, c, krest, rfl, hblank, hc, hdashes⟩ := shape_of_isSqlLine hk
  obtain ⟨vs, lrest, rfl, hblank', hlrest⟩ := shape_of_not_isSqlLine hl
  simp only [List.mem_append, not_or] at hkfeed hlfeed
  have hkeep := dropWhile_read_literal hquote hblank hkfeed.1 (krest ++ '\n' :: a)
    (show (Text.isBlank c && c != '\n') = false by simp [hc])
  rw [List.append_assoc, List.append_assoc, List.cons_append] at hread
  rw [hread] at hkeep
  rcases hlrest with rfl | ⟨comment, rfl⟩
  · have hleave := dropWhile_read_literal hquote hblank' hlfeed.1 b
      (show (Text.isBlank '\n' && '\n' != '\n') = false by decide)
    rw [List.nil_append, hleave, List.cons.injEq, Matter.quoted.injEq] at hkeep
    -- the kept line would begin with a line feed, which is a blank
    rw [← hkeep.1] at hc
    exact absurd hc (by decide)
  · have hleave := dropWhile_read_literal hquote hblank' hlfeed.1 ('-' :: comment ++ '\n' :: b)
      (show (Text.isBlank '-' && '-' != '\n') = false by decide)
    have hlist : ['-', '-'] ++ comment ++ '\n' :: b =
        '-' :: ('-' :: comment ++ '\n' :: b) := rfl
    rw [hlist, hleave, List.cons.injEq, Matter.quoted.injEq] at hkeep
    obtain ⟨rfl, hrest⟩ := hkeep
    -- both go on with a dash, so the kept line would begin with two
    rw [Region.step_literal hquote rfl] at hrest
    cases krest with
    | nil => simp [Region.read_cons, Region.matterOf] at hrest
    | cons d krest =>
      simp only [List.cons_append, Region.read_cons, Region.matterOf, List.nil_append,
        List.cons.injEq, Matter.quoted.injEq] at hrest
      rw [← hrest.1] at hdashes
      exact hdashes ⟨krest, rfl⟩

/-- The lines that are kept hold SQL and are taken from the text. -/
theorem of_mem_keptLines {ls : List (List Char)} {k : List Char} (h : k ∈ keptLines ls)
    (hls : ∀ l ∈ ls, '\n' ∉ l) : isSqlLine k = true ∧ '\n' ∉ k := by
  obtain ⟨l, hl, rfl⟩ := List.mem_map.1 h
  rw [List.mem_filter] at hl
  rw [isSqlLine_dropReturn]
  refine ⟨hl.2, ?_⟩
  rcases dropReturn_cases l with ⟨hsame, -⟩ | ⟨l', rfl⟩
  · rw [hsame]
    exact hls l hl.1
  · rw [dropReturn_append]
    exact fun hmem => hls _ hl.1 (by simp [hmem])

/-- No line may be left out of a literal. -/
theorem not_keptFrom_literal {quote : Char} (hquote : isQuote quote = true) {l : List Char}
    {ls : List (List Char)} (hl : isSqlLine l = false) (hls : ∀ x ∈ l :: ls, '\n' ∉ x) :
    ¬ KeptFrom (.literal quote) (l :: ls) := by
  rintro ⟨hread, hcomplete⟩
  rw [keptLines_cons_of_not hl] at hread hcomplete
  cases hkept : keptLines ls with
  | nil =>
    rw [hkept] at hcomplete
    exact absurd hcomplete (by simp [Region.isComplete])
  | cons k ks =>
    have hmem : k ∈ keptLines ls := by simp [hkept]
    obtain ⟨hk, hkfeed⟩ := of_mem_keptLines hmem fun x hx => hls x (by simp [hx])
    rw [hkept, linesText_cons, linesText_cons] at hread
    exact read_literal_ne hquote hl hk (hls l (by simp)) hkfeed _ _ hread

/-- A line that is kept. -/
theorem keptFrom_cons_of_isSqlLine {r : Region} (hr : r.Proper) {l : List Char}
    (hl : isSqlLine l = true) (ls : List (List Char)) :
    KeptFrom r (l :: ls) ↔ ¬ LosesReturn r l ∧ KeptFrom ((r.after l).step '\n') ls := by
  unfold KeptFrom
  rw [keptLines_cons_of_isSqlLine hl, linesText_cons, linesText_cons, read_dropReturn_iff hr,
    Region.after_append, Region.after_cons, step_lineFeed_dropReturn hr, and_assoc]

/-- A line that is left out and passes. -/
theorem keptFrom_cons_of_passes {r : Region} {l : List Char} (hl : isSqlLine l = false)
    (hpasses : Passes r l) (ls : List (List Char)) :
    KeptFrom r (l :: ls) ↔ KeptFrom r ls := by
  have hread : r.read (linesText (l :: ls)) = r.read (linesText ls) := by
    have hline : linesText (l :: ls) = (l ++ ['\n']) ++ linesText ls := by simp
    rw [hline, Region.read_append, hpasses.1, Region.after_append, Region.after_cons,
      Region.after_nil, hpasses.2, List.nil_append]
  unfold KeptFrom
  rw [keptLines_cons_of_not hl, hread]

/-- The kept lines of a text have its matter exactly if none of its lines is missed. -/
theorem keptFrom_iff {r : Region} (hr : r.BeginsLine) {ls : List (List Char)}
    (hls : ∀ l ∈ ls, '\n' ∉ l) (hend : (r.after (linesText ls)).isComplete = true) :
    KeptFrom r ls ↔ LinesKept r ls := by
  induction ls generalizing r with
  | nil =>
    constructor
    · exact fun _ => trivial
    · exact fun _ => ⟨rfl, hend⟩
  | cons l ls ih =>
    have hrest : ∀ x ∈ ls, '\n' ∉ x := fun x hx => hls x (by simp [hx])
    rw [linesText_cons, Region.after_append, Region.after_cons] at hend
    unfold LinesKept
    cases hl : isSqlLine l with
    | true =>
      rw [if_pos rfl, keptFrom_cons_of_isSqlLine hr.proper hl, ih (hr.after_line l) hrest hend]
    | false =>
      rw [if_neg (by simp)]
      by_cases hpasses : Passes r l
      · rw [hpasses.2] at hend
        rw [keptFrom_cons_of_passes hl hpasses, ih hr hrest hend]
        simp [hpasses]
      · cases hr with
        | code => exact absurd (passes_code hl (hls l (by simp))) hpasses
        | comment => simp [hpasses]
        | literal hquote => simp [hpasses, not_keptFrom_literal hquote hl hls]

/-! ## Fragments of a script -/

/-- A text of lines is kept if its kept lines have its matter. -/
theorem keepsSql_linesText_iff (ls : List (List Char)) :
    KeepsSql (linesText ls) (linesText (keptLines ls)) ↔ KeptFrom .code ls := by
  unfold KeepsSql KeptFrom matter
  rw [(Region.BeginsLine.code.after_linesText ls).pending,
    (Region.BeginsLine.code.after_linesText (keptLines ls)).pending, List.append_nil,
    List.append_nil]

/-- The text of the lines of a fragment is the fragment, up to the blanks around it. -/
theorem trim_fragmentLines (part : List Char) :
    Text.trim (linesText (fragmentLines part)) = Text.trim (Text.trim part) := by
  rw [trim_linesText, fragmentLines, Text.unlines, Text.cut_join]

/-- The body of a fragment that is scanned to its end keeps its SQL exactly if none of its lines is
missed. -/
theorem Fragment.keepsSql_iff {part : List Char}
    (h : (Region.code.after part).isComplete = true) :
    KeepsSql part (Fragment.ofText part).body ↔ LinesKept .code (fragmentLines part) := by
  have htrim : (Region.code.after (Text.trim part)).isComplete = true := by
    rwa [isComplete_trim]
  have hlines : (Region.code.after (linesText (fragmentLines part))).isComplete = true := by
    rwa [← isComplete_trim, trim_fragmentLines, isComplete_trim]
  have hfeeds : ∀ l ∈ fragmentLines part, '\n' ∉ l := fun l => Text.not_mem_of_mem_cut
  calc KeepsSql part (Fragment.ofText part).body
      ↔ KeepsSql (Text.trim (Text.trim part)) (linesText (keptLines (fragmentLines part))) := by
        rw [Fragment.body_eq, keepsSql_trim_right_iff, keepsSql_trim_left_iff htrim,
          keepsSql_trim_left_iff h]
    _ ↔ KeepsSql (linesText (fragmentLines part)) (linesText (keptLines (fragmentLines part))) := by
        rw [← trim_fragmentLines, keepsSql_trim_left_iff hlines]
    _ ↔ LinesKept .code (fragmentLines part) := by
        rw [keepsSql_linesText_iff, keptFrom_iff .code hfeeds hlines]

/-- The bodies of the fragments of a script keep their SQL exactly if no line is missed. -/
theorem ofText_keepsSql_iff {text : List Char} {parts : List (List Char)}
    (h : fragments? text = .ok parts) {part : List Char} (hpart : part ∈ parts) :
    KeepsSql part (Fragment.ofText part).body ↔ LinesKept .code (fragmentLines part) :=
  Fragment.keepsSql_iff (isComplete_of_mem_fragments h hpart)

/-- A comment line and a blank line of code are left out of the body, and nothing else is. -/
theorem ofText_keepsSql_of_comment :
    fragments? "SELECT 1, -- one\n\n-- two\n2".toList =
        .ok ["SELECT 1, -- one\n\n-- two\n2".toList] ∧
      KeepsSql "SELECT 1, -- one\n\n-- two\n2".toList
        (Fragment.ofText "SELECT 1, -- one\n\n-- two\n2".toList).body := by
  have hparts : fragments? "SELECT 1, -- one\n\n-- two\n2".toList =
      .ok ["SELECT 1, -- one\n\n-- two\n2".toList] := by
    decide +kernel
  exact ⟨hparts, (ofText_keepsSql_iff hparts List.mem_cons_self).2 (by decide +kernel)⟩

/-- A line of a literal that begins with two dashes is lost. -/
theorem ofText_loses_line_of_literal :
    ¬ ∀ (text : List Char) (parts : List (List Char)), fragments? text = .ok parts →
      ∀ part ∈ parts, KeepsSql part (Fragment.ofText part).body := by
  intro h
  have hparts : fragments? "INSERT INTO t VALUES ('a\n-- b\nc')".toList =
      .ok ["INSERT INTO t VALUES ('a\n-- b\nc')".toList] := by
    decide +kernel
  have hkept := h _ _ hparts _ List.mem_cons_self
  revert hkept
  decide +kernel

/-! ## Line feeds that do no harm -/

/-- Lines are kept if no line feed stands in a literal or a block comment. -/
theorem linesKept_of_lineFeeds {ls : List (List Char)} (hls : ∀ l ∈ ls, '\n' ∉ l)
    (h : ∀ before after, linesText ls = before ++ '\n' :: after →
      (Region.code.after before).isComplete = true) : LinesKept .code ls := by
  induction ls with
  | nil => trivial
  | cons l ls ih =>
    have hcomplete := h l (linesText ls) (linesText_cons l ls)
    have hcode : (Region.code.after l).isLiteral = false ∧
        (Region.code.after l).step '\n' = .code := by
      revert hcomplete
      cases Region.code.after l <;> simp [Region.isComplete, Region.isLiteral] <;> rfl
    have hrest : LinesKept .code ls := by
      refine ih (fun x hx => hls x (by simp [hx])) fun before after hsplit => ?_
      have := h (l ++ '\n' :: before) after (by simp [hsplit])
      rwa [Region.after_append, Region.after_cons, hcode.2] at this
    unfold LinesKept
    cases hl : isSqlLine l with
    | true => simp [LosesReturn, hcode, hrest]
    | false => simp [passes_code hl (hls l (by simp)), hrest]

/-- A fragment keeps its SQL if no line feed of it stands in a literal or a block comment. -/
theorem Fragment.keepsSql_of_lineFeeds {part : List Char}
    (h : (Region.code.after part).isComplete = true)
    (hfeeds : ∀ before after, Text.trim part = before ++ '\n' :: after →
      (Region.code.after before).isComplete = true) :
    KeepsSql part (Fragment.ofText part).body := by
  have hlines : linesText (fragmentLines part) = Text.trim part ++ ['\n'] := by
    rw [fragmentLines, linesText_eq (Text.cut_ne_nil _ _), Text.unlines, Text.cut_join]
  refine (Fragment.keepsSql_iff h).2 (linesKept_of_lineFeeds (fun l => Text.not_mem_of_mem_cut) ?_)
  intro before after hsplit
  rw [hlines] at hsplit
  -- the line feed is the one put behind the fragment, or one of the fragment
  rcases List.eq_nil_or_concat after with rfl | ⟨after', c, rfl⟩
  · obtain ⟨hbefore, -⟩ := List.append_inj' hsplit rfl
    rwa [← hbefore, isComplete_trim]
  · rw [List.concat_eq_append, ← List.cons_append, ← List.append_assoc] at hsplit
    exact hfeeds before after' (List.append_inj' hsplit rfl).1

end SqlRelay
