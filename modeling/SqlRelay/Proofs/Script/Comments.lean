import SqlRelay.Proofs.Script.CommentLines
import SqlRelay.Proofs.Script.Slots
/-!
# Comments that are statements

A fragment without a line that holds SQL gives no statement, and a line that begins with two dashes
holds none.  A line that begins with a block comment counts as one that holds SQL, so a fragment of
block comments gives a statement of comments only.

Main results:

- Definition `HoldsSql`: a text has a character outside comments that is not blank.
- Definition `Comments`: the texts of blanks and comments.
- Theorem `holdsSql_iff`: the scanner finds nothing but comments exactly in these texts.
- Theorem `keptText_cases`: how a body begins.
- Theorem `statements_holdSql_iff`: which statements hold no SQL, and which fragments give none.
-/

namespace SqlRelay

/-- A character of matter. -/
def Matter.char : Matter → Char
  | .quoted c | .code c => c

/-- A text has a character outside comments that is not blank. -/
def HoldsSql (cs : List Char) : Prop :=
  ∃ m ∈ matter cs, Text.isBlank m.char = false

instance (cs : List Char) : Decidable (HoldsSql cs) :=
  inferInstanceAs (Decidable (∃ m ∈ matter cs, _))

/-- Texts of blanks, of comments that go on to the end of their line and of block comments; the
last comment may be open. -/
inductive Comments : List Char → Prop
  | nil : Comments []
  | blank {c : Char} {rest : List Char} (hblank : Text.isBlank c = true) (hrest : Comments rest) :
      Comments (c :: rest)
  | line {comment rest : List Char} (hline : '\n' ∉ comment) (hrest : Comments rest) :
      Comments ('-' :: '-' :: comment ++ '\n' :: rest)
  | openLine {comment : List Char} (hline : '\n' ∉ comment) : Comments ('-' :: '-' :: comment)
  | block {inside rest : List Char} (hinside : ¬ ['*', '/'] <:+: inside ++ ['*'])
      (hrest : Comments rest) : Comments ('/' :: '*' :: inside ++ '*' :: '/' :: rest)
  | openBlock {inside : List Char} (hinside : ¬ ['*', '/'] <:+: inside) :
      Comments ('/' :: '*' :: inside)

/-- A text that leads from code to code and has no matter. -/
structure Passing (cs : List Char) : Prop where
  after_eq : Region.code.after cs = .code
  read_eq : Region.code.read cs = []

/-- What stands in front of a text may pass. -/
theorem Passing.matter_append {a : List Char} (h : Passing a) (b : List Char) :
    matter (a ++ b) = matter b := by
  rw [matter, Region.read_append, Region.after_append, h.after_eq, h.read_eq, List.nil_append]
  rfl

theorem passing_blank {c : Char} (h : Text.isBlank c = true) : Passing [c] := by
  have hblank : Text.AllBlank [c] := by simp [h]
  obtain ⟨hafter, hread⟩ := Region.code_blanks hblank
  exact ⟨hafter, hread⟩

/-- A line comment with its line feed passes. -/
theorem passing_line {comment : List Char} (h : '\n' ∉ comment) :
    Passing ('-' :: '-' :: comment ++ ['\n']) := by
  have hfeed : '\n' ∉ '-' :: '-' :: comment := by simpa using h
  obtain ⟨hread, hafter⟩ := passes_code (isSqlLine_dashes comment) hfeed
  refine ⟨?_, hread⟩
  rw [Region.after_append]
  exact hafter

/-- A block comment goes on until it is closed. -/
theorem Region.blockComment_run {inside : List Char} (h : ¬ ['*', '/'] <:+: inside) :
    Region.blockComment.after inside =
        (if inside.getLast? = some '*' then .star else .blockComment) ∧
      Region.blockComment.read inside = [] := by
  induction inside using List.reverseRecOn with
  | nil => exact ⟨rfl, rfl⟩
  | append_singleton inside c ih =>
    rw [closes_snoc_iff, not_or, not_and] at h
    obtain ⟨hafter, hread⟩ := ih h.1
    rw [Region.read_append, Region.after_append, hread, hafter]
    by_cases hlast : inside.getLast? = some '*'
    · rw [if_pos hlast]
      refine ⟨?_, rfl⟩
      simp [Region.step, h.2 hlast]
    · rw [if_neg hlast]
      refine ⟨?_, rfl⟩
      simp [Region.step]

/-- A block comment passes. -/
theorem passing_block {inside : List Char} (h : ¬ ['*', '/'] <:+: inside ++ ['*']) :
    Passing ('/' :: '*' :: inside ++ ['*', '/']) := by
  obtain ⟨hafter, hread⟩ := Region.blockComment_run h
  have hstar : Region.blockComment.after (inside ++ ['*']) = .star := by
    rw [hafter, if_pos (by simp)]
  have hsplit : '/' :: '*' :: inside ++ ['*', '/'] =
      '/' :: '*' :: ((inside ++ ['*']) ++ ['/']) := by simp
  rw [hsplit]
  constructor
  · have hmark : Region.code.after ('/' :: '*' :: ((inside ++ ['*']) ++ ['/'])) =
        Region.blockComment.after ((inside ++ ['*']) ++ ['/']) := rfl
    rw [hmark, Region.after_append, hstar]
    rfl
  · have hmark : Region.code.read ('/' :: '*' :: ((inside ++ ['*']) ++ ['/'])) =
        Region.blockComment.read ((inside ++ ['*']) ++ ['/']) := rfl
    rw [hmark, Region.read_append, hread, hstar]
    rfl

/-- Texts of comments have no matter. -/
theorem Comments.matter_eq_nil {cs : List Char} (h : Comments cs) : matter cs = [] := by
  induction h with
  | nil => rfl
  | @blank c rest hblank _ ih =>
    rw [← ih]
    exact (passing_blank hblank).matter_append rest
  | @line comment rest hline _ ih =>
    rw [← ih, ← (passing_line hline).matter_append rest]
    simp
  | @openLine comment hline =>
    have hmark : matter ('-' :: '-' :: comment) =
        Region.lineComment.read comment ++ (Region.lineComment.after comment).pending := rfl
    obtain ⟨hafter, hread⟩ := Region.lineComment_run hline
    rw [hmark, hread, hafter]
    rfl
  | @block inside rest hinside _ ih =>
    rw [← ih, ← (passing_block hinside).matter_append rest]
    simp
  | @openBlock inside hinside =>
    have hmark : matter ('/' :: '*' :: inside) =
        Region.blockComment.read inside ++ (Region.blockComment.after inside).pending := rfl
    obtain ⟨hafter, hread⟩ := Region.blockComment_run hinside
    rw [hmark, hread, hafter]
    split_ifs <;> rfl

/-! ## Finding comments -/

/-- A block comment is closed at the first slash behind a star. -/
theorem exists_close (cs : List Char) : ¬ ['*', '/'] <:+: cs ∨
    ∃ inside rest, cs = inside ++ '*' :: '/' :: rest ∧ ¬ ['*', '/'] <:+: inside ++ ['*'] := by
  induction cs with
  | nil => simp
  | cons c cs ih =>
    by_cases hclose : ∃ rest, c :: cs = '*' :: '/' :: rest
    · obtain ⟨rest, hrest⟩ := hclose
      exact .inr ⟨[], rest, hrest, by decide⟩
    · rcases ih with hnone | ⟨inside, rest, rfl, hinside⟩
      · left
        rw [List.infix_cons_iff, not_or]
        refine ⟨?_, hnone⟩
        rintro ⟨rest, hrest⟩
        exact hclose ⟨rest, hrest.symm⟩
      · right
        refine ⟨c :: inside, rest, rfl, ?_⟩
        rw [List.cons_append, List.infix_cons_iff, not_or]
        refine ⟨?_, hinside⟩
        -- the star at the end is none of this mark, so the text goes on with the slash itself
        rintro ⟨behind, hbehind⟩
        obtain ⟨rfl, htail⟩ := List.cons.inj hbehind
        cases inside with
        | nil => simp at htail
        | cons d inside =>
          obtain ⟨rfl, -⟩ := List.cons.inj htail
          exact hclose ⟨inside ++ '*' :: '/' :: rest, rfl⟩

/-- A character of code that is not blank and begins no comment is SQL. -/
theorem holdsSql_cons {c : Char} {cs : List Char} (hblank : Text.isBlank c = false)
    (hline : ¬ ['-', '-'] <+: c :: cs) (hblock : ¬ ['/', '*'] <+: c :: cs) :
    HoldsSql (c :: cs) := by
  suffices hmem : .quoted c ∈ matter (c :: cs) ∨ .code c ∈ matter (c :: cs) by
    rcases hmem with hmem | hmem
    · exact ⟨_, hmem, hblank⟩
    · exact ⟨_, hmem, hblank⟩
  have hmatter : matter (c :: cs) = Region.enterMatter c ++
      ((Region.enter c).read cs ++ ((Region.enter c).after cs).pending) := by
    simp [matter, Region.read_cons, Region.matterOf, Region.step]
  by_cases hquote : isQuote c = true
  · left
    simp [hmatter, Region.enterMatter, hquote]
  · right
    by_cases hdash : c = '-'
    · subst hdash
      cases cs with
      | nil => decide
      | cons d cs =>
        have hd : d ≠ '-' := by
          rintro rfl
          exact hline ⟨cs, rfl⟩
        have henter : Region.enter '-' = .dash := rfl
        simp [hmatter, henter, Region.read_cons, Region.matterOf, hd]
    · by_cases hslash : c = '/'
      · subst hslash
        cases cs with
        | nil => decide
        | cons d cs =>
          have hd : d ≠ '*' := by
            rintro rfl
            exact hblock ⟨cs, rfl⟩
          have henter : Region.enter '/' = .slash := rfl
          simp [hmatter, henter, Region.read_cons, Region.matterOf, hd]
      · simp [hmatter, Region.enterMatter, hquote, hdash, hslash, hblank]

/-- A text is made of comments, or it holds SQL. -/
theorem comments_or_holdsSql (cs : List Char) : Comments cs ∨ HoldsSql cs := by
  induction hlength : cs.length using Nat.strong_induction_on generalizing cs with
  | _ n ih =>
    -- behind a blank or a comment that is closed, a shorter text goes on
    have behind : ∀ {a b}, Passing a → a ≠ [] → cs = a ++ b → (Comments b → Comments cs) →
        Comments cs ∨ HoldsSql cs := by
      intro a b hpassing hne hsplit hcomments
      have hshorter : b.length < n := by
        have hpos := List.length_pos_iff.2 hne
        rw [← hlength, hsplit, List.length_append]
        omega
      have hmatter : matter cs = matter b := hsplit ▸ hpassing.matter_append b
      rcases ih _ hshorter b rfl with hrest | ⟨m, hm, hblank⟩
      · exact .inl (hcomments hrest)
      · exact .inr ⟨m, hmatter ▸ hm, hblank⟩
    by_cases hline : ['-', '-'] <+: cs
    · obtain ⟨text, rfl⟩ := hline
      by_cases hfeed : '\n' ∈ text
      · obtain ⟨comment, rest, rfl, hcomment⟩ := List.eq_append_cons_of_mem hfeed
        exact behind (passing_line hcomment) (by simp) (by simp) (.line hcomment)
      · exact .inl (.openLine hfeed)
    · by_cases hblock : ['/', '*'] <+: cs
      · obtain ⟨text, rfl⟩ := hblock
        rcases exists_close text with hopen | ⟨inside, rest, rfl, hinside⟩
        · exact .inl (.openBlock hopen)
        · exact behind (passing_block hinside) (by simp) (by simp) (.block hinside)
      · cases cs with
        | nil => exact .inl .nil
        | cons c rest =>
          cases hblank : Text.isBlank c with
          | true => exact behind (passing_blank hblank) (by simp) rfl (.blank hblank)
          | false => exact .inr (holdsSql_cons hblank hline hblock)

/-- The scanner finds nothing but comments exactly in texts of comments. -/
theorem holdsSql_iff (cs : List Char) : HoldsSql cs ↔ ¬ Comments cs := by
  constructor
  · rintro ⟨m, hm, -⟩ hcomments
    rw [hcomments.matter_eq_nil] at hm
    exact absurd hm (by simp)
  · intro hnot
    exact (comments_or_holdsSql cs).resolve_left hnot

/-! ## Bodies and statements -/

/-- A body is empty if no line holds SQL, or else it begins with a character that is neither blank
nor the beginning of a comment to the end of its line. -/
theorem keptText_cases (cs : List Char) :
    (keptText cs = [] ∧ ∀ l ∈ Text.cut (· == '\n') cs, isSqlLine l = false) ∨
      (∃ l ∈ Text.cut (· == '\n') cs, isSqlLine l = true) ∧ ∃ c rest,
        keptText cs = c :: rest ∧ Text.isBlank c = false ∧ ¬ ['-', '-'] <+: c :: rest := by
  cases hkept : keptLines (Text.cut (· == '\n') cs) with
  | nil =>
    left
    constructor
    · rw [keptText, hkept]
      rfl
    · intro l hl
      cases hsql : isSqlLine l with
      | false => rfl
      | true =>
        have hmem : Text.dropReturn l ∈ keptLines (Text.cut (· == '\n') cs) :=
          List.mem_map_of_mem (List.mem_filter.2 ⟨hl, hsql⟩)
        rw [hkept] at hmem
        exact absurd hmem (by simp)
  | cons k ks =>
    right
    have hk : k ∈ keptLines (Text.cut (· == '\n') cs) := by simp [hkept]
    constructor
    · obtain ⟨l, hl, -⟩ := List.mem_map.1 hk
      exact ⟨l, List.mem_filter.1 hl⟩
    · obtain ⟨hsql, hfeed⟩ := of_mem_keptLines hk fun _ => Text.not_mem_of_mem_cut
      obtain ⟨ws, c, line, rfl, hws, hc, hdashes⟩ := shape_of_isSqlLine hsql
      have htext : keptText cs = Text.trimEnd (c :: (line ++ '\n' :: linesText ks)) := by
        rw [keptText, hkept, linesText_cons, List.append_assoc, Text.trim_blanks_append hws,
          List.cons_append, Text.trim, Text.trimStart, List.dropWhile_cons_of_neg (by simp [hc])]
      obtain ⟨rest, htrim, hrest⟩ :=
        Text.trimEnd_cons_of_not_blank hc (line ++ '\n' :: linesText ks)
      refine ⟨c, rest, htext.trans htrim, hc, ?_⟩
      intro hbegins
      have hwhole : ['-', '-'] <+: c :: (line ++ '\n' :: linesText ks) :=
        hbegins.trans ((List.prefix_cons_inj c).2 hrest)
      cases line with
      | nil => simp [List.cons_prefix_cons] at hwhole
      | cons d line => exact hdashes (by simpa [List.cons_prefix_cons] using hwhole)

/-- A body of comments begins with a block comment. -/
theorem Comments.block_prefix {c : Char} {rest : List Char} (h : Comments (c :: rest))
    (hblank : Text.isBlank c = false) (hdashes : ¬ ['-', '-'] <+: c :: rest) :
    ['/', '*'] <+: c :: rest := by
  cases h with
  | blank hc => exact absurd hc (by simp [hblank])
  | line | openLine => exact absurd (by simp [List.cons_prefix_cons]) hdashes
  | block | openBlock => simp [List.cons_prefix_cons]

/-- Every line of a fragment is blank, or it begins with two dashes after blanks. -/
def LineComments (part : List Char) : Prop :=
  ∀ l ∈ Text.cut (· == '\n') part, Text.trim l = [] ∨ ['-', '-'] <+: Text.trim l

/-- A fragment gives no statement exactly if its lines hold nothing but line comments. -/
theorem Fragment.body_eq_nil_iff (part : List Char) :
    (Fragment.ofText part).body = [] ↔ LineComments part := by
  have hlines : LineComments part ↔
      ∀ l ∈ Text.cut (· == '\n') part, isSqlLine l = false := by
    simp only [LineComments, isSqlLine_eq_false_iff]
  rw [Fragment.body_eq_keptText, hlines]
  rcases keptText_cases part with ⟨hempty, hnone⟩ | ⟨⟨l, hl, hsql⟩, c, rest, hbody, -⟩
  · exact ⟨fun _ => hnone, fun _ => hempty⟩
  · rw [hbody]
    constructor
    · intro h
      exact absurd h (by simp)
    · intro hnone
      exact absurd (hnone l hl) (by simp [hsql])

/-- A body holds no SQL exactly if it begins with a block comment and goes on with blanks and
comments only. -/
theorem bodies_holdSql_iff {parts : List (List Char)} {f : Fragment} (h : f ∈ bodies parts) :
    HoldsSql f.body ↔ ¬ (['/', '*'] <+: f.body ∧ Comments f.body) := by
  obtain ⟨hf, hne⟩ := List.mem_filter.1 h
  obtain ⟨part, -, rfl⟩ := List.mem_map.1 hf
  rw [Fragment.body_eq_keptText] at hne ⊢
  rcases keptText_cases part with ⟨hempty, -⟩ | ⟨-, c, rest, hbody, hblank, hdashes⟩
  · exact absurd hne (by simp [hempty])
  · rw [hbody, holdsSql_iff, not_iff_not]
    constructor
    · intro hcomments
      exact ⟨hcomments.block_prefix hblank hdashes, hcomments⟩
    · exact And.right

/-- No statement is left exactly if all parts are line comments. -/
theorem bodies_eq_nil_iff (parts : List (List Char)) :
    bodies parts = [] ↔ ∀ part ∈ parts, LineComments part := by
  simp [bodies, Fragment.body_eq_nil_iff]

/-- The statements of a script are written from bodies that hold SQL, but for those that begin with
a block comment and go on with blanks and comments only.  Behind a semicolon at its end, nothing is
sent in addition exactly if all lines are blank or begin with two dashes. -/
theorem statements_holdSql_iff {text : List Char} {parts : List (List Char)}
    (h : fragments? text = .ok parts) (script : String) (d : Dialect) :
    ∃ statements, compile script text d = .ok statements ∧
      statements.map Statement.written =
        (bodies parts).map (fun f => (Template.ofBody f.body).written d) ∧
      (∀ f ∈ bodies parts, HoldsSql f.body ↔ ¬ (['/', '*'] <+: f.body ∧ Comments f.body)) ∧
      ((Region.code.after text).isCode = true → ∀ b rest, fragments? b = .ok rest →
        (compile script (text ++ ';' :: b) d = .ok statements ↔
          ∀ part ∈ rest, LineComments part)) := by
  refine ⟨_, compile_eq_ok h script d, statementsFrom_written script d 0 _,
    fun f => bodies_holdSql_iff, ?_⟩
  intro hcode b rest hb
  have hjoin := fragments?_join hcode b
  rw [hb, ← ((fragments?_eq_ok_iff text parts).1 h).2] at hjoin
  rw [compile_eq_ok hjoin, bodies_append, statementsFrom_append, Except.ok.injEq,
    List.append_right_eq_self, ← List.length_eq_zero_iff, length_statementsFrom,
    List.length_eq_zero_iff, bodies_eq_nil_iff]

/-- A literal of a blank is SQL, and so is a slash between comments. -/
theorem statements_holdSql_between_comments :
    fragments? "-- one\n' ' /* two */; / -- three\n".toList =
        .ok ["-- one\n' ' /* two */".toList, " / -- three\n".toList] ∧
      ∃ statements, compile "s" "-- one\n' ' /* two */; / -- three\n".toList .sqlite =
          .ok statements ∧
        statements.map Statement.written =
          (bodies ["-- one\n' ' /* two */".toList, " / -- three\n".toList]).map
            (fun f => (Template.ofBody f.body).written .sqlite) ∧
        (∀ f ∈ bodies ["-- one\n' ' /* two */".toList, " / -- three\n".toList],
          HoldsSql f.body ↔ ¬ (['/', '*'] <+: f.body ∧ Comments f.body)) ∧
        ((Region.code.after "-- one\n' ' /* two */; / -- three\n".toList).isCode = true →
          ∀ b rest, fragments? b = .ok rest →
            (compile "s" ("-- one\n' ' /* two */; / -- three\n".toList ++ ';' :: b) .sqlite =
              .ok statements ↔ ∀ part ∈ rest, LineComments part)) := by
  have hparts : fragments? "-- one\n' ' /* two */; / -- three\n".toList =
      .ok ["-- one\n' ' /* two */".toList, " / -- three\n".toList] := by
    decide +kernel
  exact ⟨hparts, statements_holdSql_iff hparts "s" .sqlite⟩

/-- A block comment behind the last semicolon is a statement. -/
theorem blockComment_is_statement :
    ¬ ∀ (text : List Char) (parts : List (List Char)), fragments? text = .ok parts →
      ∀ f ∈ bodies parts, HoldsSql f.body := by
  intro h
  have hparts : fragments? "SELECT 1; /* done */".toList =
      .ok ["SELECT 1".toList, " /* done */".toList] := by
    decide +kernel
  have hbody : ⟨none, "/* done */".toList⟩ ∈
      bodies ["SELECT 1".toList, " /* done */".toList] := by
    decide +kernel
  have hsql := h _ _ hparts _ hbody
  revert hsql
  decide +kernel

end SqlRelay
