import Mathlib.Data.List.Induction
import Mathlib.Tactic.SplitIfs
import SqlRelay.Proofs.Script.Reading
/-!
# Exact cutting

A script is cut at the semicolons of its code and nowhere else: every part starts in code, and
alone it is cut to itself.  A script that cannot be cut has a literal or a block comment that is
not closed, and the error tells where it begins.

Main results:

- Theorem `fragmentsFrom_append`: of two texts, the last part of the first and the first part of
  the second become one part.
- Theorem `fragmentsFrom_eq_singleton_iff`: a text is one part exactly if no semicolon of it stands
  in code.
- Theorem `openedAt_scan`: where the literal or comment begins that a scan ends in.
- Theorem `fragments?_cutsExactly`: what the parts of a script are like, and what its error says.
-/

namespace SqlRelay

/-- A text goes on with its parts as it is read: the last part before a place and the first part
behind it are one part. -/
theorem fragmentsFrom_append {r : Region} {a b last first : List Char}
    {init rest : List (List Char)} (ha : fragmentsFrom r a = init ++ [last])
    (hb : fragmentsFrom (r.after a) b = first :: rest) :
    fragmentsFrom r (a ++ b) = init ++ (last ++ first) :: rest := by
  induction a generalizing r init last with
  | nil =>
    have hempty : [] ++ [[]] = init ++ [last] := ha
    obtain ⟨rfl, hlast⟩ := List.append_inj' hempty rfl
    obtain rfl : [] = last := (List.cons.inj hlast).1
    exact hb
  | cons c a ih =>
    rw [Region.after_cons] at hb
    rcases fragmentsFrom_cons r c a with ⟨hcode, rfl, hcut⟩ | ⟨hnot, part, parts, htail, hparts⟩
    · rw [Region.step_semicolon hcode] at hb
      rw [hcut] at ha
      cases init with
      | nil => exact absurd (List.cons.inj ha).2 (fragmentsFrom_ne_nil _ _)
      | cons part init =>
        obtain ⟨rfl, hinit⟩ := List.cons.inj ha
        rw [List.cons_append, fragmentsFrom, if_pos (by simp [hcode]), ih hinit hb]
        rfl
    · rw [hparts] at ha
      have hrest : ∀ init last, part :: parts = init ++ [last] →
          fragmentsFrom r (c :: a ++ b) =
            Text.extendFirst c (init ++ (last ++ first) :: rest) := by
        intro init last hsplit
        rw [List.cons_append, fragmentsFrom, if_neg (by simpa using hnot),
          ih (htail.trans hsplit) hb]
      cases init with
      | nil =>
        obtain ⟨rfl, rfl⟩ := List.cons.inj ha
        exact hrest [] part rfl
      | cons next init =>
        obtain ⟨rfl, rfl⟩ := List.cons.inj ha
        exact hrest (part :: init) last rfl

/-- A text is one part exactly if no semicolon of it stands in code. -/
theorem fragmentsFrom_eq_singleton_iff (r : Region) (cs : List Char) :
    fragmentsFrom r cs = [cs] ↔
      ∀ before after, cs = before ++ ';' :: after → (r.after before).isCode = false := by
  induction cs generalizing r with
  | nil => simp [fragmentsFrom]
  | cons c cs ih =>
    rcases fragmentsFrom_cons r c cs with ⟨hcode, rfl, hcut⟩ | ⟨hnot, part, parts, htail, hparts⟩
    · have hhere : ¬ ∀ before after, ';' :: cs = before ++ ';' :: after →
          (r.after before).isCode = false := by
        intro h
        have hfirst := h [] cs rfl
        rw [Region.after_nil, hcode] at hfirst
        exact Bool.noConfusion hfirst
      simp [hcut, hhere]
    · have htail' : fragmentsFrom r (c :: cs) = [c :: cs] ↔
          fragmentsFrom (r.step c) cs = [cs] := by
        simp [hparts, htail]
      rw [htail', ih]
      constructor
      · intro h before after hsplit
        cases before with
        | nil =>
          have hc : c = ';' := (List.cons.inj hsplit).1
          exact Bool.eq_false_iff.2 fun hcode => hnot hcode hc
        | cons d before =>
          obtain ⟨rfl, hrest⟩ := List.cons.inj hsplit
          exact h before after hrest
      · intro h before after hsplit
        exact h (c :: before) after (by rw [hsplit, List.cons_append])

/-- Each part of a text is one part, the first of them from where the text starts. -/
theorem fragmentsFrom_parts {r : Region} {cs first : List Char} {rest : List (List Char)}
    (h : fragmentsFrom r cs = first :: rest) :
    fragmentsFrom r first = [first] ∧ ∀ part ∈ rest, fragmentsFrom .code part = [part] := by
  induction cs generalizing r first rest with
  | nil =>
    obtain ⟨rfl, rfl⟩ := List.cons.inj (h : [[]] = first :: rest)
    exact ⟨rfl, by simp⟩
  | cons c cs ih =>
    rcases fragmentsFrom_cons r c cs with ⟨hcode, rfl, hcut⟩ | ⟨hnot, part, parts, htail, hparts⟩
    · rw [hcut] at h
      obtain ⟨rfl, rfl⟩ := List.cons.inj h
      obtain ⟨next, parts, hrest⟩ := List.exists_cons_of_ne_nil (fragmentsFrom_ne_nil .code cs)
      have hall := ih hrest
      refine ⟨rfl, ?_⟩
      intro part hpart
      rw [hrest] at hpart
      rcases List.mem_cons.1 hpart with rfl | hpart
      · exact hall.1
      · exact hall.2 part hpart
    · rw [hparts] at h
      obtain ⟨rfl, rfl⟩ := List.cons.inj h
      have hall := ih htail
      refine ⟨?_, hall.2⟩
      rw [fragmentsFrom, if_neg (by simpa using hnot), hall.1]
      rfl

/-- Every part but the first starts in code, behind the parts before it and their semicolons. -/
theorem after_parts {r : Region} {cs part : List Char} {done rest : List (List Char)}
    (h : fragmentsFrom r cs = done ++ part :: rest) :
    r.after (done.flatMap (· ++ [';'])) = if done = [] then r else .code := by
  induction cs generalizing r done with
  | nil =>
    have hempty : [[]] = done ++ part :: rest := h
    cases done with
    | nil => rfl
    | cons d done => simp at hempty
  | cons c cs ih =>
    cases done with
    | nil => rfl
    | cons d done =>
      rw [if_neg (by simp)]
      rcases fragmentsFrom_cons r c cs with ⟨hcode, rfl, hcut⟩ | ⟨hnot, first, parts, htail, hparts⟩
      · rw [hcut] at h
        obtain ⟨rfl, hrest⟩ := List.cons.inj h
        have hdone := ih hrest
        rw [ite_self] at hdone
        simpa [Region.step_semicolon hcode] using hdone
      · rw [hparts] at h
        obtain ⟨rfl, rfl⟩ := List.cons.inj h
        have hsplit : fragmentsFrom (r.step c) cs = (first :: done) ++ part :: rest := htail
        have hdone := ih hsplit
        simpa using hdone

/-- Each part of a script that can be cut is alone cut to itself. -/
theorem fragments?_part {cs : List Char} {parts : List (List Char)}
    (h : fragments? cs = .ok parts) {part : List Char} (hpart : part ∈ parts) :
    fragments? part = .ok [part] := by
  have hcomplete := isComplete_of_mem_fragments h hpart
  obtain ⟨-, hparts⟩ := (fragments?_eq_ok_iff cs parts).1 h
  have hone : fragmentsFrom .code part = [part] := by
    cases parts with
    | nil => simp at hpart
    | cons first rest =>
      have hall := fragmentsFrom_parts hparts.symm
      rcases List.mem_cons.1 hpart with rfl | hpart
      · exact hall.1
      · exact hall.2 part hpart
  rw [fragments?_eq_ok_iff]
  exact ⟨hcomplete, hone.symm⟩

/-! ## Open literals and comments -/

/-- A mark that is read in code at a byte offset of a text, with everything behind it. -/
def OpensAt (mark inside cs : List Char) (offset : Nat) : Prop :=
  ∃ before, cs = before ++ (mark ++ inside) ∧ byteLength before = offset ∧
    (Region.code.after before).isCode = true

/-- Where the literal or block comment begins that a text ends in, by the region of its end. -/
def Region.OpenedAt (cs : List Char) (offset : Nat) : Region → Prop
  | .literal quote => isQuote quote = true ∧
      ∃ inside, OpensAt [quote] inside cs offset ∧ quote ∉ inside
  | .slash => OpensAt ['/'] [] cs offset
  | .blockComment => ∃ inside, OpensAt ['/', '*'] inside cs offset ∧
      ¬ ['*', '/'] <:+: inside ∧ inside.getLast? ≠ some '*'
  | .star => ∃ inside, OpensAt ['/', '*'] inside cs offset ∧ ¬ ['*', '/'] <:+: inside
  | .code | .dash | .lineComment => True

/-- What was opened stays open behind one character more. -/
theorem OpensAt.snoc {mark inside cs : List Char} {offset : Nat}
    (h : OpensAt mark inside cs offset) (c : Char) :
    OpensAt mark (inside ++ [c]) (cs ++ [c]) offset := by
  obtain ⟨before, rfl, hoffset, hcode⟩ := h
  exact ⟨before, by simp, hoffset, hcode⟩

/-- The end of a comment is a slash behind a star. -/
theorem closes_snoc_iff (inside : List Char) (c : Char) :
    ['*', '/'] <:+: inside ++ [c] ↔
      ['*', '/'] <:+: inside ∨ inside.getLast? = some '*' ∧ c = '/' := by
  have hsuffix : ['*', '/'] <:+ inside ++ [c] ↔ inside.getLast? = some '*' ∧ c = '/' := by
    constructor
    · rintro ⟨before, hsplit⟩
      have hsplit' : (before ++ ['*']) ++ ['/'] = inside ++ [c] := by simpa using hsplit
      obtain ⟨rfl, hc⟩ := List.append_inj' hsplit' rfl
      simpa using hc.symm
    · rintro ⟨hlast, rfl⟩
      obtain ⟨before, rfl⟩ := List.getLast?_eq_some_iff.1 hlast
      exact ⟨before, by simp⟩
  rw [List.infix_concat_iff, hsuffix, or_comm]

/-- A character of code opens a comment with the one before it, or it stands for itself. -/
theorem Region.step_of_isCode {r : Region} (h : r.isCode = true) (c : Char) :
    r.step c = enter c ∨ r = .dash ∧ r.step c = .lineComment ∨
      r = .slash ∧ c = '*' ∧ r.step c = .blockComment := by
  cases r with
  | code => exact .inl rfl
  | dash => by_cases hc : c = '-' <;> simp [step, hc]
  | slash => by_cases hc : c = '*' <;> simp [step, hc]
  | literal quote | lineComment | blockComment | star => exact Bool.noConfusion h

/-- A character alone opens no block comment. -/
theorem Region.enter_ne_blockComment (c : Char) : enter c ≠ .blockComment := by
  unfold enter
  split_ifs <;> simp

/-- A character of code that opens a literal or may open a comment. -/
theorem openedAt_enter {cs : List Char} (hcode : (Region.code.after cs).isCode = true) (c : Char) :
    (Region.enter c).OpenedAt (cs ++ [c]) (byteLength cs) := by
  have hopens : OpensAt [c] [] (cs ++ [c]) (byteLength cs) := ⟨cs, by simp, rfl, hcode⟩
  unfold Region.enter
  split_ifs with hquote hdash hslash
  · exact ⟨hquote, [], hopens, by simp⟩
  · trivial
  · subst hslash
    exact hopens
  · trivial

/-- A literal or comment that is open stays open at its place until it is closed. -/
theorem openedAt_step_of_not_isCode {r : Region} {cs : List Char} {offset : Nat}
    (h : r.OpenedAt cs offset) (hcode : r.isCode = false) (c : Char) :
    (r.step c).OpenedAt (cs ++ [c]) offset := by
  cases r with
  | code | dash | slash => exact Bool.noConfusion hcode
  | literal quote =>
    obtain ⟨hquote, inside, hopens, hfree⟩ := h
    by_cases hc : c = quote
    · simp [Region.step, hc, Region.OpenedAt]
    · have hfree' : quote ∉ inside ++ [c] := by simp [hfree, Ne.symm hc]
      simp only [Region.step, if_neg hc]
      exact ⟨hquote, inside ++ [c], hopens.snoc c, hfree'⟩
  | lineComment =>
    simp only [Region.step]
    split_ifs <;> trivial
  | blockComment =>
    obtain ⟨inside, hopens, hfree, hlast⟩ := h
    have hfree' : ¬ ['*', '/'] <:+: inside ++ [c] := by simp [closes_snoc_iff, hfree, hlast]
    simp only [Region.step]
    split_ifs with hc
    · exact ⟨inside ++ [c], hopens.snoc c, hfree'⟩
    · exact ⟨inside ++ [c], hopens.snoc c, hfree', by simpa using hc⟩
  | star =>
    obtain ⟨inside, hopens, hfree⟩ := h
    simp only [Region.step]
    split_ifs with hslash hstar
    · trivial
    · have hfree' : ¬ ['*', '/'] <:+: inside ++ [c] := by simp [closes_snoc_iff, hfree, hslash]
      exact ⟨inside ++ [c], hopens.snoc c, hfree'⟩
    · have hfree' : ¬ ['*', '/'] <:+: inside ++ [c] := by simp [closes_snoc_iff, hfree, hslash]
      exact ⟨inside ++ [c], hopens.snoc c, hfree', by simpa using hstar⟩

/-- A scan notes where a literal begins, and where a slash does that may open a comment. -/
theorem Scan.of_append_singleton_opened (cs : List Char) (c : Char) :
    (Scan.of (cs ++ [c])).opened =
      if (Region.code.after cs).isCode && (Region.code.after cs).step c != .blockComment
        then byteLength cs else (Scan.of cs).opened := by
  rw [← Scan.of_region, ← Scan.of_offset]
  simp [Scan.of, Scan.step]

/-- Where the literal or comment begins that a scan ends in. -/
theorem openedAt_scan (cs : List Char) :
    (Region.code.after cs).OpenedAt cs (Scan.of cs).opened := by
  induction cs using List.reverseRecOn with
  | nil => trivial
  | append_singleton cs c ih =>
    rw [Scan.of_append_singleton_opened, Region.after_append, Region.after_cons, Region.after_nil]
    cases hcode : (Region.code.after cs).isCode with
    | false =>
      rw [if_neg (by simp)]
      exact openedAt_step_of_not_isCode ih hcode c
    | true =>
      rcases Region.step_of_isCode hcode c with hstep | ⟨-, hstep⟩ | ⟨hslash, rfl, hstep⟩
      · rw [hstep, if_pos (by simp [Region.enter_ne_blockComment])]
        exact openedAt_enter hcode c
      · rw [hstep]
        trivial
      · rw [hslash] at ih
        rw [hstep, if_neg (by simp)]
        exact ⟨[], ih.snoc '*', by simp, by simp⟩

/-! ## Scripts -/

/-- What cutting a text may give: parts that are whole and start in code, or the place of a literal
or a block comment that is not closed. -/
inductive CutsExactly (cs : List Char) : Except CompileError (List (List Char)) → Prop
  | parts {parts : List (List Char)} (join : List.intercalate [';'] parts = cs)
      (whole : ∀ part ∈ parts, fragments? part = .ok [part])
      (semicolons : ∀ part ∈ parts, ∀ before after, part = before ++ ';' :: after →
        (Region.code.after before).isCode = false)
      (starts : ∀ done part rest, parts = done ++ part :: rest →
        Region.code.after (done.flatMap (· ++ [';'])) = .code) :
      CutsExactly cs (.ok parts)
  | openQuote {quote : Char} {before after : List Char} (split : cs = before ++ quote :: after)
      (accepted : Accepted before) (code : (Region.code.after before).isCode = true)
      (isQuote : isQuote quote = true) (unclosed : quote ∉ after) :
      CutsExactly cs (.error (.openQuote quote (byteLength before)))
  | openComment {before after : List Char} (split : cs = before ++ '/' :: '*' :: after)
      (accepted : Accepted before) (code : (Region.code.after before).isCode = true)
      (unclosed : ¬ ['*', '/'] <:+: after) :
      CutsExactly cs (.error (.openComment (byteLength before)))

theorem accepted_of_isCode {cs : List Char} (h : (Region.code.after cs).isCode = true) :
    Accepted cs :=
  (accepted_iff cs).2 (Region.isComplete_of_isCode h)

/-- A scan fails at the literal or the block comment that is open at its end. -/
theorem Scan.error?_eq_some_iff (s : Scan) (e : CompileError) :
    s.error? = some e ↔ (∃ quote, s.region = .literal quote ∧ e = .openQuote quote s.opened) ∨
      (s.region = .blockComment ∨ s.region = .star) ∧ e = .openComment s.opened := by
  unfold Scan.error?
  cases s.region <;> simp [eq_comm]

/-- A text that cannot be cut has the error of its scan. -/
theorem fragments?_eq_error_iff (cs : List Char) (e : CompileError) :
    fragments? cs = .error e ↔ (Scan.of cs).error? = some e := by
  unfold fragments?
  cases (Scan.of cs).error? <;> simp

/-- The parts of a script, joined by semicolons, are its text; each is cut to itself, starts in
code and has no semicolon in code.  A script that cannot be cut has an unclosed literal or block
comment at the byte offset of its error, and the text before that place can be cut. -/
theorem fragments?_cutsExactly (cs : List Char) : CutsExactly cs (fragments? cs) := by
  cases hresult : fragments? cs with
  | ok parts =>
    have hparts := ((fragments?_eq_ok_iff cs parts).1 hresult).2
    refine .parts (join_fragments hresult) (fun part => fragments?_part hresult) ?_ ?_
    · intro part hpart
      have hwhole := fragments?_part hresult hpart
      have hone := ((fragments?_eq_ok_iff part [part]).1 hwhole).2
      exact (fragmentsFrom_eq_singleton_iff .code part).1 hone.symm
    · intro done part rest hsplit
      rw [after_parts (hparts ▸ hsplit), ite_self]
  | error e =>
    have hopened := openedAt_scan cs
    rw [fragments?_eq_error_iff, Scan.error?_eq_some_iff, Scan.of_region] at hresult
    rcases hresult with ⟨quote, hregion, rfl⟩ | ⟨hregion, rfl⟩
    · rw [hregion] at hopened
      obtain ⟨hquote, inside, ⟨before, hsplit, hoffset, hcode⟩, hfree⟩ := hopened
      rw [← hoffset]
      exact .openQuote hsplit (accepted_of_isCode hcode) hcode hquote hfree
    · have hcomment : ∃ inside, OpensAt ['/', '*'] inside cs (Scan.of cs).opened ∧
          ¬ ['*', '/'] <:+: inside := by
        rcases hregion with hregion | hregion <;> rw [hregion] at hopened
        · obtain ⟨inside, hopens, hfree, -⟩ := hopened
          exact ⟨inside, hopens, hfree⟩
        · exact hopened
      obtain ⟨inside, ⟨before, hsplit, hoffset, hcode⟩, hfree⟩ := hcomment
      rw [← hoffset]
      exact .openComment hsplit (accepted_of_isCode hcode) hcode hfree

end SqlRelay
