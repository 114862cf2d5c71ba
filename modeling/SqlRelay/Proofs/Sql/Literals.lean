import SqlRelay.Proofs.Sql.Escaped
import SqlRelay.Proofs.Sql.Sealed
/-!
# Escaped values as literals

A value that is written into SQL text is escaped and put between single quotes.  The scanner reads
this text as one literal, whatever the value is: it is opened by the first quote and closed for good
by the last, and between them quotes stand in pairs, of which the first closes the literal and the
second opens it again.  What the literal holds is the value without its marks of two dashes.

Main results:

- Definition `LiteralPlace` says how a place of a literal is read, and `OneLiteral` that a text is
  one literal.
- Theorem `oneLiteral_of_paired`: a text in which quotes stand in pairs is one literal between two
  more quotes.
- Definition `MarksDropped` is the dropping of marks from the left, and theorem `marksDropped_iff`
  that it has one result.
- Theorem `quotedSql_is_literal` puts together what an escaped value is.
-/

namespace SqlRelay

/-- How the character `c` between `front` and `behind` is read when the whole is one literal of
single quotes.  Two quotes that are a pair stand between the outer ones. -/
inductive LiteralPlace : List Char → Char → List Char → Prop
  | opening (behind : List Char) : LiteralPlace [] '\'' behind
  | plain {front : List Char} {c : Char} (behind : List Char) (other : c ≠ '\'')
      (inside : Region.code.after front = .literal '\'') : LiteralPlace front c behind
  | first {front behind : List Char} (inside : Region.code.after front = .literal '\'')
      (more : behind ≠ []) : LiteralPlace front '\'' ('\'' :: behind)
  | second {front behind : List Char} (inside : Region.code.after front = .literal '\'')
      (more : behind ≠ []) : LiteralPlace (front ++ ['\'']) '\'' behind
  | closing {front : List Char} (inside : Region.code.after front = .literal '\'') :
      LiteralPlace front '\'' []

/-- A text is one literal of single quotes: a quote is its first character, each of its places is
one of a literal, and the scan is back in code at its end. -/
structure OneLiteral (text : List Char) : Prop where
  opened : ∃ rest, text = '\'' :: rest
  places : ∀ front c behind, text = front ++ c :: behind → LiteralPlace front c behind
  closed : Region.code.after text = .code

/-- Behind a text in which quotes stand in pairs, a scan that began in a literal is in it again. -/
theorem Paired.after_literal {body : List Char} (h : Paired body) :
    (Region.literal '\'').after body = .literal '\'' := by
  induction h with
  | nil => rfl
  | other hc _ ih => simpa [Region.step, hc] using ih
  | pair _ ih => simpa [Region.step, Region.enter, isQuote] using ih

/-- The places of a text in which quotes stand in pairs, and of the quote behind it, if the scan is
in a literal before the text. -/
theorem literalPlace_of_paired {body : List Char} (h : Paired body) {read : List Char}
    (inside : Region.code.after read = .literal '\'') {front behind : List Char} {c : Char}
    (text : body ++ ['\''] = front ++ c :: behind) : LiteralPlace (read ++ front) c behind := by
  induction h generalizing read front with
  | nil =>
    cases front with
    | nil =>
      obtain ⟨rfl, rfl⟩ := List.cons.inj text
      exact .closing (by simpa using inside)
    | cons d front => simp at text
  | @other d body hd rest ih =>
    cases front with
    | nil =>
      obtain ⟨rfl, rfl⟩ := List.cons.inj text
      exact .plain _ hd (by simpa using inside)
    | cons d' front =>
      obtain ⟨rfl, htext⟩ := List.cons.inj text
      have hinside : Region.code.after (read ++ [d]) = .literal '\'' := by
        simp [Region.after_append, inside, Region.step, hd]
      simpa using ih hinside htext
  | @pair body rest ih =>
    cases front with
    | nil =>
      obtain ⟨rfl, rfl⟩ := List.cons.inj text
      exact .first (by simpa using inside) (by simp)
    | cons d front =>
      obtain ⟨rfl, htext⟩ := List.cons.inj text
      cases front with
      | nil =>
        obtain ⟨rfl, rfl⟩ := List.cons.inj htext
        exact .second inside (by simp)
      | cons d' front =>
        obtain ⟨rfl, hbehind⟩ := List.cons.inj htext
        have hinside : Region.code.after (read ++ ['\'', '\'']) = .literal '\'' := by
          simp [Region.after_append, inside, Region.step, Region.enter, isQuote]
        simpa using ih hinside hbehind

/-- Between two more quotes, a text in which quotes stand in pairs is one literal. -/
theorem oneLiteral_of_paired {body : List Char} (h : Paired body) :
    OneLiteral ('\'' :: body ++ ['\'']) where
  opened := ⟨body ++ ['\''], rfl⟩
  places := by
    intro front c behind text
    cases front with
    | nil =>
      obtain ⟨rfl, -⟩ := List.cons.inj text
      exact .opening behind
    | cons d front =>
      obtain ⟨rfl, htext⟩ := List.cons.inj text
      have inside : Region.code.after ['\''] = .literal '\'' := rfl
      exact literalPlace_of_paired h inside htext
  closed := by
    have hopen : Region.code.after ['\''] = .literal '\'' := rfl
    rw [List.cons_append, ← List.singleton_append, Region.after_append, hopen, Region.after_append,
      h.after_literal]
    rfl

/-! ## Reading a literal back -/

/-- What a literal of single quotes holds, behind its first quote: a doubled quote stands for one,
and a single one must be the end. -/
def literalBody? : List Char → Option (List Char)
  | [] => none
  | ['\''] => some []
  | '\'' :: '\'' :: rest => (literalBody? rest).map ('\'' :: ·)
  | c :: rest => if c = '\'' then none else (literalBody? rest).map (c :: ·)

/-- What a literal of single quotes holds. -/
def literalText? : List Char → Option (List Char)
  | '\'' :: rest => literalBody? rest
  | _ => none

/-- A character that is no quote belongs to the literal. -/
theorem literalBody?_cons {c : Char} (h : c ≠ '\'') (rest : List Char) :
    literalBody? (c :: rest) = (literalBody? rest).map (c :: ·) := by
  cases rest <;> simp [literalBody?, h]

/-- Doubling the quotes of a text is undone by reading it. -/
theorem literalBody?_doubleQuotes (cs : List Char) :
    literalBody? (doubleQuotes cs ++ ['\'']) = some cs := by
  induction cs with
  | nil => rfl
  | cons c cs ih =>
    rw [doubleQuotes_cons]
    by_cases hquote : c = '\''
    · subst hquote
      simp [literalBody?, ih]
    · simp [hquote, literalBody?_cons, ih]

/-- What is left of a text when its marks of two dashes are dropped one after the other, each time
the leftmost one of what is still to be read. -/
inductive MarksDropped : List Char → List Char → Prop
  | unmarked {cs : List Char} (unmarked : ¬ ['-', '-'] <:+: cs) : MarksDropped cs cs
  | mark {front behind left : List Char} (leftmost : ¬ ['-', '-'] <:+: front ++ ['-'])
      (rest : MarksDropped behind left) :
      MarksDropped (front ++ '-' :: '-' :: behind) (front ++ left)

/-- A character that begins no mark is kept by the dropping. -/
theorem dropDashPairs_cons_of_not_mark {c : Char} {cs : List Char}
    (kept : ¬ ['-', '-'] <+: c :: cs) : dropDashPairs (c :: cs) = c :: dropDashPairs cs := by
  by_cases hdash : c = '-'
  · subst hdash
    cases cs with
    | nil => rfl
    | cons d cs =>
      have hd : d ≠ '-' := by simpa [List.cons_prefix_cons, eq_comm] using kept
      simp [dropDashPairs, hd]
  · exact dropDashPairs_cons_of_ne hdash _

/-- A text without two dashes in a row stays as it is. -/
theorem dropDashPairs_of_unmarked {cs : List Char} (unmarked : ¬ ['-', '-'] <:+: cs) :
    dropDashPairs cs = cs := by
  induction cs with
  | nil => rfl
  | cons c cs ih =>
    rw [List.infix_cons_iff, not_or] at unmarked
    rw [dropDashPairs_cons_of_not_mark unmarked.1, ih unmarked.2]

/-- The first dash behind a text is enough to see whether a mark begins with its first character. -/
theorem mark_prefix_append_iff (c : Char) (front behind : List Char) :
    ['-', '-'] <+: c :: (front ++ '-' :: '-' :: behind) ↔ ['-', '-'] <+: c :: (front ++ ['-']) := by
  cases front <;> simp [List.cons_prefix_cons]

/-- A text is kept up to its leftmost mark. -/
theorem dropDashPairs_append_mark {front : List Char}
    (leftmost : ¬ ['-', '-'] <:+: front ++ ['-']) (behind : List Char) :
    dropDashPairs (front ++ '-' :: '-' :: behind) = front ++ dropDashPairs behind := by
  induction front with
  | nil => rfl
  | cons c front ih =>
    rw [List.cons_append, List.infix_cons_iff, not_or] at leftmost
    have kept : ¬ ['-', '-'] <+: c :: (front ++ '-' :: '-' :: behind) :=
      mt (mark_prefix_append_iff c front behind).1 leftmost.1
    rw [List.cons_append, dropDashPairs_cons_of_not_mark kept, ih leftmost.2, List.cons_append]

/-- A character that begins no mark is left. -/
theorem MarksDropped.cons {c : Char} {cs left : List Char} (h : MarksDropped cs left)
    (kept : ¬ ['-', '-'] <+: c :: cs) : MarksDropped (c :: cs) (c :: left) := by
  cases h with
  | unmarked unmarked => exact .unmarked (by simp [List.infix_cons_iff, kept, unmarked])
  | @mark front behind left leftmost rest =>
    have hleftmost : ¬ ['-', '-'] <:+: c :: front ++ ['-'] := by
      rw [List.cons_append, List.infix_cons_iff, not_or]
      exact ⟨mt (mark_prefix_append_iff c front behind).2 kept, leftmost⟩
    exact .mark hleftmost rest

/-- Dropping the marks of a text leaves one text. -/
theorem marksDropped_iff (cs left : List Char) :
    MarksDropped cs left ↔ dropDashPairs cs = left := by
  constructor
  · intro h
    induction h with
    | unmarked unmarked => exact dropDashPairs_of_unmarked unmarked
    | mark leftmost _ ih => rw [dropDashPairs_append_mark leftmost, ih]
  · rintro rfl
    fun_induction dropDashPairs cs with
    | case1 rest ih =>
      have hleftmost : ¬ ['-', '-'] <:+: [] ++ ['-'] := by decide
      exact .mark hleftmost ih
    | case2 c rest hpair ih => exact ih.cons (not_mark_of_not_pair hpair)
    | case3 => exact .unmarked (by simp)

/-- An escaped value between single quotes is one literal.  It holds what is left of the value when
the marks of two dashes are dropped from the left, and no such mark stands in the escaped value. -/
theorem quotedSql_is_literal (value : String) :
    OneLiteral (quotedSql value) ∧
      (∀ text, literalText? (quotedSql value) = some text ↔ MarksDropped value.toList text) ∧
      ¬ ['-', '-'] <:+: (escapeSql value).toList := by
  refine ⟨?_, ?_, (sealed_escapeSql value).uncommented⟩
  · have hpaired : Paired (escapeChars value.toList) := by
      rw [escapeChars, dropDashPairs_doubleQuotes]
      exact paired_doubleQuotes _
    exact oneLiteral_of_paired hpaired
  · intro text
    have hread : literalText? (quotedSql value) = some (dropDashPairs value.toList) := by
      rw [quotedSql, escapeChars, dropDashPairs_doubleQuotes]
      exact literalBody?_doubleQuotes _
    rw [hread, Option.some.injEq, marksDropped_iff]

end SqlRelay
