import SqlRelay.Proofs.Script.Cutting
import SqlRelay.Proofs.Script.Lines
import SqlRelay.Proofs.Script.Slots
/-!
# A query that ends in its only slot

A text may be scanned without leaving code open and without a mark that ends a statement, a line or
a slot.  A query of this kind with a slot behind it passes each step of compilation as it is, and
only the slot is replaced.

Main results:

- Definition `Inert`: such a text, and Theorem `Inert.flatten`: they may be put together.
- Theorem `compile_select_slot`: the one statement that the query compiles to.
-/

namespace SqlRelay

/-- Behind the text the scanner is in code and no literal is open, and no semicolon, question mark
or line feed stands in it. -/
structure Inert (cs : List Char) : Prop where
  code : Region.code.after cs = .code
  unquoted : Template.quoteAfter cs = none
  unmarked : ∀ c ∈ cs, c ≠ ';' ∧ c ≠ '?' ∧ c ≠ '\n'

namespace Inert

variable {a b cs : List Char}

/-- A text is inert if both readers end in code and no character of it is a mark. -/
theorem of_all (code : Region.code.after cs = .code) (unquoted : Template.quoteAfter cs = none)
    (unmarked : cs.all (fun c => c != ';' && c != '?' && c != '\n') = true) : Inert cs := by
  refine ⟨code, unquoted, ?_⟩
  intro c hc
  simpa [and_assoc] using List.all_eq_true.1 unmarked c hc

theorem nil : Inert [] := ⟨rfl, rfl, by simp⟩

/-- Inert texts stay inert when they are joined. -/
theorem append (ha : Inert a) (hb : Inert b) : Inert (a ++ b) where
  code := by rw [Region.after_append, ha.code, hb.code]
  unquoted := by
    have hfirst : a.foldl quoteStep none = none := ha.unquoted
    rw [Template.quoteAfter, List.foldl_append, hfirst]
    exact hb.unquoted
  unmarked := List.forall_mem_append.2 ⟨ha.unmarked, hb.unmarked⟩

/-- Texts without marks may be put together. -/
theorem flatten {parts : List (List Char)} (h : ∀ part ∈ parts, Inert part) :
    Inert parts.flatten := by
  induction parts with
  | nil => exact nil
  | cons part parts ih =>
    rw [List.forall_mem_cons] at h
    exact h.1.append (ih h.2)

/-- An inert text has no semicolon, no question mark and no line feed. -/
theorem not_mem (h : Inert cs) : ';' ∉ cs ∧ '?' ∉ cs ∧ '\n' ∉ cs := by
  refine ⟨?_, ?_, ?_⟩ <;> intro hmem
  · exact (h.unmarked _ hmem).1 rfl
  · exact (h.unmarked _ hmem).2.1 rfl
  · exact (h.unmarked _ hmem).2.2 rfl

end Inert

/-- A text without line feeds is one line. -/
theorem splitLine_of_not_mem {cs : List Char} (h : '\n' ∉ cs) : splitLine cs = (cs, []) := by
  have hline : ∀ c ∈ cs, (c != '\n') = true := by
    intro c hc
    have hne : c ≠ '\n' := ne_of_mem_of_not_mem hc h
    simpa using hne
  rw [splitLine, List.takeWhile_eq_self_iff.2 hline, List.dropWhile_eq_nil_iff.2 hline]
  rfl

/-- A text of one line that begins with no dash has no label, and it is its own body. -/
theorem Fragment.ofText_line {cs rest : List Char} {first : Char} (trimmed : Text.trim cs = cs)
    (begins : cs = first :: rest) (undashed : first ≠ '-') (line : '\n' ∉ cs) :
    Fragment.ofText cs = ⟨none, cs⟩ := by
  have hlabel : labelOfLine? cs = none := by
    rw [labelOfLine?, commentText?, trimmed, begins]
    split <;> simp_all
  have hsql : isSqlLine cs = true := by
    rw [isSqlLine, trimmed, begins]
    split <;> simp_all
  have hbody : sqlLines cs = cs := by
    have hlines : Text.lines cs = [cs] := by
      rw [Text.lines, cut_of_not_mem line]
      simp [Text.linesOfParts, begins]
    rw [sqlLines, hlines, List.filter_cons_of_pos hsql, List.filter_nil]
    simpa [Text.unlines] using trimmed
  rw [Fragment.ofText, trimmed, splitLine_of_not_mem line]
  simp [hlabel, hbody]

/-! ## Templates with one slot -/

namespace Template

/-- A text without question marks is read as its characters. -/
theorem readFrom_append (quote : Option Char) {cs : List Char} (h : '?' ∉ cs) (rest : List Char) :
    readFrom quote 0 (cs ++ rest) =
      cs.map .char ++ readFrom (cs.foldl quoteStep quote) 0 rest := by
  induction cs generalizing quote with
  | nil => rfl
  | cons c cs ih =>
    rw [List.mem_cons, not_or] at h
    have hmark : c ≠ '?' := Ne.symm h.1
    cases quote with
    | some opened => simp [readFrom, quoteStep, ih _ h.2]
    | none =>
      by_cases hquote : isQuote c = true <;>
        simp [readFrom, quoteStep, hquote, hmark, ih _ h.2]

/-- Characters in front of a template are written as they are. -/
theorem renderFrom_append (d : Dialect) (index : Nat) (cs : List Char) (rest : Template) :
    renderFrom d index (cs.map .char ++ rest) = cs ++ renderFrom d index rest := by
  induction cs with
  | nil => rfl
  | cons c cs ih => simp [renderFrom, ih]

theorem names_append (cs : List Char) (rest : Template) :
    names (cs.map .char ++ rest) = names rest := by
  have hchars : (cs.map Piece.char).filterMap pieceName? = [] := by
    simp [List.filterMap_map, pieceName?, Function.comp_def]
  rw [names, List.filterMap_append, hchars]
  rfl

/-- The slot for a token. -/
def tokenSlot : List Char := ['?', 't', 'o', 'k', 'e', 'n', '?']

/-- A text without marks and the slot are read as that. -/
theorem ofBody_slot {head : List Char} (inert : Inert head) :
    ofBody (head ++ tokenSlot) = head.map .char ++ [.slot ['t', 'o', 'k', 'e', 'n']] := by
  have hquote : head.foldl quoteStep none = none := inert.unquoted
  rw [ofBody, readFrom_append none inert.not_mem.2.1, hquote]
  rfl

end Template

/-- The word with which the query begins, and the blank behind it. -/
def selectWord : List Char := ['S', 'E', 'L', 'E', 'C', 'T', ' ']

/-- Text that begins with the word returns rows, and its output is exported. -/
theorem returnsRows_select (cs : List Char) :
    returnsRows (selectWord ++ cs) = true ∧ beginsUppercase (selectWord ++ cs) = true := by
  have hstart : Text.trimStart (selectWord ++ cs) = selectWord ++ cs :=
    List.dropWhile_cons_of_neg (by decide)
  have hword : startsWithWord (selectWord ++ cs) "SELECT" = true := by
    rw [startsWithWord, hstart, List.map_append, List.isPrefixOf_iff_prefix]
    exact List.prefix_append_of_prefix (by decide)
  refine ⟨List.any_eq_true.2 ⟨"SELECT", by decide, hword⟩, ?_⟩
  change Text.isUppercase 'S' = true
  decide +kernel

/-- A query without marks that ends in the slot for a token compiles to one statement. -/
theorem compile_select_slot (script : String) (d : Dialect) {head rest : List Char}
    (inert : Inert head) (begins : head = selectWord ++ rest) :
    compile script (head ++ Template.tokenSlot) d =
      .ok [⟨0, "0", String.ofList (head ++ d.placeholder 0), ["token"], true, true, script⟩] := by
  have hparts : fragments? (head ++ Template.tokenSlot) = .ok [head ++ Template.tokenSlot] := by
    have hcut : ';' ∉ head ++ Template.tokenSlot := by
      rw [List.mem_append, not_or]
      exact ⟨inert.not_mem.1, by decide⟩
    rw [fragments?_eq_ok_iff]
    constructor
    · rw [Region.after_append, inert.code]
      decide
    · symm
      rw [fragmentsFrom_eq_singleton_iff]
      intro before after hsplit
      exact absurd (by simp [hsplit]) hcut
  have hbody : Fragment.ofText (head ++ Template.tokenSlot) =
      ⟨none, head ++ Template.tokenSlot⟩ := by
    have hline : '\n' ∉ head ++ Template.tokenSlot := by
      rw [List.mem_append, not_or]
      exact ⟨inert.not_mem.2.2, by decide⟩
    have hfirst : head ++ Template.tokenSlot =
        'S' :: (['E', 'L', 'E', 'C', 'T', ' '] ++ rest ++ Template.tokenSlot) := by
      rw [begins]
      rfl
    have hlast : head ++ Template.tokenSlot =
        (head ++ ['?', 't', 'o', 'k', 'e', 'n']) ++ ['?'] := by
      rw [List.append_assoc]
      rfl
    have htrim := Text.trim_eq_self hfirst hlast (by decide) (by decide)
    exact Fragment.ofText_line htrim hfirst (by decide) hline
  have hbodies : bodies [head ++ Template.tokenSlot] = [⟨none, head ++ Template.tokenSlot⟩] := by
    rw [bodies, List.map_singleton, hbody]
    simp [begins, selectWord]
  have hsql : (Template.ofBody (head ++ Template.tokenSlot)).render d =
      head ++ d.placeholder 0 := by
    rw [Template.ofBody_slot inert, Template.render, Template.renderFrom_append]
    simp [Template.renderFrom]
  have hnames : (Template.ofBody (head ++ Template.tokenSlot)).names =
      [['t', 'o', 'k', 'e', 'n']] := by
    rw [Template.ofBody_slot inert, Template.names_append]
    rfl
  have hrows := returnsRows_select (rest ++ d.placeholder 0)
  rw [← List.append_assoc, ← begins] at hrows
  rw [compile_eq_ok hparts, hbodies, statementsFrom, statementsFrom, Statement.ofFragment, hsql,
    hnames, hrows.1, hrows.2]
  rfl

end SqlRelay
