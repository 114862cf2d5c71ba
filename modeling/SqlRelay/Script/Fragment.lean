import SqlRelay.Sql.Region
import SqlRelay.Script.CompileError
/-!
# Fragments of a script

A script is cut at every semicolon of its code.  A fragment may begin with a line that labels it;
the rest, without blank lines and lines that only hold a comment, is its body.

Main results:

- Definition `fragments?` cuts a script, or says which literal or comment stays open.
- Definition `Fragment.ofText` separates label and body.
- Theorem `join_fragments`: putting the semicolons back restores the script.
-/

namespace SqlRelay

/-- The parts of a text that starts in region `r`, between the semicolons of its code. -/
def fragmentsFrom (r : Region) : List Char → List (List Char)
  | [] => [[]]
  | c :: cs =>
    if r.isCode && c == ';' then [] :: fragmentsFrom .code cs
    else Text.extendFirst c (fragmentsFrom (r.step c) cs)

/-- The error of a scan that ends inside a literal or block comment. -/
def Scan.error? (s : Scan) : Option CompileError :=
  match s.region with
  | .literal quote => some (.openQuote quote s.opened)
  | .blockComment | .star => some (.openComment s.opened)
  | _ => none

/-- The parts of a script between the semicolons of its code. -/
def fragments? (cs : List Char) : Except CompileError (List (List Char)) :=
  match (Scan.of cs).error? with
  | some e => .error e
  | none => .ok (fragmentsFrom .code cs)

/-- Every text has a fragment. -/
theorem fragmentsFrom_ne_nil (r : Region) (cs : List Char) : fragmentsFrom r cs ≠ [] := by
  cases cs with
  | nil => simp [fragmentsFrom]
  | cons c cs =>
    unfold fragmentsFrom
    split
    · simp
    · cases h : fragmentsFrom (r.step c) cs <;> simp [Text.extendFirst]

/-- Putting the semicolons back restores the text. -/
theorem join_fragmentsFrom (r : Region) (cs : List Char) :
    List.intercalate [';'] (fragmentsFrom r cs) = cs := by
  induction cs generalizing r with
  | nil => rfl
  | cons c cs ih =>
    unfold fragmentsFrom
    split
    · rename_i h
      have hc : c = ';' := by simp at h; exact h.2
      subst hc
      have hne := fragmentsFrom_ne_nil .code cs
      have hi := ih .code
      revert hne hi
      cases fragmentsFrom .code cs with
      | nil => intro hne _; exact absurd rfl hne
      | cons part parts => intro _ hi; simpa [List.intercalate] using hi
    · have hne := fragmentsFrom_ne_nil (r.step c) cs
      have hi := ih (r.step c)
      revert hne hi
      cases fragmentsFrom (r.step c) cs with
      | nil => intro hne _; exact absurd rfl hne
      | cons part parts =>
        intro _ hi
        cases parts with
        | nil => simpa [Text.extendFirst, List.intercalate] using hi
        | cons next parts => simpa [Text.extendFirst, List.intercalate] using hi

/-- Putting the semicolons back restores the script. -/
theorem join_fragments {cs : List Char} {parts : List (List Char)} (h : fragments? cs = .ok parts) :
    List.intercalate [';'] parts = cs := by
  unfold fragments? at h
  split at h
  · simp at h
  · injection h with h
    exact h ▸ join_fragmentsFrom .code cs

/-! ## Labels -/

/-- A fragment taken apart. -/
structure Fragment where
  label : Option (List Char)
  body : List Char
  deriving DecidableEq, Repr

/-- What follows the two dashes of a comment line, without blanks in front. -/
def commentText? (line : List Char) : Option (List Char) :=
  match Text.trim line with
  | '-' :: '-' :: rest => some (Text.trimStart rest)
  | _ => none

/-- The label that a comment line `-- @label: name` gives; the keyword may stand in any case. -/
def labelOfLine? (line : List Char) : Option (List Char) :=
  match commentText? line with
  | none => none
  | some rest =>
    if Text.sameLetters (rest.take 6) ['@', 'l', 'a', 'b', 'e', 'l'] then
      match Text.trimStart (rest.drop 6) with
      | ':' :: name =>
        let label := Text.trim name
        if label.isEmpty then none else some label
      | _ => none
    else none

/-- Whether a line holds anything besides blanks and a comment that starts it. -/
def isSqlLine (line : List Char) : Bool :=
  match Text.trim line with
  | [] => false
  | '-' :: '-' :: _ => false
  | _ => true

/-- The lines that hold SQL, joined again. -/
def sqlLines (cs : List Char) : List Char :=
  Text.trim (Text.unlines ((Text.lines cs).filter isSqlLine))

/-- The text before the first line feed and the text after it. -/
def splitLine (cs : List Char) : List Char × List Char :=
  (cs.takeWhile (· != '\n'), (cs.dropWhile (· != '\n')).drop 1)

/-- Takes the text of a fragment apart. -/
def Fragment.ofText (cs : List Char) : Fragment :=
  let trimmed := Text.trim cs
  let (first, rest) := splitLine trimmed
  match labelOfLine? first with
  | some label => ⟨some label, sqlLines rest⟩
  | none => ⟨none, sqlLines trimmed⟩

end SqlRelay
