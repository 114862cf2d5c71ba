import SqlRelay.Text.Blank
/-!
# Regions of SQL text

A text is read one character at a time, and at each place the reader is in code, in a quoted
literal or in a comment.  A dash or a slash in code may open a comment with the character after
it, and a star in a block comment may close it, so these places have regions of their own.  A
doubled quote inside a literal closes it and opens it again at once.

Main results:

- Definition `Region.step` is the whole scanner; `Region.after` runs it over a text.
- Definition `Scan.of` also keeps the byte offset where the last literal or comment began.
- Theorem `Region.after_append`: a text is scanned piece by piece.
- Theorem `Scan.of_region`: both ways of scanning end in the same region.
-/

namespace SqlRelay

/-- Where a place of SQL text lies. -/
inductive Region where
  | code
  | dash
  | slash
  | literal (quote : Char)
  | lineComment
  | blockComment
  | star
  deriving DecidableEq, Repr

/-- The three characters that quote a literal. -/
def isQuote (c : Char) : Bool :=
  c == '\'' || c == '"' || c == '\x60'

namespace Region

/-- Whether a place lies outside literals and comments. -/
def isCode : Region → Bool
  | .code | .dash | .slash => true
  | _ => false

/-- The region after a character of code that closes no comment mark. -/
def enter (c : Char) : Region :=
  if isQuote c then .literal c
  else if c = '-' then .dash
  else if c = '/' then .slash
  else .code

/-- The region after one more character. -/
def step (r : Region) (c : Char) : Region :=
  match r with
  | .code => enter c
  | .dash => if c = '-' then .lineComment else enter c
  | .slash => if c = '*' then .blockComment else enter c
  | .literal quote => if c = quote then .code else .literal quote
  | .lineComment => if c = '\n' then .code else .lineComment
  | .blockComment => if c = '*' then .star else .blockComment
  | .star => if c = '/' then .code else if c = '*' then .star else .blockComment

/-- The region after a text that starts in `r`. -/
def after (r : Region) (cs : List Char) : Region :=
  cs.foldl step r

@[simp]
theorem after_nil (r : Region) : r.after [] = r := rfl

@[simp]
theorem after_cons (r : Region) (c : Char) (cs : List Char) :
    r.after (c :: cs) = (r.step c).after cs := rfl

/-- A text is scanned piece by piece. -/
theorem after_append (r : Region) (a b : List Char) : r.after (a ++ b) = (r.after a).after b := by
  simp [after]

/-- A text may end in code and in a line comment. -/
def isComplete : Region → Bool
  | .code | .dash | .slash | .lineComment => true
  | _ => false

end Region

/-! ## Scanning with offsets -/

/-- The bytes of a text. -/
def byteLength : List Char → Nat
  | [] => 0
  | c :: cs => c.utf8Size + byteLength cs

/-- A scan in progress: the region reached, the bytes read, and the offset of the last literal or
block comment that was entered. -/
structure Scan where
  region : Region
  offset : Nat
  opened : Nat

namespace Scan

/-- Before the first character. -/
def start : Scan := ⟨.code, 0, 0⟩

/-- Reads one character.  A literal begins at its quote and a block comment at its slash, which
are both read in code. -/
def step (s : Scan) (c : Char) : Scan :=
  let next := s.region.step c
  { region := next
    offset := s.offset + c.utf8Size
    opened := if s.region.isCode && next != .blockComment then s.offset else s.opened }

/-- The scan of a whole text. -/
def of (cs : List Char) : Scan :=
  cs.foldl step start

theorem foldl_step_region (cs : List Char) (s : Scan) :
    (cs.foldl step s).region = s.region.after cs := by
  induction cs generalizing s with
  | nil => rfl
  | cons c cs ih => simp [List.foldl_cons, ih, step]

/-- Both ways of scanning end in the same region. -/
theorem of_region (cs : List Char) : (of cs).region = Region.code.after cs :=
  foldl_step_region cs start

/-- A scan counts the bytes of the text. -/
theorem foldl_step_offset (cs : List Char) (s : Scan) :
    (cs.foldl step s).offset = s.offset + byteLength cs := by
  induction cs generalizing s with
  | nil => simp [byteLength]
  | cons c cs ih => simp [List.foldl_cons, ih, step, byteLength, Nat.add_assoc]

/-- A scan has read all bytes of its text. -/
theorem of_offset (cs : List Char) : (of cs).offset = byteLength cs := by
  simp [of, foldl_step_offset, start]

end Scan
end SqlRelay
