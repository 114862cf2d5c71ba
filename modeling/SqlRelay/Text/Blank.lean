/-!
# Blanks, fields and lines

Trimming and splitting of texts held as lists of characters.  A blank is a character with the
Unicode property White_Space; a line ends at a line feed, together with one carriage return
right before it.

Main results:

- Definitions `trim`, `words`, `lines` and `cut` are structural and lose no other character.
- Theorem `cut_ne_nil`: cutting a text leaves at least one part.
- Theorem `cut_join`: putting the separator back between the parts restores the text.
-/

namespace SqlRelay.Text

/-- The Unicode property White_Space. -/
def isBlank (c : Char) : Bool :=
  let n := c.toNat
  (9 ≤ n && n ≤ 13) || n == 0x20 || n == 0x85 || n == 0xA0 || n == 0x1680 ||
    (0x2000 ≤ n && n ≤ 0x200A) || n == 0x2028 || n == 0x2029 || n == 0x202F || n == 0x205F ||
    n == 0x3000

/-- Drops the blanks in front. -/
def trimStart (cs : List Char) : List Char :=
  cs.dropWhile isBlank

/-- Drops the blanks at the end. -/
def trimEnd (cs : List Char) : List Char :=
  (cs.reverse.dropWhile isBlank).reverse

/-- Drops the blanks at both ends. -/
def trim (cs : List Char) : List Char :=
  trimEnd (trimStart cs)

/-- A string without the blanks at its ends. -/
def trimmed (s : String) : String :=
  String.ofList (trim s.toList)

/-! ## Parts between separators -/

/-- Puts a character in front of the first part. -/
def extendFirst (c : Char) : List (List Char) → List (List Char)
  | [] => [[c]]
  | part :: parts => (c :: part) :: parts

/-- The parts of a text between the characters that `stop` accepts. -/
def cut (stop : Char → Bool) (cs : List Char) : List (List Char) :=
  cs.foldr (fun c parts => if stop c then [] :: parts else extendFirst c parts) [[]]

@[simp]
theorem cut_nil (stop : Char → Bool) : cut stop [] = [[]] := rfl

/-- A separator begins a new part, and every other character goes on with one. -/
theorem cut_cons (stop : Char → Bool) (c : Char) (cs : List Char) :
    cut stop (c :: cs) = if stop c then [] :: cut stop cs else extendFirst c (cut stop cs) := rfl

/-- Cutting a text leaves at least one part. -/
theorem cut_ne_nil (stop : Char → Bool) (cs : List Char) : cut stop cs ≠ [] := by
  cases cs with
  | nil => simp
  | cons c cs =>
    rw [cut_cons]
    split
    · simp
    · cases h : cut stop cs <;> simp [extendFirst]

/-- Putting the separator back between the parts restores the text. -/
theorem cut_join (sep : Char) (cs : List Char) :
    List.intercalate [sep] (cut (· == sep) cs) = cs := by
  induction cs with
  | nil => rfl
  | cons c cs ih =>
    rw [cut_cons]
    have hne := cut_ne_nil (· == sep) cs
    revert ih hne
    cases cut (· == sep) cs with
    | nil => intro _ hne; exact absurd rfl hne
    | cons part parts =>
      intro ih _
      by_cases h : c = sep
      · subst h
        simpa [List.intercalate] using ih
      · cases parts with
        | nil => simpa [h, extendFirst, List.intercalate] using ih
        | cons next parts => simpa [h, extendFirst, List.intercalate] using ih

/-- The non-empty parts between blanks. -/
def words (cs : List Char) : List (List Char) :=
  (cut isBlank cs).filter (fun part => !part.isEmpty)

/-- The non-empty parts of a string between blanks. -/
def fieldsOf (s : String) : List String :=
  (words s.toList).map String.ofList

/-- Drops one carriage return at the end. -/
def dropReturn (line : List Char) : List Char :=
  if line.getLast? = some '\r' then line.dropLast else line

/-- The lines among the parts between line feeds: each but the last loses one carriage return,
and a last part that is empty is no line. -/
def linesOfParts : List (List Char) → List (List Char)
  | [] => []
  | [part] => if part.isEmpty then [] else [part]
  | part :: next :: parts => dropReturn part :: linesOfParts (next :: parts)

/-- The lines of a text. -/
def lines (cs : List Char) : List (List Char) :=
  linesOfParts (cut (· == '\n') cs)

/-- Joins lines with line feeds. -/
def unlines (parts : List (List Char)) : List Char :=
  List.intercalate ['\n'] parts

/-- A text with the ASCII letters in lower case. -/
def lowerAscii (cs : List Char) : List Char :=
  cs.map Char.toLower

/-- A string with the ASCII letters in lower case. -/
def lowered (s : String) : String :=
  String.ofList (lowerAscii s.toList)

/-- Whether two texts agree up to the case of ASCII letters. -/
def sameLetters (a b : List Char) : Bool :=
  lowerAscii a == lowerAscii b

end SqlRelay.Text
