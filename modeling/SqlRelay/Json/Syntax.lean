import SqlRelay.Number
import SqlRelay.Text.Utf8
import SqlRelay.Text.Notation
/-!
# JSON syntax

Bytes are read into marks, and marks into a tree whose leaves are not yet decoded: a number keeps
its digits, a text its bytes and escapes.  So a part of a document that nobody asks for is checked
for its syntax only, at any depth.

Main results:

- Definition `marks?` reads bytes into marks, one byte at a time.
- Definition `Tree.ofBytes?` reads a document; a machine with a stack of open brackets sees one
  mark at a time.
- Definition `readText?` decodes a text leaf.
-/

namespace SqlRelay.Json

/-- A part of a text: a byte as it stands, or the number of an escape. -/
inductive TextUnit where
  | byte (value : UInt8)
  | code (number : Nat)

/-- The digits of a number: sign, whole part, fraction and exponent, the last with its sign. -/
structure NumberText where
  negative : Bool
  whole : List Char
  fraction : Option (List Char)
  exponent : Option (Bool × List Char)

/-- A leaf or a punctuation mark. -/
inductive Mark where
  | openArray
  | closeArray
  | openObject
  | closeObject
  | comma
  | colon
  | null
  | bool (value : Bool)
  | number (value : NumberText)
  | text (units : List TextUnit)

/-- Digits, at least one. -/
def digits? (cs : List Char) : Option (List Char) :=
  if isDecimal cs then some cs else none

/-- The exponent after its letter. -/
def exponentDigits? : List Char → Option (Bool × List Char)
  | '-' :: rest => (digits? rest).map (true, ·)
  | '+' :: rest => (digits? rest).map (false, ·)
  | rest => (digits? rest).map (false, ·)

/-- Whether a whole part is one zero or starts with another digit. -/
def isWhole : List Char → Bool
  | [] => false
  | ['0'] => true
  | c :: rest => c != '0' && (c :: rest).all Char.isDigit

/-- A number, by the JSON grammar. -/
def number? (word : List Char) : Option NumberText :=
  let (negative, unsigned) := match word with
    | '-' :: rest => (true, rest)
    | rest => (false, rest)
  let isMark (c : Char) : Bool := c == 'e' || c == 'E'
  let mantissa := unsigned.takeWhile (fun c => !isMark c)
  let exponent := match unsigned.dropWhile (fun c => !isMark c) with
    | [] => some none
    | _ :: rest => (exponentDigits? rest).map some
  let whole := mantissa.takeWhile (· != '.')
  let fraction := match mantissa.dropWhile (· != '.') with
    | [] => some none
    | _ :: rest => (digits? rest).map some
  match isWhole whole, fraction, exponent with
  | true, some f, some e => some ⟨negative, whole, f, e⟩
  | _, _, _ => none

/-- The mark of a word: one of the three names, or a number. -/
def word? (word : List Char) : Option Mark :=
  if word = ['n', 'u', 'l', 'l'] then some .null
  else if word = ['t', 'r', 'u', 'e'] then some (.bool true)
  else if word = ['f', 'a', 'l', 's', 'e'] then some (.bool false)
  else (number? word).map .number

/-! ## Reading marks -/

/-- Where the reader of marks stands; what it collects is held in reverse. -/
inductive Reading where
  | between
  | word (back : List Char)
  | text (back : List TextUnit)
  | escape (back : List TextUnit)
  | hex (back : List TextUnit) (left : Nat) (number : Nat)

/-- A byte that can stand in a word. -/
def isWordByte (b : UInt8) : Bool :=
  let c := Char.ofNat b.toNat
  c.isAlphanum || c == '+' || c == '-' || c == '.'

/-- The byte that a one-letter escape stands for. -/
def escaped? (b : UInt8) : Option UInt8 :=
  match Char.ofNat b.toNat with
  | '"' => some 0x22
  | '\\' => some 0x5C
  | '/' => some 0x2F
  | 'b' => some 0x08
  | 'f' => some 0x0C
  | 'n' => some 0x0A
  | 'r' => some 0x0D
  | 't' => some 0x09
  | _ => none

/-- What a byte between marks begins, and the mark that it is by itself. -/
def beginMark (b : UInt8) : Option (Reading × List Mark) :=
  if b = 0x20 ∨ b = 0x09 ∨ b = 0x0A ∨ b = 0x0D then some (.between, [])
  else if b = 0x22 then some (.text [], [])
  else if b = 0x2C then some (.between, [.comma])
  else if b = 0x3A then some (.between, [.colon])
  else if b = 0x5B then some (.between, [.openArray])
  else if b = 0x5D then some (.between, [.closeArray])
  else if b = 0x7B then some (.between, [.openObject])
  else if b = 0x7D then some (.between, [.closeObject])
  else if isWordByte b then some (.word [Char.ofNat b.toNat], [])
  else none

/-- Reads one byte. -/
def Reading.step (r : Reading) (b : UInt8) : Option (Reading × List Mark) :=
  match r with
  | .between => beginMark b
  | .word back =>
    if isWordByte b then some (.word (Char.ofNat b.toNat :: back), [])
    else
      match word? back.reverse, beginMark b with
      | some mark, some (next, more) => some (next, mark :: more)
      | _, _ => none
  | .text back =>
    if b = 0x22 then some (.between, [.text back.reverse])
    else if b = 0x5C then some (.escape back, [])
    else if b < 0x20 then none
    else some (.text (.byte b :: back), [])
  | .escape back =>
    if b = 0x75 then some (.hex back 4 0, [])
    else (escaped? b).map (fun e => (.text (.byte e :: back), []))
  | .hex back left number =>
    match Text.hexByte? b with
    | none => none
    | some digit =>
      let n := number * 16 + digit
      if left ≤ 1 then some (.text (.code n :: back), []) else some (.hex back (left - 1) n, [])

/-- Reads one byte after others; the marks so far are held in reverse. -/
def advance (state : Reading × List Mark) (b : UInt8) : Option (Reading × List Mark) :=
  (state.1.step b).map (fun (next, found) => (next, found.reverse ++ state.2))

/-- The marks of a document. -/
def marks? (bytes : List UInt8) : Option (List Mark) :=
  match bytes.foldlM advance (.between, []) with
  | some (.between, back) => some back.reverse
  | some (.word word, back) => (word? word.reverse).map (fun mark => (mark :: back).reverse)
  | _ => none

/-! ## Trees -/

/-- A document with undecoded leaves. -/
inductive Tree where
  | null
  | bool (value : Bool)
  | number (value : NumberText)
  | text (units : List TextUnit)
  | array (items : List Tree)
  | object (members : List (List TextUnit × Tree))

/-- An open bracket with what it holds so far, in reverse. -/
inductive Frame where
  | array (back : List Tree)
  | object (back : List (List TextUnit × Tree)) (key : List TextUnit)

/-- What may come next. -/
inductive Want where
  | value
  | valueOrClose
  | key
  | keyOrClose
  | colon
  | next
  | nothing
  deriving DecidableEq

/-- The state of the reader of trees. -/
structure Growth where
  stack : List Frame
  want : Want
  found : Tree

/-- Before the first mark. -/
def Growth.start : Growth := ⟨[], .value, .null⟩

/-- Puts a finished value into the innermost open bracket. -/
def Growth.deliver (stack : List Frame) (t : Tree) : Growth :=
  match stack with
  | [] => ⟨[], .nothing, t⟩
  | .array back :: rest => ⟨.array (t :: back) :: rest, .next, .null⟩
  | .object back key :: rest => ⟨.object ((key, t) :: back) [] :: rest, .next, .null⟩

/-- A mark where a value may begin. -/
def Growth.beginValue (stack : List Frame) (m : Mark) : Option Growth :=
  match m with
  | .null => some (deliver stack .null)
  | .bool b => some (deliver stack (.bool b))
  | .number n => some (deliver stack (.number n))
  | .text units => some (deliver stack (.text units))
  | .openArray => some ⟨.array [] :: stack, .valueOrClose, .null⟩
  | .openObject => some ⟨.object [] [] :: stack, .keyOrClose, .null⟩
  | _ => none

/-- Closes the innermost bracket. -/
def Growth.close (stack : List Frame) (m : Mark) : Option Growth :=
  match stack, m with
  | .array back :: rest, .closeArray => some (deliver rest (.array back.reverse))
  | .object back _ :: rest, .closeObject => some (deliver rest (.object back.reverse))
  | _, _ => none

/-- A mark where a key may stand. -/
def Growth.beginMember (stack : List Frame) (m : Mark) : Option Growth :=
  match stack, m with
  | .object back _ :: rest, .text units => some ⟨.object back units :: rest, .colon, .null⟩
  | _, _ => none

/-- Reads one mark. -/
def Growth.step (g : Growth) (m : Mark) : Option Growth :=
  match g.want with
  | .value => beginValue g.stack m
  | .valueOrClose => (close g.stack m).or (beginValue g.stack m)
  | .key => beginMember g.stack m
  | .keyOrClose => (close g.stack m).or (beginMember g.stack m)
  | .colon =>
    match m with
    | .colon => some { g with want := .value }
    | _ => none
  | .next =>
    match m, g.stack with
    | .comma, .array _ :: _ => some { g with want := .value }
    | .comma, .object _ _ :: _ => some { g with want := .key }
    | _, _ => close g.stack m
  | .nothing => none

/-- The tree of a document. -/
def Tree.ofMarks? (marks : List Mark) : Option Tree :=
  match marks.foldlM Growth.step .start with
  | some ⟨_, .nothing, t⟩ => some t
  | _ => none

/-- The tree of a document given as bytes. -/
def Tree.ofBytes? (bytes : List UInt8) : Option Tree :=
  (marks? bytes).bind Tree.ofMarks?

/-- A first half of a surrogate pair. -/
def isLeading (n : Nat) : Bool :=
  0xD800 ≤ n && n ≤ 0xDBFF

/-- A second half of a surrogate pair. -/
def isTrailing (n : Nat) : Bool :=
  0xDC00 ≤ n && n ≤ 0xDFFF

/-- The bytes of an escape that is no surrogate. -/
def codeBytes (n : Nat) : List UInt8 :=
  String.utf8EncodeChar (Char.ofNat n)

/-- Appends one part of a text to the bytes so far, held in reverse after a pending first half. -/
def appendUnit (state : Option Nat × List UInt8) (u : TextUnit) :
    Option (Option Nat × List UInt8) :=
  match state, u with
  | (none, back), .byte b => some (none, b :: back)
  | (none, back), .code n =>
    if isLeading n then some (some n, back)
    else if isTrailing n then none
    else some (none, (codeBytes n).reverse ++ back)
  | (some high, back), .code n =>
    if isTrailing n then
      some (none, (codeBytes (0x10000 + (high - 0xD800) * 0x400 + (n - 0xDC00))).reverse ++ back)
    else none
  | (some _, _), .byte _ => none

/-- The text of a leaf: halves of surrogate pairs stand in pairs and the bytes are UTF-8. -/
def readText? (units : List TextUnit) : Option String :=
  match units.foldlM appendUnit (none, []) with
  | some (none, back) => Utf8.strict? back.reverse
  | _ => none

end SqlRelay.Json
