import SqlRelay.Text.CaseTables
/-!
# Upper case and lower case

The property Uppercase and the full lower-case mapping of Unicode.  Within ASCII both are decided
without a table.

Main results:

- Definition `isUppercase` is the property Uppercase; each such character is also alphabetic.
- Definition `toLowercase` maps a whole text: a capital sigma at the end of a word becomes the
  final form, and a dotted capital I becomes two characters.
-/

namespace SqlRelay.Text

/-- The property Uppercase. -/
def isUppercase (c : Char) : Bool :=
  if c.toNat < 0x80 then 'A' ≤ c && c ≤ 'Z' else uppercaseTable.has c.toNat

/-- The property Cased. -/
def isCased (c : Char) : Bool :=
  casedTable.has c.toNat

/-- The property Case_Ignorable. -/
def isCaseIgnorable (c : Char) : Bool :=
  caseIgnorableTable.has c.toNat

/-- The lower-case form of one character on its own. -/
def lowerChar (c : Char) : List Char :=
  if c.toNat < 0x80 then [c.toLower]
  else if c = '\u0130' then ['i', '\u0307']
  else [((lowercaseTable.image? c.toNat).map Char.ofNat).getD c]

/-- Whether the nearest character that is not ignorable is cased. -/
def nextIsCased (cs : List Char) : Bool :=
  match cs.dropWhile isCaseIgnorable with
  | [] => false
  | c :: _ => isCased c

/-- Lower case of a text after `before`, which is reversed. -/
def toLowercaseFrom (before : List Char) : List Char → List Char
  | [] => []
  | c :: rest =>
    let image :=
      if c = '\u03A3' then
        if nextIsCased before && !nextIsCased rest then ['\u03C2'] else ['\u03C3']
      else lowerChar c
    image ++ toLowercaseFrom (c :: before) rest

/-- The lower-case form of a text. -/
def toLowercase (s : String) : String :=
  String.ofList (toLowercaseFrom [] s.toList)

end SqlRelay.Text
