import SqlRelay.Text.Blank
import SqlRelay.Url.Domain.CharacterTables
import SqlRelay.Url.Domain.ConnectionTables
import SqlRelay.Url.Domain.Punycode
import SqlRelay.Url.Domain.Composition
import SqlRelay.Url.Domain.Direction
/-!
# Domain names

A domain name is brought into its ASCII form: capital letters and other forms of a character are
replaced, marks are joined with their letters, and each label that still holds characters beyond
ASCII is written in Punycode.  Labels that came in Punycode must be in the form that they would
have been brought into.

Main results:

- Definition `Domain.toAscii?` gives the ASCII form, or nothing for a name that is not valid.
-/

namespace SqlRelay.Domain

/-- The ASCII characters that no domain name holds. -/
def isDenied (c : Char) : Bool :=
  c.toNat ≤ 0x20 || c.toNat = 0x7F ||
    ['%', '#', '/', ':', '<', '>', '?', '@', '[', '\\', ']', '^', '|'].contains c

/-- What a character stands for. -/
def image? (c : Char) : Option (List Char) :=
  let n := c.toNat
  if n < 0x80 then some [c.toLower]
  else if domainValid.has n then some [c]
  else if domainIgnored.has n then some []
  else
    match domainRuns.image? n with
    | some m => some [Char.ofNat m]
    | none => (domainImages.image? n).map (·.map Char.ofNat)

/-- A name with every character replaced by what it stands for, in composed form. -/
def normalized? (cs : List Char) : Option (List Char) :=
  (cs.mapM image?).map (fun images => compose images.flatten)

/-! ## Labels -/

/-- The mark in front of a label in Punycode. -/
def encodedMark : List Char := ['x', 'n', '-', '-']

/-- The characters that join or separate their neighbours. -/
def isJoiner (c : Char) : Bool :=
  c = '\u200C' || c = '\u200D'

/-- How a character joins its neighbours, if it does. -/
def connection? (c : Char) : Option Connection :=
  (domainConnections.find? (fun entry => entry.2.has c.toNat)).map (·.1)

/-- How the first character that is not seen through joins its neighbours. -/
def nearestConnection? (cs : List Char) : Option Connection :=
  (cs.find? (fun c => connection? c != some .seenThrough)).bind connection?

/-- Whether the letters on both sides of a place would join there. -/
def wouldJoin (back ahead : List Char) : Bool :=
  let last := nearestConnection? back
  let next := nearestConnection? ahead
  (last == some .toNext || last == some .toBoth) && (next == some .toLast || next == some .toBoth)

/-- Whether the joiners of a label stand where they have a meaning: after a mark that silences a
vowel, and the separating one also between letters that would join. -/
def joinersFit (back : List Char) : List Char → Bool
  | [] => true
  | c :: rest =>
    let afterSilencer := match back with
      | b :: _ => combiningClass b.toNat == 9
      | [] => false
    (!isJoiner c || afterSilencer || (c = '\u200C' && wouldJoin back rest)) &&
      joinersFit (c :: back) rest

/-- The most characters of a label that is not ASCII. -/
def longestLabel : Nat := 1000

/-- Whether a label beyond ASCII is not too long, begins with no mark and places its joiners
well. -/
def isWellFormed (label : List Char) : Bool :=
  label.length ≤ longestLabel &&
    (match label with
      | c :: _ => !domainMarks.has c.toNat
      | [] => true) &&
    joinersFit [] label

/-- Whether a character is beyond ASCII. -/
def isWide (c : Char) : Bool :=
  0x80 ≤ c.toNat

/-- The most digits, with the ASCII characters before them, that are read from Punycode. -/
def longestDigits : Nat := 2000

/-- The characters of a label that came in Punycode: it holds one beyond ASCII and is in the form
that it would have been brought into. -/
def decoded? (digits : List Char) : Option (List Char) :=
  if longestDigits < digits.length then none
  else
    match Punycode.decode? digits with
    | none => none
    | some label =>
      if label.any isWide && normalized? label = some label && isWellFormed label then some label
      else none

/-- The characters of a label. -/
def label? (label : List Char) : Option (List Char) :=
  if encodedMark.isPrefixOf label then
    if label.any isWide then none else decoded? (label.drop encodedMark.length)
  else if label.any isWide then
    if isWellFormed label then some label else none
  else some label

/-- The ASCII form of a label. -/
def labelAscii (label : List Char) : List Char :=
  if label.any isWide then encodedMark ++ Punycode.encode label else label

/-- The ASCII form of a domain name. -/
def toAscii? (name : List Char) : Option (List Char) :=
  match normalized? name with
  | none => none
  | some cs =>
    match (Text.cut (· == '.') cs).mapM label? with
    | none => none
    | some labels =>
      let isTwoWay := labels.any (fun label => label.any (fun c => (directionOf c).isRightward))
      let all := labels.flatten
      if all.any isDenied || (isTwoWay && !labels.all keepsDirection) then none
      else some (List.intercalate ['.'] (labels.map labelAscii))

end SqlRelay.Domain
