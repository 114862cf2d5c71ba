import SqlRelay.Url.Domain.DirectionTables
/-!
# Labels in both writing directions

In a domain name with characters that are written from right to left, each label must keep to one
direction, so that its characters show in one order only.

Main results:

- Definition `Domain.keepsDirection` tests a label.
-/

namespace SqlRelay.Domain

/-- The direction of a character. -/
def directionOf (c : Char) : Direction :=
  let n := c.toNat
  if n < 0x80 then
    if c.isAlpha then .left else if c.isDigit then .number else .neutral
  else ((domainDirections.find? (fun entry => entry.2.has n)).map (·.1)).getD .left

/-- The directions that make a domain name one of both directions. -/
def Direction.isRightward : Direction → Bool
  | .right | .arabicLetter | .arabicNumber => true
  | _ => false

/-- The last direction that is no mark. -/
def lastDirection? (ds : List Direction) : Option Direction :=
  ds.reverse.find? (· != .mark)

/-- A label from right to left. -/
def keepsRight (ds : List Direction) : Bool :=
  ds.all (· != .left) &&
    (match lastDirection? ds with
      | some d => d == .right || d == .arabicLetter || d == .number || d == .arabicNumber
      | none => false) &&
    !(ds.contains .number && ds.contains .arabicNumber)

/-- A label from left to right. -/
def keepsLeft (ds : List Direction) : Bool :=
  ds.all (fun d => !d.isRightward) &&
    (match lastDirection? ds with
      | some d => d == .left || d == .number
      | none => false)

/-- Whether a label keeps to one direction. -/
def keepsDirection (label : List Char) : Bool :=
  let ds := label.map directionOf
  match ds.head? with
  | none => true
  | some .right | some .arabicLetter => keepsRight ds
  | some .left => keepsLeft ds
  | some _ => false

end SqlRelay.Domain
