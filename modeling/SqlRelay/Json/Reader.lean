import SqlRelay.Json.Basic
import SqlRelay.Json.Syntax
import SqlRelay.Double.Decimal
/-!
# JSON values of documents

The leaves of a document are decoded.  Of several members of one name the last counts, a number
must not exceed the greatest double, and brackets nest at most 127 deep.

A number without point and exponent is an integer where it fits into sixty-four bits.  Any other
number is the double of its leading digits, as many as fit into sixty-four bits, scaled by the
power of ten that is left; digits after these only count when they stand before the point.

Main results:

- Definition `Json.ofBytes?` reads a value.
- Definition `NumberText.value?` decodes a number.
-/

namespace SqlRelay.Json

/-- The greatest natural number of sixty-four bits. -/
def greatestWord : Nat := twoTo 64 - 1

/-- Leading digits as a number of sixty-four bits, the power of ten they are to be scaled by, and
whether a digit did not fit any more. -/
structure Leading where
  significand : Nat
  exponent : Int
  full : Bool

/-- Reads one digit before the point. -/
def Leading.wholeDigit (n : Leading) (c : Char) : Leading :=
  let next := n.significand * 10 + (c.toNat - '0'.toNat)
  if n.full || greatestWord < next then { n with exponent := n.exponent + 1, full := true }
  else { n with significand := next }

/-- Reads one digit after the point. -/
def Leading.fractionDigit (n : Leading) (c : Char) : Leading :=
  let next := n.significand * 10 + (c.toNat - '0'.toNat)
  if n.full || greatestWord < next then { n with full := true }
  else { n with significand := next, exponent := n.exponent - 1 }

/-- The value of the exponent digits with the sign that stands before them. -/
def exponentValue (exponent : Bool × List Char) : Int :=
  let n : Int := digitsValue 0 exponent.2
  if exponent.1 then -n else n

/-- The double of a number; nothing when it is beyond the greatest one.  An exponent that does not
fit into thirty-two bits leaves zero or is beyond every double. -/
def NumberText.double? (n : NumberText) : Option Double :=
  let whole := n.whole.foldl Leading.wholeDigit ⟨0, 0, false⟩
  let all := (n.fraction.getD []).foldl Leading.fractionDigit { whole with full := false }
  let written := (n.exponent.map exponentValue).getD 0
  let magnitude :=
    if twoTo 31 ≤ written.natAbs then
      if all.significand ≠ 0 ∧ 0 < written then none else some (Double.zero false)
    else Double.scaled (Double.ofNat all.significand) (all.exponent + written)
  magnitude.map (fun x => if n.negative then x.negate else x)

/-- The value of a number. -/
def NumberText.value? (n : NumberText) : Option Json :=
  let whole := digitsValue 0 n.whole
  if n.fraction.isNone && n.exponent.isNone then
    if !n.negative && whole ≤ greatestWord then some (.int whole)
    else if n.negative && 0 < whole && whole ≤ twoTo 63 then some (.int (-(whole : Int)))
    else n.double?.map .double
  else n.double?.map .double

/-! ## Values -/

mutual

/-- The value of a tree whose brackets nest at most `room` deep. -/
def ofTree? (room : Nat) : Tree → Option Json
  | .null => some .null
  | .bool b => some (.bool b)
  | .number n => n.value?
  | .text units => (readText? units).map .text
  | .array items => if room = 0 then none else (itemsOfTree? (room - 1) items).map .array
  | .object members =>
    if room = 0 then none else (membersOfTree? (room - 1) members).map ofMembers

/-- The values of the items of an array. -/
def itemsOfTree? (room : Nat) : List Tree → Option (List Json)
  | [] => some []
  | item :: rest =>
    match ofTree? room item, itemsOfTree? room rest with
    | some value, some values => some (value :: values)
    | _, _ => none

/-- The members of an object as they stand. -/
def membersOfTree? (room : Nat) : List (List TextUnit × Tree) → Option (List (String × Json))
  | [] => some []
  | (key, item) :: rest =>
    match readText? key, ofTree? room item, membersOfTree? room rest with
    | some name, some value, some members => some ((name, value) :: members)
    | _, _, _ => none

end

/-- How deep brackets may nest. -/
def nestingRoom : Nat := 127

/-- The value of a document. -/
def ofBytes? (bytes : List UInt8) : Option Json :=
  (Tree.ofBytes? bytes).bind (ofTree? nestingRoom)

/-- The value of a document given as text. -/
def ofText? (text : String) : Option Json :=
  ofBytes? (Utf8.encode text)

end SqlRelay.Json
