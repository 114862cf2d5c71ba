/-!
# Powers and decimal digits

Powers of natural numbers, by which widths of words, places of digits and scales of numbers are
given, and natural numbers written in decimal digits.

Main results:

- Definitions `twoTo` and `tenTo`, and `power` for any base.
- Definition `digitsValue` is the number that digits write.
- Definition `decimal?` reads a number up to a limit.
-/

namespace SqlRelay

/-- A power of a number. -/
def power (base exponent : Nat) : Nat :=
  Nat.pow base exponent

/-- A power of two. -/
def twoTo (exponent : Nat) : Nat :=
  power 2 exponent

/-- A power of ten. -/
def tenTo (exponent : Nat) : Nat :=
  power 10 exponent

/-- The number written by decimal digits that continue a number already read. -/
def digitsValue (start : Nat) (digits : List Char) : Nat :=
  digits.foldl (fun n c => n * 10 + (c.toNat - '0'.toNat)) start

/-- Whether a text consists of decimal digits, at least one. -/
def isDecimal (cs : List Char) : Bool :=
  !cs.isEmpty && cs.all Char.isDigit

/-- The number of at most `limit` that decimal digits write. -/
def decimal? (limit : Nat) (cs : List Char) : Option Nat :=
  if isDecimal cs && digitsValue 0 cs ≤ limit then some (digitsValue 0 cs) else none

end SqlRelay
