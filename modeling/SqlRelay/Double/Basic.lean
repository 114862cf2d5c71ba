import SqlRelay.Number
/-!
# Double-precision numbers

A double is held as its 64 bits; its value is read off the sign, the exponent field and the
fraction field in exact arithmetic of natural numbers.  `Double.nearest` rounds any quotient to
the nearest double, a tie going to the even neighbour.

Main results:

- Definition `Double.ratio` gives the magnitude of a finite double as a quotient.
- Definition `Double.nearest` is the only place where a number is rounded.
-/

namespace SqlRelay

/-- A double-precision number, as its 64 bits. -/
structure Double where
  bits : UInt64
  deriving DecidableEq, Repr, Inhabited

namespace Double

/-- The sign bit. -/
def isNegative (x : Double) : Bool :=
  twoTo 63 ≤ x.bits.toNat

/-- The exponent field, of eleven bits. -/
def exponentField (x : Double) : Nat :=
  x.bits.toNat / twoTo 52 % twoTo 11

/-- The fraction field, of fifty-two bits. -/
def fractionField (x : Double) : Nat :=
  x.bits.toNat % twoTo 52

/-- Neither an infinity nor a NaN. -/
def isFinite (x : Double) : Bool :=
  x.exponentField != 2047

/-- An exponent field of ones with a fraction. -/
def isNaN (x : Double) : Bool :=
  x.exponentField == 2047 && x.fractionField != 0

/-- Both zeros. -/
def isZero (x : Double) : Bool :=
  x.exponentField == 0 && x.fractionField == 0

/-- The whole significand: the fraction field, with the leading bit of a normal number. -/
def significand (x : Double) : Nat :=
  if x.exponentField = 0 then x.fractionField else x.fractionField + twoTo 52

/-- The exponent of the significand's last bit, plus 1074. -/
def scale (x : Double) : Nat :=
  x.exponentField - 1

/-- The magnitude of a finite double, as numerator and denominator. -/
def ratio (x : Double) : Nat × Nat :=
  if 1074 ≤ x.scale then (x.significand * twoTo (x.scale - 1074), 1)
  else (x.significand, twoTo (1074 - x.scale))

/-! ## Rounding -/

/-- The quotient rounded to the nearest number, a tie to the even one. -/
def divNearest (num den : Nat) : Nat :=
  let q := num / den
  let twice := 2 * (num % den)
  if twice < den then q
  else if den < twice then q + 1
  else if q % 2 = 0 then q else q + 1

/-- The greatest `e` with `2 ^ e ≤ num / den`, for positive numbers. -/
def binaryMagnitude (num den : Nat) : Int :=
  let e : Int := (Nat.log2 num : Int) - Nat.log2 den
  let below := if 0 ≤ e then num < den * twoTo e.toNat else num * twoTo (-e).toNat < den
  if below then e - 1 else e

/-- Puts a sign in front of the bits of a magnitude. -/
def withSign (negative : Bool) (magnitude : Nat) : Double :=
  ⟨UInt64.ofNat (if negative then magnitude + twoTo 63 else magnitude)⟩

/-- The zeros. -/
def zero (negative : Bool) : Double :=
  withSign negative 0

/-- The infinities. -/
def infinity (negative : Bool) : Double :=
  withSign negative (2047 * twoTo 52)

/-- The quiet NaNs without a payload. -/
def quietNaN (negative : Bool) : Double :=
  withSign negative (2047 * twoTo 52 + twoTo 51)

/-- The double nearest to a quotient with the given sign; too great a quotient is infinite. -/
def nearest (negative : Bool) (num den : Nat) : Double :=
  if num = 0 then zero negative
  else
    let e := max (binaryMagnitude num den) (-1022)
    let shift := 52 - e
    let significand :=
      if 0 ≤ shift then divNearest (num * twoTo shift.toNat) den
      else divNearest num (den * twoTo (-shift).toNat)
    let magnitude := (e + 1022).toNat * twoTo 52 + significand
    if 2047 * twoTo 52 ≤ magnitude then infinity negative else withSign negative magnitude

/-- The double nearest to a natural number. -/
def ofNat (n : Nat) : Double :=
  nearest false n 1

/-- The double nearest to an integer. -/
def ofInt (n : Int) : Double :=
  nearest (n < 0) n.natAbs 1

/-- The number one. -/
def one : Double := ⟨0x3FF0000000000000⟩

/-- The number with the other sign. -/
def negate (x : Double) : Double :=
  withSign (!x.isNegative) (x.bits.toNat % twoTo 63)

/-- At least zero; both zeros are, a NaN is not. -/
def isNonNegative (x : Double) : Bool :=
  !x.isNaN && (!x.isNegative || x.isZero)

/-- Finite and without a fractional part. -/
def isIntegral (x : Double) : Bool :=
  x.isFinite && x.ratio.1 % x.ratio.2 == 0

/-- At most one; a NaN is not. -/
def atMostOne (x : Double) : Bool :=
  !x.isNaN && (x.isNegative || x.bits.toNat ≤ one.bits.toNat)

/-- The whole part of a magnitude, capped at the greatest 64-bit number. -/
def toCount (x : Double) : Nat :=
  if x.isFinite then min (x.ratio.1 / x.ratio.2) (twoTo 64 - 1) else twoTo 64 - 1

end Double
end SqlRelay
