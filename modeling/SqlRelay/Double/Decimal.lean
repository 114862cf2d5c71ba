import SqlRelay.Double.Basic
/-!
# Reading doubles from decimal notation

Two rules turn decimal digits into a double.  `Double.ofDecimal` rounds the exact value once.
`Double.scaled` rounds the significand to a double first and then multiplies or divides it by a
power of ten that is itself a double, which rounds once more.

Main results:

- Definition `Double.ofText?` reads the decimal notation of a number with an optional sign,
  fraction and exponent, and the words for infinity and NaN.
-/

namespace SqlRelay.Double

/-- The double nearest to `significand * 10 ^ exponent`.  Beyond the range of doubles the power
is not computed. -/
def ofDecimal (negative : Bool) (significand : Nat) (exponent : Int) : Double :=
  if significand = 0 then zero negative
  else
    let digits : Int := (Nat.toDigits 10 significand).length
    if 310 < digits + exponent then infinity negative
    else if digits + exponent < -330 then zero negative
    else if 0 ≤ exponent then nearest negative (significand * tenTo exponent.toNat) 1
    else nearest negative significand (tenTo (-exponent).toNat)

/-- The product of two non-negative doubles, rounded. -/
def times (x y : Double) : Double :=
  nearest false (x.ratio.1 * y.ratio.1) (x.ratio.2 * y.ratio.2)

/-- The quotient of two non-negative doubles, rounded. -/
def dividedBy (x y : Double) : Double :=
  nearest false (x.ratio.1 * y.ratio.2) (x.ratio.2 * y.ratio.1)

/-- The double nearest to a power of ten. -/
def powerOfTen (k : Nat) : Double :=
  ofNat (tenTo k)

/-- Scales a non-negative double by a power of ten in steps of at most `10 ^ 308`; nothing when
the result is beyond the greatest double. -/
def scaled (x : Double) (exponent : Int) : Option Double :=
  if exponent.natAbs ≤ 308 then
    if 0 ≤ exponent then
      let y := times x (powerOfTen exponent.natAbs)
      if y.isFinite then some y else none
    else some (dividedBy x (powerOfTen exponent.natAbs))
  else if x.isZero then some x
  else if 0 ≤ exponent then none
  else scaled (dividedBy x (powerOfTen 308)) (exponent + 308)
termination_by exponent.natAbs
decreasing_by omega

/-! ## Decimal notation -/

/-- The optional sign in front of a number. -/
def splitSign : List Char → Bool × List Char
  | '-' :: rest => (true, rest)
  | '+' :: rest => (false, rest)
  | rest => (false, rest)

/-- The exponent after a number: absent, or a letter `e` with an optional sign and digits. -/
def exponent? : List Char → Option Int
  | [] => some 0
  | c :: rest =>
    if c.toLower = 'e' then
      let (negative, digits) := splitSign rest
      if isDecimal digits then
        let value : Int := digitsValue 0 digits
        some (if negative then -value else value)
      else none
    else none

/-- An unsigned number: digits with an optional point, at least one digit, and an exponent. -/
def unsigned? (negative : Bool) (cs : List Char) : Option Double :=
  let whole := cs.takeWhile Char.isDigit
  let rest := cs.dropWhile Char.isDigit
  let afterPoint := match rest with
    | '.' :: more => more
    | _ => []
  let fraction := afterPoint.takeWhile Char.isDigit
  let tail := match rest with
    | '.' :: more => more.dropWhile Char.isDigit
    | _ => rest
  if whole.isEmpty && fraction.isEmpty then none
  else
    match exponent? tail with
    | none => none
    | some e =>
      some (ofDecimal negative (digitsValue 0 (whole ++ fraction)) (e - fraction.length))

/-- A number in decimal notation, or one of the words `inf`, `infinity` and `nan` in any case,
with an optional sign. -/
def ofText? (text : List Char) : Option Double :=
  let (negative, rest) := splitSign text
  let word := String.ofList (rest.map Char.toLower)
  if word = "inf" ∨ word = "infinity" then some (infinity negative)
  else if word = "nan" then some (quietNaN negative)
  else unsigned? negative rest

end SqlRelay.Double
