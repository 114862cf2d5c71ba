import SqlRelay.Double.Basic
/-!
# The shortest decimal of a double

Among the decimals that round to a double, those with the fewest digits are wanted, and of these
the one nearest to the double.  For each number of digits only the two neighbours of the double
on that decimal grid come into question.

Main results:

- Definition `Double.shortest` gives the digits and the decimal exponent.
- Definition `Double.written` lays them out: positional from `10 ^ -5` to below `10 ^ 16`, with at
  least one digit after the point, and with an exponent elsewhere.
-/

namespace SqlRelay.Double

/-- The reals between two quotients over one denominator, with both ends or without. -/
structure Interval where
  low : Nat
  high : Nat
  den : Nat
  closed : Bool

/-- Whether a quotient lies in the interval. -/
def Interval.has (i : Interval) (num den : Nat) : Bool :=
  let x := num * i.den
  let low := i.low * den
  let high := i.high * den
  if i.closed then low ≤ x && x ≤ high else low < x && x < high

/-- The reals that round to the magnitude of a finite, non-zero double.  The lower gap of a power
of two is half the upper one. -/
def rounding (x : Double) : Interval :=
  let m := x.significand
  let lowGap := if x.fractionField = 0 ∧ 1 < x.exponentField then 1 else 2
  let (num, den) :=
    if 1074 ≤ x.scale then (twoTo (x.scale - 1074), 1) else (1, twoTo (1074 - x.scale))
  { low := (4 * m - lowGap) * num
    high := (4 * m + 2) * num
    den := 4 * den
    closed := m % 2 == 0 }

/-! ## Digits -/

/-- The `k` with `10 ^ (k - 1) ≤ num / den < 10 ^ k`, for positive numbers. -/
def decimalMagnitude (num den : Nat) : Int :=
  if den ≤ num then (Nat.toDigits 10 (num / den)).length
  else 1 - (Nat.toDigits 10 ((den + num - 1) / num - 1)).length

/-- A number with decimal digits: `digits * 10 ^ exponent`. -/
structure Decimal where
  digits : Nat
  exponent : Int
  deriving DecidableEq, Repr

/-- The decimal nearest to `num / den` on the grid of multiples of `10 ^ exponent`, if one of the
two neighbours there lies in the interval. -/
def onGrid? (i : Interval) (num den : Nat) (exponent : Int) : Option Decimal :=
  let up := tenTo exponent.toNat
  let down := tenTo (-exponent).toNat
  let n := num * down
  let d := den * up
  let below := n / d
  let fits (k : Nat) : Bool := i.has (k * up) down
  let nearer := divNearest n d
  if fits below && fits (below + 1) then some ⟨nearer, exponent⟩
  else if fits below then some ⟨below, exponent⟩
  else if fits (below + 1) then some ⟨below + 1, exponent⟩
  else none

/-- The first hit on grids of ever more digits. -/
def firstOnGrid (i : Interval) (num den : Nat) (magnitude : Int) : Nat → Nat → Decimal
  | 0, count => ⟨divNearest (num * tenTo ((count : Int) - magnitude).toNat)
      (den * tenTo (magnitude - count).toNat), magnitude - count⟩
  | tries + 1, count =>
    match onGrid? i num den (magnitude - count) with
    | some found => found
    | none => firstOnGrid i num den magnitude tries (count + 1)

/-- The shortest decimal that rounds to the magnitude of a finite, non-zero double. -/
def shortest (x : Double) : Decimal :=
  let (num, den) := x.ratio
  firstOnGrid x.rounding num den (decimalMagnitude num den) 17 1

/-- Digits without the zeros at their end, and how many there were. -/
def dropZeros (digits : List Char) : List Char × Nat :=
  let kept := (digits.reverse.dropWhile (· == '0')).reverse
  (kept, digits.length - kept.length)

/-- Lays out `0.DIGITS * 10 ^ point`. -/
def layout (digits : List Char) (point : Int) : List Char :=
  let count : Int := digits.length
  if 0 < point ∧ point ≤ 16 then
    if count ≤ point then
      digits ++ List.replicate (point - count).toNat '0' ++ ['.', '0']
    else digits.take point.toNat ++ '.' :: digits.drop point.toNat
  else if -5 < point ∧ point ≤ 0 then
    '0' :: '.' :: List.replicate (-point).toNat '0' ++ digits
  else
    let e := point - 1
    let mark := if e < 0 then ['e', '-'] else ['e', '+']
    let lead := match digits with
      | [d] => [d]
      | d :: more => d :: '.' :: more
      | [] => []
    lead ++ mark ++ Nat.toDigits 10 e.natAbs

/-- The text of a finite double. -/
def written (x : Double) : List Char :=
  let sign := if x.isNegative then ['-'] else []
  if x.isZero then sign ++ ['0', '.', '0']
  else
    let found := x.shortest
    let (digits, zeros) := dropZeros (Nat.toDigits 10 found.digits)
    sign ++ layout digits (found.exponent + zeros + digits.length)

end SqlRelay.Double
