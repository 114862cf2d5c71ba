/-!
# Punycode

Labels beyond ASCII are written with ASCII letters and digits: first the ASCII characters, then,
after a hyphen, the places and values of all others as a row of numbers, each in digits whose
thresholds follow the sizes of the numbers before.

Main results:

- Definition `Punycode.encode` writes a label.
- Definition `Punycode.decode?` reads one, one digit at a time.
- Theorem `threshold_pos`: no threshold is zero, so that every row of digits ends.
-/

namespace SqlRelay.Punycode

/-- The number of digits. -/
def base : Nat := 36

/-- The digit of a value below thirty-six. -/
def digitChar (n : Nat) : Char :=
  if n < 26 then Char.ofNat ('a'.toNat + n) else Char.ofNat ('0'.toNat + (n - 26))

/-- The value of a digit. -/
def digitValue? (c : Char) : Option Nat :=
  if 'a' ≤ c ∧ c ≤ 'z' then some (c.toNat - 'a'.toNat)
  else if 'A' ≤ c ∧ c ≤ 'Z' then some (c.toNat - 'A'.toNat)
  else if '0' ≤ c ∧ c ≤ '9' then some (c.toNat - '0'.toNat + 26)
  else none

/-- The threshold of the digit whose place counts `k`: a digit below it is the last one. -/
def threshold (k bias : Nat) : Nat :=
  if k ≤ bias then 1 else min (k - bias) 26

/-- No threshold is zero. -/
theorem threshold_pos (k bias : Nat) : 1 ≤ threshold k bias := by
  unfold threshold; split <;> omega

/-- Scales a number down to at most 455 and counts thirty-six for each step. -/
def scaleDown (delta k : Nat) : Nat × Nat :=
  if 455 < delta then scaleDown (delta / 35) (k + base) else (delta, k)
termination_by delta
decreasing_by omega

/-- The bias after a number; `count` characters are placed so far. -/
def adapt (delta count : Nat) (isFirst : Bool) : Nat :=
  let halved := if isFirst then delta / 700 else delta / 2
  let (rest, k) := scaleDown (halved + halved / count) 0
  k + base * rest / (rest + 38)

/-! ## Writing and reading -/

/-- The digits of a number. -/
def digitsOf (bias k q : Nat) : List Char :=
  let t := threshold k bias
  if q < t then [digitChar q]
  else digitChar (t + (q - t) % (base - t)) :: digitsOf bias (k + base) ((q - t) / (base - t))
termination_by q
decreasing_by
  have h1 := threshold_pos k bias
  have := Nat.div_le_self (q - threshold k bias) (base - threshold k bias)
  omega

/-- A label being written; the digits are held in reverse. -/
structure Writing where
  back : List Char
  delta : Nat
  bias : Nat
  placed : Nat

/-- Passes one character of the label while those of value `m` are placed; `plain` characters are
ASCII. -/
def Writing.pass (plain m : Nat) (w : Writing) (c : Nat) : Writing :=
  if c < m then { w with delta := w.delta + 1 }
  else if c = m then
    { back := (digitsOf w.bias base w.delta).reverse ++ w.back
      delta := 0
      bias := adapt w.delta (w.placed + 1) (w.placed == plain)
      placed := w.placed + 1 }
  else w

/-- Places the characters of each value, given in ascending order; `next` is the least value that
is not placed yet. -/
def placeAll (label : List Nat) (plain : Nat) : List Nat → Nat → Writing → Writing
  | [], _, w => w
  | m :: more, next, w =>
    let start := { w with delta := w.delta + (m - next) * (w.placed + 1) }
    let done := label.foldl (Writing.pass plain m) start
    placeAll label plain more (m + 1) { done with delta := done.delta + 1 }

/-- Puts a number into an ascending list without repetition. -/
def insertOnce (n : Nat) : List Nat → List Nat
  | [] => [n]
  | m :: rest =>
    if n < m then n :: m :: rest else if n = m then m :: rest else m :: insertOnce n rest

/-- The ASCII form of a label, without its mark in front. -/
def encode (label : List Char) : List Char :=
  let codes := label.map Char.toNat
  let plain := label.filter (fun c => c.toNat < 0x80)
  let values := (codes.filter (0x80 ≤ ·)).foldr insertOnce []
  let done := placeAll codes plain.length values 0x80 ⟨[], 0, 72, plain.length⟩
  (if plain.isEmpty then [] else plain ++ ['-']) ++ done.back.reverse

/-- A label being read: the characters placed, the value and the place reached, and the number
that is being read, which started from `started`. -/
structure Placing where
  chars : List Nat
  value : Nat
  place : Nat
  bias : Nat
  started : Nat
  weight : Nat
  k : Nat

/-- Between two numbers. -/
def Placing.isBetween (p : Placing) : Bool :=
  p.k == base

/-- Places one character. -/
def Placing.finish (p : Placing) (place : Nat) : Placing :=
  let count := p.chars.length + 1
  let value := p.value + place / count
  let index := place % count
  { chars := p.chars.take index ++ value :: p.chars.drop index
    value := value
    place := index + 1
    bias := adapt (place - p.started) count (p.started == 0)
    started := index + 1
    weight := 1
    k := base }

/-- Reads one digit; a value beyond the code points is refused. -/
def Placing.step (p : Placing) (c : Char) : Option Placing :=
  match digitValue? c with
  | none => none
  | some d =>
    let place := p.place + d * p.weight
    let t := threshold p.k p.bias
    if d < t then
      let done := p.finish place
      if done.value.isValidChar then some done else none
    else some { p with place := place, weight := p.weight * (base - t), k := p.k + base }

/-- The text before the last hyphen, if a character stands there, and the digits. -/
def splitDigits (cs : List Char) : List Char × List Char :=
  let back := cs.reverse
  let before := ((back.dropWhile (· != '-')).drop 1).reverse
  if before.isEmpty then ([], cs) else (before, (back.takeWhile (· != '-')).reverse)

/-- The label of an ASCII form without its mark in front. -/
def decode? (cs : List Char) : Option (List Char) :=
  let (plain, digits) := splitDigits cs
  let start : Placing := ⟨plain.map Char.toNat, 0x80, 0, 72, 0, 1, base⟩
  match digits.foldlM Placing.step start with
  | none => none
  | some p => if p.isBetween then some (p.chars.map Char.ofNat) else none

end SqlRelay.Punycode
