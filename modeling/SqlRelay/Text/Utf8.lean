/-!
# Decoding UTF-8

One byte at a time: between characters, or inside one with a list of ranges for the bytes still
owed.  A byte that does not fit closes the character as invalid and is then read as a first byte,
so each invalid stretch is as long as the start of some valid character.

Main results:

- Definition `Utf8.decode` gives a character or an invalid stretch at each place.
- Definitions `Utf8.strict?` and `Utf8.lossy` refuse invalid stretches and replace them.
-/

namespace SqlRelay.Utf8

/-- A character begun: its value so far and the ranges of the bytes still owed, none between
characters. -/
structure Pending where
  value : Nat
  owed : List (Nat × Nat)

/-- Between characters. -/
def idle : Pending := ⟨0, []⟩

/-- A byte inside a character. -/
def tail : Nat × Nat := (0x80, 0xBF)

/-- What a first byte begins. -/
def lead (b : Nat) : Option Pending :=
  if b ≤ 0x7F then some ⟨b, []⟩
  else if 0xC2 ≤ b ∧ b ≤ 0xDF then some ⟨b - 0xC0, [tail]⟩
  else if b = 0xE0 then some ⟨0, [(0xA0, 0xBF), tail]⟩
  else if b = 0xED then some ⟨0xD, [(0x80, 0x9F), tail]⟩
  else if 0xE1 ≤ b ∧ b ≤ 0xEF then some ⟨b - 0xE0, [tail, tail]⟩
  else if b = 0xF0 then some ⟨0, [(0x90, 0xBF), tail, tail]⟩
  else if 0xF1 ≤ b ∧ b ≤ 0xF3 then some ⟨b - 0xF0, [tail, tail, tail]⟩
  else if b = 0xF4 then some ⟨4, [(0x80, 0x8F), tail, tail]⟩
  else none

/-- What a byte between characters yields at once, and what it leaves open. -/
def first (b : Nat) : List (Option Char) × Pending :=
  match lead b with
  | none => ([none], idle)
  | some p => if p.owed.isEmpty then ([some (Char.ofNat p.value)], idle) else ([], p)

/-- What a byte yields after a character begun. -/
def step (p : Pending) (b : Nat) : List (Option Char) × Pending :=
  match p.owed with
  | [] => first b
  | (low, high) :: owed =>
    if low ≤ b ∧ b ≤ high then
      let value := p.value * 64 + b % 64
      if owed.isEmpty then ([some (Char.ofNat value)], idle) else ([], ⟨value, owed⟩)
    else
      let (found, next) := first b
      (none :: found, next)

/-- Reads one byte; what was found so far is held in reverse. -/
def advance (state : Pending × List (Option Char)) (b : UInt8) : Pending × List (Option Char) :=
  let (found, next) := step state.1 b.toNat
  (next, found.reverse ++ state.2)

/-- The characters of a byte sequence; `none` is an invalid stretch. -/
def decode (bytes : List UInt8) : List (Option Char) :=
  let (last, back) := bytes.foldl advance (idle, [])
  if last.owed.isEmpty then back.reverse else (none :: back).reverse

/-- The text of a byte sequence without invalid stretches. -/
def strict? (bytes : List UInt8) : Option String :=
  ((decode bytes).mapM id).map String.ofList

/-- The text of a byte sequence, with U+FFFD for each invalid stretch. -/
def lossy (bytes : List UInt8) : String :=
  String.ofList ((decode bytes).map (fun c => c.getD '\uFFFD'))

/-- The bytes of a text. -/
def encode (s : String) : List UInt8 :=
  s.toList.flatMap String.utf8EncodeChar

end SqlRelay.Utf8
