import SqlRelay.Url.Domain.CompositionTables
/-!
# Composed form

Equal sequences of letters and marks have one composed form: all characters are taken apart, runs
of marks are put into the order of their combining classes, and each mark joins the letter before
it where a composed character exists.  Syllables of Hangul are put together by arithmetic.

Main results:

- Definition `Domain.compose` gives the composed form of a text whose characters a domain name may
  hold.
-/

namespace SqlRelay.Domain

/-- The combining class of a character. -/
def combiningClass (n : Nat) : Nat :=
  if n < 0x300 then 0
  else ((domainClasses.find? (fun entry => entry.2.has n)).map (·.1)).getD 0

/-- The first syllable of Hangul. -/
def hangulBase : Nat := 0xAC00

/-- The letters of a syllable of Hangul. -/
def hangulLetters (n : Nat) : List Nat :=
  let s := n - hangulBase
  let lead := 0x1100 + s / 588
  let vowel := 0x1161 + s % 588 / 28
  if s % 28 = 0 then [lead, vowel] else [lead, vowel, 0x11A7 + s % 28]

/-- Takes a character apart, at most `depth` times over. -/
def takeApart : Nat → Nat → List Nat
  | 0, n => [n]
  | depth + 1, n =>
    if n < 0xC0 then [n]
    else if hangulBase ≤ n ∧ n < hangulBase + 11172 then hangulLetters n
    else
      match domainPairs.image? n with
      | some (first :: marks) => takeApart depth first ++ marks
      | _ => [n]

/-- Puts a mark before the marks of a higher class; all others stay in front of it.  The sequence
is held in reverse. -/
def insertMark (n cls : Nat) : List (Nat × Nat) → List (Nat × Nat)
  | [] => [(n, cls)]
  | last :: rest =>
    if cls < last.2 then last :: insertMark n cls rest else (n, cls) :: last :: rest

/-- The characters with their classes, runs of marks in order. -/
def ordered (ns : List Nat) : List (Nat × Nat) :=
  (ns.foldl (fun back n =>
    let cls := combiningClass n
    if cls = 0 then (n, 0) :: back else insertMark n cls back) []).reverse

/-! ## Putting together -/

/-- The character that two characters make. -/
def joined? (a b : Nat) : Option Nat :=
  if 0x1100 ≤ a ∧ a < 0x1113 ∧ 0x1161 ≤ b ∧ b < 0x1176 then
    some (hangulBase + (a - 0x1100) * 588 + (b - 0x1161) * 28)
  else if hangulBase ≤ a ∧ a < hangulBase + 11172 ∧ (a - hangulBase) % 28 = 0 ∧
      0x11A8 ≤ b ∧ b < 0x11C3 then some (a + (b - 0x11A7))
  else
    domainPairs.findSome? (fun block =>
      (block.images.findIdx? (· == [a, b])).map (block.first + ·))

/-- Text being put together: what is done in reverse, the letter that marks may join with the
marks after it in reverse, and the class of the last mark. -/
structure Joining where
  done : List Nat
  letter : Option Nat
  marks : List Nat
  lastClass : Nat

/-- Adds one character: it joins the letter unless a mark of the same or a higher class, or another
letter, stands between them. -/
def Joining.add (j : Joining) (entry : Nat × Nat) : Joining :=
  let (n, cls) := entry
  match j.letter with
  | none => if cls = 0 then ⟨j.done, some n, [], 0⟩ else { j with done := n :: j.done }
  | some letter =>
    let isOpen := j.marks.isEmpty || (j.lastClass < cls && j.lastClass != 0)
    match (if isOpen then joined? letter n else none) with
    | some together => { j with letter := some together }
    | none =>
      if cls = 0 then ⟨j.marks ++ letter :: j.done, some n, [], 0⟩
      else { j with marks := n :: j.marks, lastClass := cls }

/-- The composed form of a text. -/
def compose (cs : List Char) : List Char :=
  let apart := cs.flatMap (fun c => takeApart 4 c.toNat)
  let last := (ordered apart).foldl Joining.add ⟨[], none, [], 0⟩
  let back := match last.letter with
    | some letter => last.marks ++ letter :: last.done
    | none => last.done
  back.reverse.map Char.ofNat

end SqlRelay.Domain
