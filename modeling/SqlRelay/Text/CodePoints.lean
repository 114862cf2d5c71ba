import SqlRelay.Text.Blank
import SqlRelay.Text.Notation
/-!
# Sets of code points

A set of code points is a list of runs, and a run is written in hexadecimal as `41-5A`, as
`100-136/2` when it takes every second one, or as `B5` when it holds one code point.  A run that
maps its members is written with the image of its first member, as `41-5A>61`.

Main results:

- Definition `CodePoints.has` tests membership.
- Definition `CodePoints.image?` maps a member to its image.
- Definition `Images.image?` looks up the images of single code points, which are written in blocks
  as `@A8 20.308`.
-/

namespace SqlRelay.Text

/-- Every `step`-th code point from `first` to `last`, and the image of the first. -/
structure Run where
  first : Nat
  last : Nat
  step : Nat
  target : Nat

namespace Run

/-- Membership in a run. -/
def has (r : Run) (n : Nat) : Bool :=
  r.first ≤ n && n ≤ r.last && (n - r.first) % r.step == 0

/-- The text before the first `sep` and the text after it, if there is one. -/
def splitFirst (sep : Char) (cs : List Char) : List Char × Option (List Char) :=
  match cs.dropWhile (· != sep) with
  | [] => (cs, none)
  | _ :: after => (cs.takeWhile (· != sep), some after)

/-- Reads the notation of a run. -/
def ofText? (cs : List Char) : Option Run :=
  let (body, image) := splitFirst '>' cs
  let (span, every) := splitFirst '/' body
  let (low, high) := splitFirst '-' span
  match hexNumber? low, hexNumber? (high.getD low), hexNumber? (every.getD ['1']) with
  | some first, some last, some step =>
    some ⟨first, last, step, (image.bind hexNumber?).getD first⟩
  | _, _, _ => none

end Run

/-- A set of code points with their images. -/
abbrev CodePoints := List Run

namespace CodePoints

/-- Reads runs written between blanks. -/
def ofText (s : String) : CodePoints :=
  (words s.toList).filterMap Run.ofText?

/-- Membership. -/
def has (set : CodePoints) (n : Nat) : Bool :=
  set.any (·.has n)

/-- The image of a member. -/
def image? (set : CodePoints) (n : Nat) : Option Nat :=
  (set.find? (·.has n)).map (fun r => r.target + (n - r.first))

end CodePoints

/-- The images of the code points from `first` on. -/
structure ImageBlock where
  first : Nat
  images : List (List Nat)

/-- Images in blocks. -/
abbrev Images := List ImageBlock

namespace Images

/-- Reads one word of the notation: the start of a block, or the next image, of code points
between dots.  The blocks so far are held with the last one first and its images in reverse. -/
def readWord (back : List ImageBlock) (word : List Char) : List ImageBlock :=
  match word with
  | '@' :: digits => ⟨(hexNumber? digits).getD 0, []⟩ :: back
  | _ =>
    match back with
    | [] => []
    | block :: rest =>
      { block with images := (cut (· == '.') word).filterMap hexNumber? :: block.images } :: rest

/-- Reads blocks. -/
def ofText (s : String) : Images :=
  (((words s.toList).foldl readWord []).map
    (fun block => { block with images := block.images.reverse })).reverse

/-- The image of a code point. -/
def image? (blocks : Images) (n : Nat) : Option (List Nat) :=
  (blocks.find? (fun block => block.first ≤ n && n < block.first + block.images.length)).bind
    (fun block => block.images[n - block.first]?)

end Images
end SqlRelay.Text
