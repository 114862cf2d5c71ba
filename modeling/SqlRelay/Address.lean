import SqlRelay.Number
import SqlRelay.Text.Blank
import SqlRelay.Text.Notation
/-!
# Network addresses

Addresses of version 4 and version 6, alone or with a port.

Main results:

- Definitions `Ipv4.ofText?` and `Ipv6.ofText?` read addresses, `text` writes them.
- Definition `SocketAddress.ofText?` reads an address with a port.
-/

namespace SqlRelay

/-- An address of version 4, as a number of thirty-two bits. -/
structure Ipv4 where
  value : Nat
  deriving DecidableEq, Repr

namespace Ipv4

/-- A number below 256 without a zero in front. -/
def octet? (cs : List Char) : Option Nat :=
  if cs.head? = some '0' ∧ cs ≠ ['0'] then none else decimal? 255 cs

/-- The address of four octets. -/
def ofOctets (a b c d : Nat) : Ipv4 :=
  ⟨((a * 256 + b) * 256 + c) * 256 + d⟩

/-- Reads four octets between dots. -/
def ofText? (cs : List Char) : Option Ipv4 :=
  match (Text.cut (· == '.') cs).map octet? with
  | [some a, some b, some c, some d] => some (ofOctets a b c d)
  | _ => none

/-- Four octets between dots. -/
def text (a : Ipv4) : String :=
  ".".intercalate ([a.value / twoTo 24, a.value / twoTo 16 % 256, a.value / twoTo 8 % 256,
    a.value % 256].map toString)

end Ipv4

/-- An address of version 6, as eight groups of sixteen bits. -/
structure Ipv6 where
  groups : List Nat
  deriving DecidableEq, Repr

namespace Ipv6

/-- A group of at most four hexadecimal digits. -/
def group? (cs : List Char) : Option Nat :=
  if 4 < cs.length then none else Text.hexNumber? cs

/-- The groups between colons; the last part may be an address of version 4 where `dotted` allows
it, which makes two groups. -/
def groupsOf? (dotted : Bool) : List (List Char) → Option (List Nat)
  | [] => some []
  | [part] =>
    match group? part with
    | some n => some [n]
    | none =>
      if dotted then (Ipv4.ofText? part).map (fun a => [a.value / twoTo 16, a.value % twoTo 16])
      else none
  | part :: next :: parts =>
    match group? part, groupsOf? dotted (next :: parts) with
    | some n, some more => some (n :: more)
    | _, _ => none

/-- The groups of a text; an empty text has none. -/
def side? (dotted : Bool) (cs : List Char) : Option (List Nat) :=
  if cs.isEmpty then some [] else groupsOf? dotted (Text.cut (· == ':') cs)

/-- The text before the first two colons in a row, and the text after them. -/
def splitGap : List Char → Option (List Char × List Char)
  | ':' :: ':' :: rest => some ([], rest)
  | c :: rest => (splitGap rest).map (fun (before, after) => (c :: before, after))
  | [] => none

/-- Puts zero groups between two sides, so that there are eight groups. -/
def expand (left right : List Nat) : List Nat :=
  left ++ List.replicate (8 - left.length - right.length) 0 ++ right

/-- Reads eight groups, or fewer with one gap that stands for at least one zero group. -/
def ofText? (cs : List Char) : Option Ipv6 :=
  match splitGap cs with
  | some (before, after) =>
    match side? false before, side? true after with
    | some left, some right =>
      if left.length + right.length ≤ 7 then some ⟨expand left right⟩ else none
    | _, _ => none
  | none =>
    match side? true cs with
    | some groups => if groups.length = 8 then some ⟨groups⟩ else none
    | none => none

/-- A group without zeros in front. -/
def groupText (n : Nat) : String :=
  String.ofList (Nat.toDigits 16 n)

/-- How many zero groups stand in front. -/
def zerosAhead (groups : List Nat) : Nat :=
  (groups.takeWhile (· == 0)).length

/-- Where the first longest run of zero groups starts and how long it is. -/
def longestRun (groups : List Nat) : Nat × Nat :=
  (List.range groups.length).foldl (fun best i =>
    let run := zerosAhead (groups.drop i)
    if best.2 < run then (i, run) else best) (0, 0)

/-- Groups between colons, with a gap for the first longest run of at least two zeros. -/
def abbreviated (a : Ipv6) : String :=
  let (start, run) := longestRun a.groups
  let write (groups : List Nat) : String := ":".intercalate (groups.map groupText)
  if run < 2 then write a.groups
  else write (a.groups.take start) ++ "::" ++ write (a.groups.drop (start + run))

/-- The abbreviated groups; an address that stands for one of version 4 shows it. -/
def text (a : Ipv6) : String :=
  match a.groups with
  | [0, 0, 0, 0, 0, 0xFFFF, high, low] => "::ffff:" ++ Ipv4.text ⟨high * twoTo 16 + low⟩
  | _ => a.abbreviated

end Ipv6

/-! ## Addresses with a port -/

/-- An address with a port; one of version 6 may name a scope. -/
inductive SocketAddress where
  | v4 (address : Ipv4) (port : Nat)
  | v6 (address : Ipv6) (scope port : Nat)
  deriving DecidableEq, Repr

namespace SocketAddress

/-- The port after its colon. -/
def port? : List Char → Option Nat
  | ':' :: digits => decimal? (twoTo 16 - 1) digits
  | _ => none

/-- The scope after its percent sign; zero without one. -/
def scope? : List Char → Option Nat
  | [] => some 0
  | '%' :: digits => decimal? (twoTo 32 - 1) digits
  | _ => none

/-- An address of version 6 with its scope, between brackets, and the port. -/
def bracketed? (cs : List Char) : Option SocketAddress :=
  let inner := cs.takeWhile (· != ']')
  let address := Ipv6.ofText? (inner.takeWhile (· != '%'))
  match address, scope? (inner.dropWhile (· != '%')), port? ((cs.dropWhile (· != ']')).drop 1) with
  | some a, some scope, some port => some (.v6 a scope port)
  | _, _, _ => none

/-- Reads an address and a port. -/
def ofText? (cs : List Char) : Option SocketAddress :=
  match cs with
  | '[' :: rest => bracketed? rest
  | _ =>
    match Ipv4.ofText? (cs.takeWhile (· != ':')), port? (cs.dropWhile (· != ':')) with
    | some a, some port => some (.v4 a port)
    | _, _ => none

/-- The address without the port. -/
def hostText : SocketAddress → String
  | .v4 a _ => a.text
  | .v6 a _ _ => a.text

/-- The address and the port. -/
def text : SocketAddress → String
  | .v4 a port => a.text ++ ":" ++ toString port
  | .v6 a scope port =>
    let mark := if scope = 0 then "" else "%" ++ toString scope
    "[" ++ a.text ++ mark ++ "]:" ++ toString port

end SocketAddress
end SqlRelay
