import SqlRelay.Address
import SqlRelay.Text.Utf8
import SqlRelay.Url.Domain
import SqlRelay.Url.Fault
/-!
# Hosts of URLs

The host of a URL with one of the special schemes is a domain name or an address; a domain name
whose last label is a number is read as an address of version 4, with octal and hexadecimal
parts.  The host of any other URL is a name that is kept as it stands, or an address of version 6.

Main results:

- Type `Host`, with its text in a URL in `Host.written`.
- Definitions `Host.ofSpecial` and `Host.ofOther` read hosts.
-/

namespace SqlRelay

/-- The host of a URL. -/
inductive Host where
  | domain (name : List Char)
  | v4 (address : Ipv4)
  | v6 (address : Ipv6)
  deriving DecidableEq, Repr

namespace Host

/-- The text of a host in a URL. -/
def written : Host → List Char
  | .domain name => name
  | .v4 a => a.text.toList
  | .v6 a => '[' :: a.abbreviated.toList ++ [']']

/-- A number with an optional sign of its base: too great ones are told from texts that are no
number. -/
inductive PartNumber where
  | number (n : Nat)
  | tooGreat
  | none
  deriving DecidableEq

/-- The digits in a base. -/
def digitsIn? (base : Nat) (cs : List Char) : Option Nat :=
  cs.foldlM (fun n c =>
    match Text.hexValue? c with
    | some d => if d < base then some (n * base + d) else Option.none
    | Option.none => Option.none) 0

/-- A number of thirty-two bits in a base; no digits are zero. -/
def numberIn (base : Nat) (cs : List Char) : PartNumber :=
  match digitsIn? base cs with
  | some n => if n < twoTo 32 then .number n else .tooGreat
  | Option.none => .none

/-- Reads a part of a domain name as a number. -/
def partNumber : List Char → PartNumber
  | [] => .none
  | '0' :: 'x' :: rest => numberIn 16 rest
  | '0' :: 'X' :: rest => numberIn 16 rest
  | '0' :: c :: rest => numberIn 8 (c :: rest)
  | cs => numberIn 10 cs

/-- The parts of a domain name between dots; one dot at the end makes no part. -/
def partsOf (name : List Char) : List (List Char) :=
  let parts := Text.cut (· == '.') name
  if parts.getLast? = some [] then parts.dropLast else parts

/-- Whether the last part of a domain name is a number. -/
def endsInNumber (name : List Char) : Bool :=
  match (partsOf name).getLast? with
  | some last => isDecimal last || partNumber last != .none
  | Option.none => false

/-- All numbers, if all parts are numbers. -/
def allNumbers? (parts : List (List Char)) : Option (List Nat) :=
  parts.mapM (fun part =>
    match partNumber part with
    | .number n => some n
    | _ => Option.none)

/-- The address of at most four numbers; the last one fills what the others leave. -/
def ipv4OfNumbers? (numbers : List Nat) : Option Ipv4 :=
  match numbers.reverse with
  | [] => Option.none
  | last :: back =>
    let first := back.reverse
    if 3 < first.length || first.any (255 < ·) || power 256 (4 - first.length) ≤ last then
      Option.none
    else
      let high := first.foldl (fun n part => n * 256 + part) 0
      some ⟨high * power 256 (4 - first.length) + last⟩

/-! ## Reading -/

/-- An address of version 6 between brackets. -/
def bracketed (cs : List Char) : Except UrlFault Host :=
  if cs.getLast? = some ']' then
    match Ipv6.ofText? ((cs.drop 1).dropLast) with
    | some a => .ok (.v6 a)
    | Option.none => .error .badIpv6
  else .error .badIpv6

/-- The host of a URL with a special scheme. -/
def ofSpecial (cs : List Char) : Except UrlFault Host :=
  if cs.head? = some '[' then bracketed cs
  else
    let decoded := Text.percentDecode (Utf8.encode (String.ofList cs))
    match (Utf8.strict? decoded).bind (fun s => Domain.toAscii? s.toList) with
    | Option.none => .error .badDomain
    | some [] => .error .emptyHost
    | some name =>
      if endsInNumber name then
        match (allNumbers? (partsOf name)).bind ipv4OfNumbers? with
        | some a => .ok (.v4 a)
        | Option.none => .error .badIpv4
      else .ok (.domain name)

/-- Control characters, and all characters beyond ASCII. -/
def isControlOrWide (c : Char) : Bool :=
  c.toNat < 0x20 || 0x7F ≤ c.toNat

/-- The characters that no host may hold as they stand. -/
def isForbidden (c : Char) : Bool :=
  ['\x00', '\t', '\n', '\r', ' ', '#', '/', ':', '<', '>', '?', '@', '[', '\\', ']', '^',
    '|'].contains c

/-- The host of any other URL. -/
def ofOther (cs : List Char) : Except UrlFault Host :=
  if cs.head? = some '[' then bracketed cs
  else if cs.any isForbidden then .error .badHostCharacter
  else .ok (.domain (Text.percentEncode isControlOrWide cs))

end Host
end SqlRelay
