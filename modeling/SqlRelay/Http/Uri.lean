import SqlRelay.Text.Utf8
import SqlRelay.Text.Blank
/-!
# Request targets

The target of a request is a path with an optional query, a whole URI, an authority alone, or a
star.  It is checked byte by byte and nothing in it is decoded; a fragment is dropped.

Main results:

- Definition `Uri.ofText?` reads a target.
- Definition `isAuthority` checks an authority.
-/

namespace SqlRelay

/-- A request target: the host if it names one, the path, and the query if there is one. -/
structure Uri where
  host : Option String
  path : String
  query : Option String
  deriving DecidableEq, Repr

namespace Uri

/-- The longest target in bytes. -/
def longest : Nat := 65534

/-- The characters that a path holds as they are. -/
def isPathChar (c : Char) : Bool :=
  let n := c.toNat
  n == 0x21 || (0x24 ≤ n && n ≤ 0x3B) || n == 0x3D || (0x40 ≤ n && n ≤ 0x5F) ||
    (0x61 ≤ n && n ≤ 0x7A) || n == 0x7C || n == 0x7E || 0x80 ≤ n ||
    c == '"' || c == '\x7b' || c == '\x7d'

/-- The characters that a query holds as they are. -/
def isQueryChar (c : Char) : Bool :=
  let n := c.toNat
  n == 0x21 || (0x24 ≤ n && n ≤ 0x3B) || n == 0x3D || (0x3F ≤ n && n ≤ 0x7E) || 0x80 ≤ n

/-- The characters of a scheme. -/
def isSchemeChar (c : Char) : Bool :=
  c.isAlphanum || c == '+' || c == '-' || c == '.' || c == '~'

/-- The characters of an authority that have no meaning of their own. -/
def isPlain (c : Char) : Bool :=
  c.isAlphanum ||
    ['!', '$', '&', '\'', '(', ')', '*', '+', ',', '-', '.', ';', '=', '_', '~'].contains c

/-- What was seen of an authority since the last sign that starts anew. -/
structure AuthorityScan where
  colons : Nat
  opened : Bool
  closed : Bool
  percent : Bool
  endsInAt : Bool

/-- Reads one character of an authority. -/
def AuthorityScan.step (s : AuthorityScan) (c : Char) : Option AuthorityScan :=
  let t := { s with endsInAt := false }
  if c = ':' then if 8 ≤ s.colons then none else some { t with colons := s.colons + 1 }
  else if c = '[' then if s.percent || s.opened then none else some { t with opened := true }
  else if c = ']' then
    if !s.opened || s.closed then none
    else some { t with closed := true, colons := 0, percent := false }
  else if c = '@' then some { t with colons := 0, percent := false, endsInAt := true }
  else if c = '%' then some { t with percent := true }
  else if isPlain c then some t
  else none

/-- Whether an authority is well formed. -/
def isAuthority (cs : List Char) : Bool :=
  match cs.foldlM AuthorityScan.step ⟨0, false, false, false, false⟩ with
  | none => false
  | some s => s.opened == s.closed && s.colons ≤ 1 && !s.endsInAt && !s.percent

/-- Whether a character ends an authority. -/
def endsAuthority (c : Char) : Bool :=
  c == '/' || c == '?' || c == '#'

/-- The host of an authority, without user information and port. -/
def hostOf (authority : List Char) : String :=
  let place := (authority.reverse.takeWhile (· != '@')).reverse
  String.ofList (
    if place.head? = some '[' then place.takeWhile (· != ']') ++ [']']
    else place.takeWhile (· != ':'))

/-! ## Targets -/

/-- A path and a query, without the fragment. -/
def pathAndQuery? (host : Option String) (cs : List Char) : Option Uri :=
  let body := cs.takeWhile (· != '#')
  let path := body.takeWhile (· != '?')
  let query := (body.dropWhile (· != '?')).drop 1
  if path.all isPathChar && query.all isQueryChar then
    some ⟨host, if path.isEmpty then "/" else String.ofList path,
      if path.length = body.length then none else some (String.ofList query)⟩
  else none

/-- The rest of a target after a scheme and the two slashes. -/
def afterScheme? (cs : List Char) : Option (List Char) :=
  match cs.dropWhile isSchemeChar with
  | ':' :: '/' :: '/' :: rest => if (cs.takeWhile isSchemeChar).length ≤ 64 then some rest else none
  | _ => none

/-- A whole URI after its scheme and slashes. -/
def ofAuthority? (cs : List Char) : Option Uri :=
  let authority := cs.takeWhile (fun c => !endsAuthority c)
  if authority.isEmpty || !isAuthority authority then none
  else pathAndQuery? (some (hostOf authority)) (cs.dropWhile (fun c => !endsAuthority c))

/-- Reads a target. -/
def ofText? (s : String) : Option Uri :=
  let cs := s.toList
  if s.utf8ByteSize = 0 || longest < s.utf8ByteSize then none
  else if cs.head? = some '/' then pathAndQuery? none cs
  else if cs = ['*'] then some ⟨none, "*", none⟩
  else
    match afterScheme? cs with
    | some rest => ofAuthority? rest
    | none => if isAuthority cs then some ⟨some (hostOf cs), "", none⟩ else none

end Uri
end SqlRelay
