import SqlRelay.Url.Basic
/-!
# Reading URLs

Reading an absolute URL: blanks and control characters around the text and line breaks and tabs
inside it are dropped, the scheme is cut off, and its kind decides how the rest is read.  With a
special scheme any number of slashes, forward or backward, leads to the authority, and there must
be a host; a local file has a host without user and port; with any other scheme only two slashes
lead to an authority, which may be empty.  Dot segments of a path are followed, and no path leads
out of a drive letter.

Main results:

- Definition `Url.ofText` reads a URL or says what is wrong.
- Definition `followSegments` follows the dot segments of a path.
-/

namespace SqlRelay.Url

/-- The characters that a query does not show as they are. -/
def escapedInQuery (c : Char) : Bool :=
  Host.isControlOrWide c || c == ' ' || c == '"' || c == '#' || c == '<' || c == '>'

/-- The characters that the query of a special scheme does not show as they are. -/
def escapedInSpecialQuery (c : Char) : Bool :=
  escapedInQuery c || c == '\''

/-- The characters that a fragment does not show as they are. -/
def escapedInFragment (c : Char) : Bool :=
  Host.isControlOrWide c || c == ' ' || c == '"' || c == '<' || c == '>' || c == '\x60'

/-- The characters that a path does not show as they are. -/
def escapedInPath (c : Char) : Bool :=
  escapedInFragment c || c == '#' || c == '?' || c == '\x7b' || c == '\x7d'

/-- The characters that user information does not show as they are. -/
def escapedInUser (c : Char) : Bool :=
  escapedInPath c || ['/', ':', ';', '=', '@', '[', '\\', ']', '^', '|'].contains c

/-- How the rest after a scheme is read. -/
inductive SchemeKind where
  | special (port : Nat)
  | file
  | other
  deriving DecidableEq

/-- Whether backward slashes count as slashes. -/
def SchemeKind.hasBackslash : SchemeKind → Bool
  | .other => false
  | _ => true

/-- The kind of a scheme, with the port that is left out. -/
def schemeKind (scheme : List Char) : SchemeKind :=
  match String.ofList scheme with
  | "http" | "ws" => .special 80
  | "https" | "wss" => .special 443
  | "ftp" => .special 21
  | "file" => .file
  | _ => .other

/-- The characters of a scheme after its first letter. -/
def isSchemeChar (c : Char) : Bool :=
  c.isAlphanum || c == '+' || c == '-' || c == '.'

/-- The scheme in lower case, and the rest after its colon. -/
def splitScheme (cs : List Char) : Option (List Char × List Char) :=
  match cs with
  | first :: _ =>
    if first.isAlpha then
      match cs.dropWhile isSchemeChar with
      | ':' :: rest => some (Text.lowerAscii (cs.takeWhile isSchemeChar), rest)
      | _ => none
    else none
  | [] => none

/-! ## Paths -/

/-- A segment that stands for the directory it is in. -/
def isSingleDot (segment : List Char) : Bool :=
  [".", "%2e"].contains (Text.lowered (String.ofList segment))

/-- A segment that stands for the directory above. -/
def isDoubleDot (segment : List Char) : Bool :=
  ["..", "%2e.", ".%2e", "%2e%2e"].contains (Text.lowered (String.ofList segment))

/-- Whether a character ends a segment. -/
def isSlash (kind : SchemeKind) (c : Char) : Bool :=
  c == '/' || (kind.hasBackslash && c == '\\')

/-- A drive letter, which is the top of the directories below it. -/
def isDriveLetter (segment : List Char) : Bool :=
  match segment with
  | [c, mark] => c.isAlpha && (mark == ':' || mark == '|')
  | _ => false

/-- The directory above: the last segment is taken off, unless it is a drive letter. -/
def parent (done : List (List Char)) : List (List Char) :=
  if done.getLast?.any isDriveLetter then done else done.dropLast

/-- Follows the segments one after the other; a dot segment at the end leaves an empty one. -/
def followSegments (done : List (List Char)) : List (List Char) → List (List Char)
  | [] => done
  | segment :: rest =>
    let atEnd := rest.isEmpty
    if isDoubleDot segment then
      followSegments (if atEnd then parent done ++ [[]] else parent done) rest
    else if isSingleDot segment then followSegments (if atEnd then done ++ [[]] else done) rest
    else followSegments (done ++ [segment]) rest

/-- The segments of a path whose first slash was read. -/
def segmentsOf (kind : SchemeKind) (cs : List Char) : List (List Char) :=
  followSegments [] ((Text.cut (isSlash kind) cs).map (Text.percentEncode escapedInPath))

/-- The path after an authority. -/
def pathAfterAuthority (kind : SchemeKind) (cs : List Char) : UrlPath :=
  match cs with
  | c :: rest => .segments (segmentsOf kind (if isSlash kind c then rest else cs))
  | [] => if kind = .other then .segments [] else .segments (segmentsOf kind [])

/-- The rest of a URL before its query and fragment, and these two. -/
structure Tail where
  before : List Char
  query : Option (List Char)
  fragment : Option (List Char)

/-- The text after the first character that a test accepts, if there is one. -/
def after? (stop : Char → Bool) (cs : List Char) : Option (List Char) :=
  match cs.dropWhile (fun c => !stop c) with
  | [] => none
  | _ :: rest => some rest

/-- Cuts query and fragment off. -/
def splitTail (kind : SchemeKind) (cs : List Char) : Tail :=
  let body := cs.takeWhile (· != '#')
  let escaped := if kind = .other then escapedInQuery else escapedInSpecialQuery
  { before := body.takeWhile (· != '?')
    query := (after? (· == '?') body).map (Text.percentEncode escaped)
    fragment := (after? (· == '#') cs).map (Text.percentEncode escapedInFragment) }

/-- User information as it is written; an empty name with an empty password is none. -/
def userOf (cs : List Char) : List Char :=
  let name := Text.percentEncode escapedInUser (cs.takeWhile (· != ':'))
  match after? (· == ':') cs with
  | some (c :: rest) => name ++ ':' :: Text.percentEncode escapedInUser (c :: rest)
  | _ => name

/-- The text before the last `sep` and the text after it, if there is one. -/
def splitLast (sep : Char) (cs : List Char) : Option (List Char × List Char) :=
  let back := cs.reverse
  match back.dropWhile (· != sep) with
  | [] => none
  | _ :: before => some (before.reverse, (back.takeWhile (· != sep)).reverse)

/-- Where the host ends: at a colon outside brackets. -/
def hostLength (inBrackets : Bool) : List Char → Nat
  | [] => 0
  | c :: rest =>
    if c = ':' && !inBrackets then 0
    else hostLength (if c = '[' then true else if c = ']' then false else inBrackets) rest + 1

/-- A port, which may be left out; `standard` is not kept. -/
def portOf (standard : Option Nat) (digits : List Char) : Except UrlFault (Option Nat) :=
  if digits.isEmpty then .ok none
  else
    match decimal? 65535 digits with
    | none => .error .badPort
    | some n => .ok (if standard = some n then none else some n)

/-- Host and port of an authority, and the text after a backward slash that ends the port.
`standard` is the port of a special scheme, which needs a host. -/
def hostAndPort (standard : Option Nat) (cs : List Char) :
    Except UrlFault (Option Host × Option Nat × List Char) :=
  let text := cs.take (hostLength false cs)
  let rest := cs.drop (hostLength false cs)
  let host : Except UrlFault Host :=
    if standard.isSome then if text.isEmpty then .error .emptyHost else Host.ofSpecial text
    else Host.ofOther text
  match host with
  | .error e => .error e
  | .ok host =>
    if host = .domain [] then if rest.isEmpty then .ok (none, none, []) else .error .emptyHost
    else
      match portOf standard ((rest.drop 1).takeWhile (· != '\\')) with
      | .error e => .error e
      | .ok port => .ok (some host, port, rest.dropWhile (· != '\\'))

/-- An authority, and the text after a backward slash that ends its port.  User information needs a
host, and a sign without user information needs something after it, unless the text ends there. -/
def authorityOf (standard : Option Nat) (cs : List Char) (isEnd : Bool) :
    Except UrlFault (Authority × List Char) :=
  let (user, place) := (splitLast '@' cs).getD ([], cs)
  if cs.head? = some '@' && user.isEmpty && place.isEmpty && !isEnd then .error .emptyHost
  else
    let written := userOf user
    match hostAndPort standard place with
    | .error e => .error e
    | .ok (host, port, left) =>
      if host.isNone && !written.isEmpty then .error .emptyHost
      else .ok (⟨written, host, port⟩, left)

/-! ## Whole URLs -/

/-- Where the authority ends. -/
def endsAuthority (kind : SchemeKind) (c : Char) : Bool :=
  c == '/' || c == '?' || c == '#' || (kind.hasBackslash && c == '\\')

/-- A URL whose authority stands right at the start of a text. -/
def withAuthority (scheme : List Char) (kind : SchemeKind) (standard : Option Nat)
    (cs : List Char) : Except UrlFault Url :=
  let place := cs.takeWhile (fun c => !endsAuthority kind c)
  let rest := cs.dropWhile (fun c => !endsAuthority kind c)
  match authorityOf standard place rest.isEmpty with
  | .error e => .error e
  | .ok (authority, left) =>
    let tail := splitTail kind (left ++ rest)
    .ok ⟨scheme, some authority, pathAfterAuthority kind tail.before, tail.query, tail.fragment⟩

/-- The host of a local file; the own host and a drive letter are none. -/
def fileHost (cs : List Char) : Except UrlFault (Option Host) :=
  if cs.isEmpty || isDriveLetter cs then .ok none
  else
    match Host.ofSpecial cs with
    | .error e => .error e
    | .ok host => .ok (if host = .domain "localhost".toList then none else some host)

/-- The URL of a local file.  A path that begins with a drive letter has no host. -/
def fileUrl (scheme cs : List Char) : Except UrlFault Url :=
  let isBoth (c : Char) : Bool := isSlash .file c
  let (place, rest) := match cs with
    | a :: b :: more =>
      if isBoth a && isBoth b then
        (more.takeWhile (fun c => !endsAuthority .file c),
          more.dropWhile (fun c => !endsAuthority .file c))
      else ([], cs)
    | _ => ([], cs)
  match fileHost place with
  | .error e => .error e
  | .ok host =>
    let tail := splitTail .file (if isDriveLetter place then place ++ rest else rest)
    let segments := match pathAfterAuthority .file tail.before with
      | .segments list => list
      | .whole _ => []
    let kept := if (segments.head?.map isDriveLetter).getD false then none else host
    .ok ⟨scheme, some ⟨[], kept, none⟩, .segments segments, tail.query, tail.fragment⟩

/-- A URL without special scheme. -/
def otherUrl (scheme cs : List Char) : Except UrlFault Url :=
  match cs with
  | '/' :: '/' :: rest => withAuthority scheme .other none rest
  | '/' :: rest =>
    let tail := splitTail .other rest
    .ok ⟨scheme, none, .segments (segmentsOf .other tail.before), tail.query, tail.fragment⟩
  | _ =>
    let tail := splitTail .other cs
    .ok ⟨scheme, none, .whole (Text.percentEncode Host.isControlOrWide tail.before), tail.query,
      tail.fragment⟩

/-- Blanks and control characters around a URL. -/
def isOuterBlank (c : Char) : Bool :=
  c.toNat ≤ 0x20

/-- The characters of a URL that count. -/
def countedChars (cs : List Char) : List Char :=
  (((cs.dropWhile isOuterBlank).reverse.dropWhile isOuterBlank).reverse).filter
    (fun c => c != '\t' && c != '\n' && c != '\r')

/-- Reads an absolute URL. -/
def ofText (s : String) : Except UrlFault Url :=
  match splitScheme (countedChars s.toList) with
  | none => .error .noScheme
  | some (scheme, rest) =>
    match schemeKind scheme with
    | .special port =>
      withAuthority scheme (.special port) (some port) (rest.dropWhile (isSlash (.special port)))
    | .file => fileUrl scheme rest
    | .other => otherUrl scheme rest

end SqlRelay.Url
