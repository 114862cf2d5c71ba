import SqlRelay.Url.Host
/-!
# URLs

A URL has a scheme, perhaps an authority, a path, and perhaps a query and a fragment.  All parts
but the host are held as they are written.

Main results:

- Type `Url`.
- Definition `Url.written` writes a URL.
-/

namespace SqlRelay

/-- User information, host and port; no host is an empty one, and the port of the scheme is left
out. -/
structure Authority where
  user : List Char
  host : Option Host
  port : Option Nat

/-- A path: a text that is not taken apart, or segments. -/
inductive UrlPath where
  | whole (text : List Char)
  | segments (list : List (List Char))

/-- A URL. -/
structure Url where
  scheme : List Char
  authority : Option Authority
  path : UrlPath
  query : Option (List Char)
  fragment : Option (List Char)

namespace Url

/-- User information before its sign. -/
def userText (user : List Char) : List Char :=
  if user.isEmpty then [] else user ++ ['@']

/-- The authority after its two slashes. -/
def authorityText (a : Authority) : List Char :=
  let port := match a.port with
    | some n => ':' :: (toString n).toList
    | none => []
  '/' :: '/' :: userText a.user ++ ((a.host.map Host.written).getD []) ++ port

/-- Each segment after a slash. -/
def segmentsText (list : List (List Char)) : List Char :=
  list.flatMap ('/' :: ·)

/-- The path.  Without an authority two slashes in front would be taken for one. -/
def pathText (u : Url) : List Char :=
  match u.path with
  | .whole text => text
  | .segments list =>
    let text := segmentsText list
    if u.authority.isNone && ['/', '/'].isPrefixOf text then '/' :: '.' :: text else text

/-- An optional part after its sign. -/
def partText (sign : Char) : Option (List Char) → List Char
  | some text => sign :: text
  | none => []

/-- The text of a URL. -/
def written (u : Url) : String :=
  String.ofList (u.scheme ++ ':' :: ((u.authority.map authorityText).getD []) ++ u.pathText ++
    partText '?' u.query ++ partText '#' u.fragment)

/-- The host, if it is not empty. -/
def host? (u : Url) : Option Host :=
  u.authority.bind (·.host)

end Url
end SqlRelay
