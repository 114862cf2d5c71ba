import SqlRelay.Url.Reader
/-!
# Origins of requests

The host that a request says it comes from, and the patterns that hosts are held against.

Main results:

- Definition `originHost?` gives the host of an origin or referer.
- Definition `hostMatches` holds a host against a pattern.
- Theorem `hostMatches_star`: a single star matches every host.
-/

namespace SqlRelay

/-- The host of a URL in lower case; an address of version 6 stands without brackets. -/
def originHost? (raw : String) : Option String :=
  match Url.ofText (Text.trimmed raw) with
  | .error _ => none
  | .ok url =>
    url.host?.map (fun host =>
      match host with
      | .domain name => String.ofList (Text.lowerAscii name)
      | .v4 a => a.text
      | .v6 a => a.text)

/-- Whether a text ends in another one. -/
def endsIn (suffix cs : List Char) : Bool :=
  suffix.isSuffixOf cs

/-- Whether a host matches a pattern: a star in front stands for anything, and the case of letters
in the pattern does not count. -/
def hostMatches (pattern host : String) : Bool :=
  match Text.lowerAscii (Text.trim pattern.toList) with
  | '*' :: suffix => endsIn suffix host.toList
  | exact => exact == host.toList

/-- A single star matches every host. -/
theorem hostMatches_star (host : String) : hostMatches "*" host = true := by
  have star : Text.lowerAscii (Text.trim ['*']) = ['*'] := by decide
  simp [hostMatches, star, endsIn, List.isSuffixOf]

end SqlRelay
