import SqlRelay.Text.Blank
/-!
# Bearer tokens

The token of an authorization header is its text without the scheme word, which may be left out.

Main results:

- Definition `bearerToken` reads a header value.
-/

namespace SqlRelay

/-- The scheme word with the space after it. -/
def bearerScheme : List Char :=
  ['b', 'e', 'a', 'r', 'e', 'r', ' ']

/-- The token of a header value, given as characters. -/
def bearerChars (header : List Char) : List Char :=
  let trimmed := Text.trim header
  if Text.sameLetters (trimmed.take 7) bearerScheme then Text.trim (trimmed.drop 7) else trimmed

/-- The token of a header value. -/
def bearerToken (header : String) : String :=
  String.ofList (bearerChars header.toList)

end SqlRelay
