import SqlRelay.Address
import SqlRelay.Fields
import SqlRelay.Http.Uri
/-!
# Requests and responses

Requests and responses with their headers.  Header names are held in lower case, and values as
bytes; a value is read as text only if all of it is visible ASCII.

Main results:

- Definition `Request.ofParts?` checks the parts of a request.
- Definitions `Request.header?` and `Headers.set` read and set headers.
- Theorem `value?_set_self`: a header that was set has the value that was set.
-/

namespace SqlRelay

/-- The characters of methods and header names. -/
def isTokenChar (c : Char) : Bool :=
  c.isAlphanum ||
    ['!', '#', '$', '%', '&', '\'', '*', '+', '-', '.', '^', '_', '\x60', '|', '~'].contains c

/-- Whether a text is a method or a header name. -/
def isToken (s : String) : Bool :=
  !s.isEmpty && s.toList.all isTokenChar

/-- Whether a byte may stand in a header value. -/
def isValueByte (b : UInt8) : Bool :=
  (0x20 ≤ b && b != 0x7F) || b == 0x09

/-- Whether a byte of a header value is visible ASCII, a space or a tab. -/
def isVisibleByte (b : UInt8) : Bool :=
  (0x20 ≤ b && b < 0x7F) || b == 0x09

/-- Headers in order; a name may occur more than once. -/
abbrev Headers := List (String × List UInt8)

namespace Headers

/-- The first value of a name. -/
def value? (hs : Headers) (name : String) : Option (List UInt8) :=
  (hs.find? (fun h => h.1 == name)).map (·.2)

/-- Sets the value of a name in place of all others. -/
def set (hs : Headers) (name : String) (value : List UInt8) : Headers :=
  hs.filter (fun h => h.1 != name) ++ [(name, value)]

/-- Adds a value to those of a name. -/
def add (hs : Headers) (name : String) (value : List UInt8) : Headers :=
  hs ++ [(name, value)]

/-- A header that was set has the value that was set. -/
theorem value?_set_self (hs : Headers) (name : String) (value : List UInt8) :
    (hs.set name value).value? name = some value := by
  have : (hs.filter (fun h => h.1 != name)).find? (fun h => h.1 == name) = none := by
    simp
  simp [set, value?, List.find?_append, this]

/-- Setting a header leaves the other ones alone. -/
theorem value?_set_of_ne (hs : Headers) {name other : String} (value : List UInt8)
    (h : other ≠ name) : (hs.set name value).value? other = hs.value? other := by
  induction hs with
  | nil => simp [set, value?, Ne.symm h]
  | cons field rest ih =>
    by_cases hf : field.1 = name
    · subst hf
      simpa [set, value?, List.find?_cons, Ne.symm h] using ih
    · by_cases ho : field.1 = other
      · subst ho; simp [set, value?, hf]
      · simpa [set, value?, List.find?_cons, hf, ho] using ih

end Headers

/-! ## Requests and responses -/

/-- A request, with the address that it comes from if that is known. -/
structure Request where
  method : String
  uri : Uri
  headers : Headers
  body : List UInt8
  peer : Option SocketAddress

namespace Request

/-- Whether a header may stand in a request. -/
def isHeader (h : String × List UInt8) : Bool :=
  isToken h.1 && h.1.utf8ByteSize < twoTo 16 && h.2.all isValueByte

/-- A request of parts that are well formed. -/
def ofParts? (method target : String) (headers : Headers) (body : List UInt8)
    (peer : Option SocketAddress) : Option Request :=
  match Uri.ofText? target with
  | none => none
  | some uri =>
    if isToken method && headers.all isHeader then
      some ⟨method, uri, headers.map (fun h => (Text.lowered h.1, h.2)), body, peer⟩
    else none

/-- The text of a header value, if all of it is visible. -/
def valueText? (value : List UInt8) : Option String :=
  if value.all isVisibleByte then Utf8.strict? value else none

/-- The text of the first header of a name. -/
def header? (r : Request) (name : String) : Option String :=
  (r.headers.value? name).bind valueText?

end Request

/-- The outcome of a request. -/
inductive Status where
  | ok
  | noContent
  | badRequest
  | unauthorized
  | notFound
  | methodNotAllowed
  | internalError
  deriving DecidableEq, Repr

/-- The number of an outcome. -/
def Status.code : Status → Nat
  | .ok => 200
  | .noContent => 204
  | .badRequest => 400
  | .unauthorized => 401
  | .notFound => 404
  | .methodNotAllowed => 405
  | .internalError => 500

/-- A response. -/
structure Response where
  status : Status
  headers : Headers
  body : String

end SqlRelay
