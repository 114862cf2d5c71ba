import SqlRelay.Double.Shortest
import SqlRelay.Text.Notation
import SqlRelay.Fields
/-!
# JSON values and their text

A number is an integer of at most sixty-four bits or a double; the members of an object stand in
the order of their names.

Main results:

- Type `Json` of values.
- Definition `Json.compact` writes a value without blanks; a double keeps its point or exponent.
-/

namespace SqlRelay

/-- A JSON value. -/
inductive Json where
  | null
  | bool (value : Bool)
  | int (value : Int)
  | double (value : Double)
  | text (value : String)
  | array (items : List Json)
  | object (members : List (String × Json))
  deriving Inhabited

namespace Json

/-- The value of a member of an object. -/
def member? (value : Json) (name : String) : Option Json :=
  match value with
  | .object members => Fields.get? members name
  | _ => none

/-- An object of members set one after the other. -/
def ofMembers (members : List (String × Json)) : Json :=
  .object (Fields.ofList members)

/-- A finite double, or null. -/
def ofDouble (x : Double) : Json :=
  if x.isFinite then .double x else .null

/-- How a character is written inside a JSON text. -/
def escapeChar (c : Char) : List Char :=
  if c = '"' then ['\\', '"']
  else if c = '\\' then ['\\', '\\']
  else if c = '\x08' then ['\\', 'b']
  else if c = '\x0c' then ['\\', 'f']
  else if c = '\n' then ['\\', 'n']
  else if c = '\r' then ['\\', 'r']
  else if c = '\t' then ['\\', 't']
  else if c.toNat < 0x20 then
    ['\\', 'u', '0', '0', Text.hexDigit (c.toNat / 16), Text.hexDigit (c.toNat % 16)]
  else [c]

/-- A text between quotes. -/
def quoted (s : String) : List Char :=
  '"' :: s.toList.flatMap escapeChar ++ ['"']

mutual

/-- A value without blanks. -/
def chars : Json → List Char
  | .null => ['n', 'u', 'l', 'l']
  | .bool true => ['t', 'r', 'u', 'e']
  | .bool false => ['f', 'a', 'l', 's', 'e']
  | .int n => (toString n).toList
  | .double x => if x.isFinite then x.written else ['n', 'u', 'l', 'l']
  | .text s => quoted s
  | .array items => '[' :: itemsChars items
  | .object members => '\x7b' :: membersChars members

/-- The items of an array and its closing bracket. -/
def itemsChars : List Json → List Char
  | [] => [']']
  | item :: rest => chars item ++ moreItems rest

/-- Further items of an array, each after a comma, and the closing bracket. -/
def moreItems : List Json → List Char
  | [] => [']']
  | item :: rest => ',' :: chars item ++ moreItems rest

/-- The members of an object and its closing brace. -/
def membersChars : List (String × Json) → List Char
  | [] => ['\x7d']
  | (name, value) :: rest => quoted name ++ ':' :: chars value ++ moreMembers rest

/-- Further members of an object, each after a comma, and the closing brace. -/
def moreMembers : List (String × Json) → List Char
  | [] => ['\x7d']
  | (name, value) :: rest => ',' :: quoted name ++ ':' :: chars value ++ moreMembers rest

end

/-- The text of a value, without blanks. -/
def compact (value : Json) : String :=
  String.ofList value.chars

end Json
end SqlRelay
