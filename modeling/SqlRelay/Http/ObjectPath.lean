import SqlRelay.Text.Blank
/-!
# Addressing objects by path

The path of a request names a database, an object of it, and perhaps the key of a row.  Slashes in
front and after the key do not count, and the key may hold slashes.

Main results:

- Definition `ObjectPath.ofText` takes a path apart, `ObjectPath.text` writes one.
-/

namespace SqlRelay

/-- What a path names. -/
structure ObjectPath where
  database : String
  object : String
  key : Option String
  deriving DecidableEq, Repr

namespace ObjectPath

/-- A character that is no slash. -/
def isPlain (c : Char) : Bool := c != '/'

/-- Drops the slashes in front. -/
def dropSlashes (cs : List Char) : List Char :=
  cs.dropWhile (· == '/')

/-- Drops the slashes at the end. -/
def dropSlashesEnd (cs : List Char) : List Char :=
  (dropSlashes cs.reverse).reverse

/-- The text before the first slash, and the text after it if there is one. -/
def splitSlash (cs : List Char) : List Char × Option (List Char) :=
  match cs.dropWhile isPlain with
  | [] => (cs, none)
  | _ :: rest => (cs.takeWhile isPlain, some rest)

/-- The key of a row, unless nothing is left of it. -/
def keyOf? (cs : List Char) : Option String :=
  let key := dropSlashesEnd cs
  if key.isEmpty then none else some (String.ofList key)

/-- Takes a path apart. -/
def ofText (path : String) : ObjectPath :=
  let (database, rest) := splitSlash (dropSlashes path.toList)
  let (object, key) := splitSlash (rest.getD [])
  ⟨String.ofList database, String.ofList object, key.bind keyOf?⟩

/-- The path that names an object, and a row if there is a key. -/
def text (p : ObjectPath) : String :=
  "/" ++ p.database ++ "/" ++ p.object ++
    match p.key with
    | some key => "/" ++ key
    | none => ""

end ObjectPath
end SqlRelay
