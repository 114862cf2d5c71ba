import SqlRelay.Json.Basic
/-!
# Access grants

A grant allows its token to read, write or execute objects of a database, for requests from
certain hosts.

Main results:

- Type `Grant`, with its JSON form in `Grant.toJson`.
- Definition `Grant.permits` tests one privilege.
-/

namespace SqlRelay

/-- What a request wants to do with an object. -/
inductive Operation where
  | read
  | write
  | exec
  deriving DecidableEq, Repr

/-- What a token may do: a star stands for every database or object, and no origins for all. -/
structure Grant where
  database : String
  objects : List String
  origins : List String
  read : Bool
  write : Bool
  exec : Bool
  deriving DecidableEq, Repr

namespace Grant

/-- Whether a grant has the privilege for an operation. -/
def permits (g : Grant) : Operation → Bool
  | .read => g.read
  | .write => g.write
  | .exec => g.exec

/-- The JSON form of a grant, as a configuration may hold it. -/
def toJson (g : Grant) : Json :=
  .ofMembers [
    ("target_database", .text g.database),
    ("target_objects", .array (g.objects.map .text)),
    ("allowed_origins", .array (g.origins.map .text)),
    ("read_private", .bool g.read),
    ("write_private", .bool g.write),
    ("exec_private", .bool g.exec)]

end Grant
end SqlRelay
