import SqlRelay.Configuration.Basic
import SqlRelay.Json.Reader
import SqlRelay.Text.Blank
/-!
# Reading a configuration

A record is an object with its fields by name, or an array with its fields in order.  A field that
is known stands at most once; a field that is not known is left unread, so that only its syntax
counts.  Fields that are left out have a standard value unless they are required.

Main results:

- Definition `Configuration.ofBytes?` reads a whole configuration.
- Definition `recordFields?` finds the fields of a record.
-/

namespace SqlRelay

open Json (Tree TextUnit readText?)

/-- A reader of one kind of value. -/
abbrev TreeReader (α : Type) := Tree → Option α

namespace TreeReader

variable {α : Type}

/-- A text. -/
def text : TreeReader String
  | .text units => readText? units
  | _ => none

/-- A flag. -/
def flag : TreeReader Bool
  | .bool b => some b
  | _ => none

/-- A natural number up to a limit. -/
def count (limit : Nat) : TreeReader Nat
  | .number n =>
    match n.value? with
    | some (.int m) => if 0 ≤ m ∧ m ≤ limit then some m.toNat else none
    | _ => none
  | _ => none

/-- A list of values. -/
def list (item : TreeReader α) : TreeReader (List α)
  | .array items => items.mapM item
  | _ => none

/-- Values by name; of several values of one name the last counts. -/
def named (item : TreeReader α) : TreeReader (Fields α)
  | .object members =>
    (members.mapM (fun (key, tree) =>
      match readText? key, item tree with
      | some name, some value => some (name, value)
      | _, _ => none)).map Fields.ofList
  | _ => none

/-- A value, or null for none. -/
def orNull (item : TreeReader α) : TreeReader (Option α)
  | .null => some none
  | tree => (item tree).map some

/-- A text of words between blanks, or a list of texts. -/
def wordsOrList : TreeReader (List String)
  | .text units => (readText? units).map Text.fieldsOf
  | .array items => items.mapM text
  | _ => none

end TreeReader

/-- A member whose name is one of the known names, with that name; `none` for a name that cannot be
read. -/
def knownMembers? (names : List String) :
    List (List TextUnit × Tree) → Option (List (String × Tree))
  | [] => some []
  | (key, tree) :: rest =>
    match readText? key, knownMembers? names rest with
    | some name, some more =>
      if names.contains name then
        if more.any (fun member => member.1 == name) then none else some ((name, tree) :: more)
      else some more
    | _, _ => none

/-- The fields of a record in the order of their names. -/
def recordFields? (names : List String) : Tree → Option (List (Option Tree))
  | .array items =>
    if items.length ≤ names.length then
      some (items.map some ++ List.replicate (names.length - items.length) none)
    else none
  | .object members =>
    (knownMembers? names members).map (fun known =>
      names.map (fun name => (known.find? (fun member => member.1 == name)).map (·.2)))
  | _ => none

/-- A field that must be there. -/
def required {α : Type} (read : TreeReader α) (field : Option Tree) : Option α :=
  field.bind read

/-- A field with a standard value. -/
def orElse {α : Type} (standard : α) (read : TreeReader α) : Option Tree → Option α
  | none => some standard
  | some tree => read tree

/-! ## Parts of a configuration -/

/-- The greatest count of sixty-four bits. -/
def greatestCount : Nat := twoTo 64 - 1

/-- A text that may be left out. -/
def optionalText : Option Tree → Option String :=
  orElse "" TreeReader.text

/-- A flag that may be left out. -/
def optionalFlag : Option Tree → Option Bool :=
  orElse false TreeReader.flag

/-- The web side when nothing is said about it. -/
def WebConfig.standard : WebConfig := ⟨none, false, []⟩

/-- Reads the web side. -/
def WebConfig.ofTree? (t : Tree) : Option WebConfig := do
  match ← recordFields? ["http_addr", "cors", "headers"] t with
  | [address, cors, headers] =>
    pure ⟨← orElse none (TreeReader.orNull TreeReader.text) address, ← optionalFlag cors,
      ← orElse [] (TreeReader.named TreeReader.text) headers⟩
  | _ => none

/-- Reads a database. -/
def DatabaseConfig.ofTree? (t : Tree) : Option DatabaseConfig := do
  match ← recordFields? ["type", "url", "max_connections"] t with
  | [kind, url, connections] =>
    pure ⟨← required TreeReader.text kind, ← required TreeReader.text url,
      ← orElse standardConnections (TreeReader.count (twoTo 32 - 1)) connections⟩
  | _ => none

/-- Reads a table. -/
def TableConfig.ofTree? (t : Tree) : Option TableConfig := do
  match ← recordFields? ["database", "name", "primary_key", "exported_columns", "public_read",
      "public_write", "page_size", "order_by", "show_total"] t with
  | [database, name, primaryKey, columns, publicRead, publicWrite, pageSize, orderBy, showTotal] =>
    pure ⟨← optionalText database, ← optionalText name,
      ← orElse standardPrimaryKey TreeReader.text primaryKey,
      ← orElse [] (TreeReader.list TreeReader.text) columns,
      ← optionalFlag publicRead, ← optionalFlag publicWrite,
      ← orElse 0 (TreeReader.count greatestCount) pageSize,
      ← optionalText orderBy, ← optionalFlag showTotal⟩
  | _ => none

/-- Reads a script. -/
def ScriptConfig.ofTree? (t : Tree) : Option ScriptConfig := do
  match ← recordFields? ["database", "sql", "path", "public_exec"] t with
  | [database, sql, path, publicExec] =>
    pure ⟨← optionalText database, ← optionalText sql, ← optionalText path,
      ← optionalFlag publicExec⟩
  | _ => none

/-- Reads a grant. -/
def Grant.ofTree? (t : Tree) : Option Grant := do
  match ← recordFields? ["target_database", "target_objects", "allowed_origins", "read_private",
      "write_private", "exec_private"] t with
  | [database, objects, origins, read, write, exec] =>
    pure ⟨← required TreeReader.text database, ← orElse [] TreeReader.wordsOrList objects,
      ← orElse [] TreeReader.wordsOrList origins, ← optionalFlag read, ← optionalFlag write,
      ← optionalFlag exec⟩
  | _ => none

/-- Reads the table of grants. -/
def ManagedConfig.ofTree? (t : Tree) : Option ManagedConfig := do
  match ← recordFields? ["database", "table_name", "query", "query_path", "token",
      "target_database", "target_objects", "allowed_origins", "read_private", "write_private",
      "exec_private"] t with
  | [database, table, query, queryPath, token, targetDatabase, targetObjects, allowedOrigins, read,
      write, exec] =>
    pure ⟨← required TreeReader.text database, ← optionalText table, ← optionalText query,
      ← optionalText queryPath, ← optionalText token, ← optionalText targetDatabase,
      ← optionalText targetObjects, ← optionalText allowedOrigins, ← optionalText read,
      ← optionalText write, ← optionalText exec⟩
  | _ => none

namespace Configuration

/-- Reads a whole configuration. -/
def ofTree? (t : Tree) : Option Configuration := do
  match ← recordFields? ["web", "databases", "tables", "scripts", "tokens", "managed_tokens",
      "cache_tokens", "default_page_size"] t with
  | [web, databases, tables, scripts, tokens, managed, cacheTokens, pageSize] =>
    pure {
      web := ← orElse WebConfig.standard WebConfig.ofTree? web
      databases := ← orElse [] (TreeReader.named DatabaseConfig.ofTree?) databases
      tables := ← orElse [] (TreeReader.named TableConfig.ofTree?) tables
      scripts := ← orElse [] (TreeReader.named ScriptConfig.ofTree?) scripts
      tokens := ← orElse [] (TreeReader.named (TreeReader.list Grant.ofTree?)) tokens
      managed := ← orElse none (TreeReader.orNull ManagedConfig.ofTree?) managed
      cacheTokens := ← optionalFlag cacheTokens
      pageSize := ← orElse 0 (TreeReader.count greatestCount) pageSize }
  | _ => none

/-- Reads the bytes of a configuration. -/
def ofBytes? (bytes : List UInt8) : Option Configuration :=
  (Tree.ofBytes? bytes).bind ofTree?

end Configuration
end SqlRelay
