import SqlRelay.Fields
import SqlRelay.Sql.Escape
/-!
# Request metadata in SQL text

A token `!key!` in the SQL text of a statement stands for a fact about the request.  It is
replaced by the escaped value between single quotes, and values that were put in are not read
again.  Keys are made of ASCII letters, digits, underscores, hyphens and dots, so that operators
such as `!=` are left alone.

Main results:

- Definition `Metadata.lookup` gives the value of a key.
- Definition `Metadata.splice` replaces the tokens of a text.
- Theorem `metadataSource_readFrom`: reading the tokens loses nothing.
-/

namespace SqlRelay

/-- Facts about a request; the headers are found under their lower-case names. -/
structure Metadata where
  host : String
  remoteAddress : String
  method : String
  path : String
  query : String
  headers : Fields String
  deriving Inhabited

/-- The header of a name in any case. -/
def Metadata.header? (m : Metadata) (name : String) : Option String :=
  m.headers.get? (Text.lowered name)

/-- The value of a key: a fact that has a name of its own, or else a header. -/
def Metadata.lookup (m : Metadata) (key : String) : Option String :=
  match key with
  | "host" => some m.host
  | "remote_addr" => some m.remoteAddress
  | "method" => some m.method
  | "path" => some m.path
  | "query" => some m.query
  | "user_agent" => m.header? "user-agent"
  | other => m.header? other

/-! ## Tokens -/

/-- The characters of a key. -/
def isKeyChar (c : Char) : Bool :=
  c.isAlphanum || c == '_' || c == '-' || c == '.'

/-- The key of the token whose opening mark stands right before a text. -/
def tokenKey? (cs : List Char) : Option (List Char) :=
  let key := cs.takeWhile isKeyChar
  match cs.drop key.length with
  | '!' :: _ => if key.isEmpty then none else some key
  | _ => none

/-- A character of SQL text, or a token with its key. -/
inductive MetadataPiece where
  | char (c : Char)
  | token (key : List Char)
  deriving DecidableEq, Repr

/-- The pieces of a text that follows `skip` characters of a token already read. -/
def MetadataPiece.readFrom : Nat → List Char → List MetadataPiece
  | _, [] => []
  | skip + 1, _ :: cs => readFrom skip cs
  | 0, c :: cs =>
    if c = '!' then
      match tokenKey? cs with
      | some key => .token key :: readFrom (key.length + 1) cs
      | none => .char c :: readFrom 0 cs
    else .char c :: readFrom 0 cs

/-- The text of a piece as it stood. -/
def MetadataPiece.source : MetadataPiece → List Char
  | .char c => [c]
  | .token key => '!' :: key ++ ['!']

/-- The text of a piece for one request. -/
def Metadata.write (m : Metadata) : MetadataPiece → List Char
  | .char c => [c]
  | .token key => quotedSql ((m.lookup (String.ofList key)).getD "")

/-- A text with its tokens replaced. -/
def Metadata.spliceChars (m : Metadata) (cs : List Char) : List Char :=
  (MetadataPiece.readFrom 0 cs).flatMap m.write

/-- SQL text with its tokens replaced. -/
def Metadata.splice (m : Metadata) (sql : String) : String :=
  String.ofList (m.spliceChars sql.toList)

/-- The key of a token is what stands before the closing mark. -/
theorem tokenKey?_eq_some {cs key : List Char} (h : tokenKey? cs = some key) :
    ∃ rest, cs = key ++ '!' :: rest ∧ key ≠ [] ∧ ∀ c ∈ key, isKeyChar c = true := by
  unfold tokenKey? at h
  simp only at h
  split at h
  · rename_i rest hrest
    split at h
    · simp at h
    · rename_i hne
      injection h with h
      subst h
      refine ⟨rest, ?_, by simpa using hne, ?_⟩
      · have := List.take_append_drop (cs.takeWhile isKeyChar).length cs
        rw [hrest, (List.prefix_iff_eq_take.1 (List.takeWhile_prefix _)).symm] at this
        exact this.symm
      · intro c hc
        exact List.all_eq_true.1 (List.all_takeWhile (l := cs) (p := isKeyChar)) c hc
  · simp at h

/-- Reading the tokens loses nothing. -/
theorem metadataSource_readFrom (skip : Nat) (cs : List Char) :
    (MetadataPiece.readFrom skip cs).flatMap MetadataPiece.source = cs.drop skip := by
  fun_induction MetadataPiece.readFrom skip cs with
  | case1 => simp
  | case2 skip c cs ih => simpa using ih
  | case3 cs key found ih =>
    obtain ⟨rest, rfl, _⟩ := tokenKey?_eq_some found
    have : List.drop (key.length + 1) (key ++ '!' :: rest) = rest := by simp [List.drop_append]
    rw [this] at ih
    simp [MetadataPiece.source, ih]
  | case4 cs _ ih => simpa [MetadataPiece.source] using ih
  | case5 c cs _ ih => simpa [MetadataPiece.source] using ih

end SqlRelay
