import SqlRelay.Text.Utf8
import SqlRelay.Fields
/-!
# Surroundings

What the relay reads besides its requests: named variables and files.

Main results:

- Definition `Surroundings.resolve` follows the indirection `env:NAME`.
- Definition `Surroundings.readText` reads a file as text or names the fault.
-/

namespace SqlRelay

/-- Why a file gives no text. -/
inductive FileFault where
  | missing
  | notText
  deriving DecidableEq, Repr

/-- The wording of a fault. -/
def FileFault.message : FileFault → String
  | .missing => "No such file or directory (os error 2)"
  | .notText => "stream did not contain valid UTF-8"

/-- Variables and files by name. -/
structure Surroundings where
  environment : Fields String
  files : Fields (List UInt8)
  deriving Inhabited

namespace Surroundings

/-- The text after the mark of an indirection. -/
def indirection? (value : String) : Option String :=
  if ['e', 'n', 'v', ':'].isPrefixOf value.toList then some (String.ofList (value.toList.drop 4))
  else none

/-- A value, or the variable that it names with `env:NAME`; a variable that is not set is empty. -/
def resolve (around : Surroundings) (value : String) : String :=
  match indirection? value with
  | some name => (around.environment.get? name).getD ""
  | none => value

/-- The bytes of a file. -/
def readBytes (around : Surroundings) (path : String) : Except FileFault (List UInt8) :=
  match around.files.get? path with
  | some bytes => .ok bytes
  | none => .error .missing

/-- The text of a file. -/
def readText (around : Surroundings) (path : String) : Except FileFault String :=
  match around.files.get? path with
  | some bytes =>
    match Utf8.strict? bytes with
    | some text => .ok text
    | none => .error .notText
  | none => .error .missing

end Surroundings
end SqlRelay
