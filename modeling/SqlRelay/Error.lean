import SqlRelay.Script.CompileError
import SqlRelay.Database.Fault
import SqlRelay.Surroundings
/-!
# Errors of the relay

Every error is a cause.  Its wording and the category that a caller sees are functions of the
cause.

Main results:

- Type `RelayError`, grouped by what went wrong.
- Definitions `RelayError.message` and `RelayError.category`.
-/

namespace SqlRelay

/-- What was looked for and is not there. -/
inductive Missing where
  | database (id : String)
  | script (id : String)
  | table (id : String)
  | row (key holder : String)
  | insertedRow (holder : String)
  | grants (reason : String)
  deriving DecidableEq, Repr

/-- Why a request is refused. -/
inductive Refusal where
  | noGrant
  | hiddenScript (id : String)
  | hiddenTable (id : String)
  | notCovered (database object : String)
  deriving DecidableEq, Repr

/-- What is wrong with the parameters of a request. -/
inductive BadInput where
  | absent (name : String)
  | count (key : String)
  | nothingToInsert
  | nothingToUpdate
  deriving DecidableEq, Repr

/-- What is wrong with the configuration. -/
inductive Misconfiguration where
  | malformed
  | emptyScript (id : String)
  | grantDatabase (id : String)
  deriving DecidableEq, Repr

/-- An error of the relay. -/
inductive RelayError where
  | missing (what : Missing)
  | refused (why : Refusal)
  | badInput (what : BadInput)
  | compile (script : String) (cause : CompileError)
  | database (cause : DatabaseFault)
  | misconfigured (what : Misconfiguration)
  | file (path : String) (cause : FileFault)
  deriving DecidableEq, Repr

/-! ## Wording -/

/-- The wording of a missing thing. -/
def Missing.message : Missing → String
  | .database id => "database " ++ id ++ " not found"
  | .script id => "script " ++ id ++ " not found"
  | .table id => "table " ++ id ++ " not found"
  | .row key holder => "row " ++ key ++ " not found in " ++ holder
  | .insertedRow holder => "no row inserted into " ++ holder
  | .grants reason => reason

/-- The wording of a refusal. -/
def Refusal.message : Refusal → String
  | .noGrant => "access denied"
  | .hiddenScript id => "script " ++ id ++ " not found"
  | .hiddenTable id => "table " ++ id ++ " not found"
  | .notCovered database object =>
    "access token not allowed for database " ++ database ++ " and object " ++ object

/-- The wording of bad input. -/
def BadInput.message : BadInput → String
  | .absent name => "Parameter " ++ name ++ " not provided."
  | .count key => "invalid value for " ++ key
  | .nothingToInsert => "nothing to insert"
  | .nothingToUpdate => "nothing to update"

/-- The wording of a fault of the configuration. -/
def Misconfiguration.message : Misconfiguration → String
  | .malformed => "invalid configuration"
  | .emptyScript id => "script " ++ id ++ " is empty"
  | .grantDatabase id => "managed tokens database " ++ id ++ " is not configured"

/-- The wording of an error. -/
def RelayError.message : RelayError → String
  | .missing what => what.message
  | .refused why => why.message
  | .badInput what => what.message
  | .compile script cause => "script " ++ script ++ " failed to compile: " ++ cause.message
  | .database cause => cause.message
  | .misconfigured what => what.message
  | .file path cause => path ++ ": " ++ cause.message

/-- The wordings of an error and of the error behind it, if it has one. -/
def RelayError.chain : RelayError → List String
  | .compile script cause => [(RelayError.compile script cause).message, cause.message]
  | .file path cause => [(RelayError.file path cause).message, cause.message]
  | e => [e.message]

/-- What a caller is told about an error. -/
inductive Category where
  | notFound
  | unauthorized
  | badRequest
  | internal
  deriving DecidableEq, Repr

/-- The category of an error. -/
def RelayError.category : RelayError → Category
  | .missing _ => .notFound
  | .refused _ => .unauthorized
  | .badInput _ => .badRequest
  | .compile _ _ | .database _ | .misconfigured _ | .file _ _ => .internal

end SqlRelay
