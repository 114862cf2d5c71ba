/-!
# Errors of script compilation

Why the text of a script gives no statements.

Main results:

- Definition `CompileError.message` words each error.
-/

namespace SqlRelay

/-- Why a text gives no statements; the offsets count bytes. -/
inductive CompileError where
  | openQuote (quote : Char) (offset : Nat)
  | openComment (offset : Nat)
  | noStatement
  deriving DecidableEq, Repr

/-- The wording of an error. -/
def CompileError.message : CompileError → String
  | .openQuote quote offset =>
    "unterminated " ++ String.singleton quote ++ " quote starting at byte " ++ toString offset
  | .openComment offset => "unterminated block comment starting at byte " ++ toString offset
  | .noStatement => "no statement found"

/-- The same error in a text that has `count` more bytes in front. -/
def CompileError.shift (count : Nat) : CompileError → CompileError
  | .openQuote quote offset => .openQuote quote (count + offset)
  | .openComment offset => .openComment (count + offset)
  | .noStatement => .noStatement

end SqlRelay
