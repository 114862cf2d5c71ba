import SqlRelay.Double.Decimal
import SqlRelay.Text.Blank
/-!
# The rate of samples

A variable sets which part of the requests is sampled.  A rate beyond the bounds is brought back to
the nearer one, and a text that is no number leaves the full rate; both are worth a warning.

Main results:

- Definition `Sampling.ofText` reads the rate.
-/

namespace SqlRelay

/-- What is worth a warning about a rate. -/
inductive SamplingWarning where
  | empty
  | beyond (text : String) (rate : Double)
  | noNumber (text : String)

/-- A rate, and a warning if there is one. -/
structure Sampling where
  rate : Double
  warning : Option SamplingWarning

namespace Sampling

/-- The variable that sets the rate. -/
def variableName : String := "SQLGATE_OTEL_SAMPLING_RATE"

/-- Whether a number is a rate. -/
def isRate (x : Double) : Bool :=
  x.isNonNegative && x.atMostOne

/-- The nearer bound of a number beyond the bounds; what is no number has none. -/
def clamped (x : Double) : Double :=
  if x.isNaN then x else if x.isNegative then Double.zero false else Double.one

/-- How a clamped rate is written. -/
def rateText (x : Double) : String :=
  if x.isNaN then "NaN" else if x.isZero then "0" else "1"

/-- Reads the rate from the text of the variable. -/
def ofText (raw : Option String) : Sampling :=
  match raw with
  | none => ⟨.one, none⟩
  | some text =>
    let trimmed := Text.trim text.toList
    if trimmed.isEmpty then ⟨.one, some .empty⟩
    else
      match Double.ofText? trimmed with
      | none => ⟨.one, some (.noNumber (String.ofList trimmed))⟩
      | some x =>
        if isRate x then ⟨x, none⟩
        else ⟨clamped x, some (.beyond (String.ofList trimmed) (clamped x))⟩

end Sampling

/-- The wording of a warning. -/
def SamplingWarning.message : SamplingWarning → String
  | .empty => Sampling.variableName ++ " is empty; defaulting to 1.0"
  | .beyond text rate =>
    Sampling.variableName ++ "=" ++ text ++ " outside 0.0..=1.0; clamped to " ++
      Sampling.rateText rate
  | .noNumber text =>
    Sampling.variableName ++ "='" ++ text ++ "' is not a valid float; defaulting to 1.0"

end SqlRelay
