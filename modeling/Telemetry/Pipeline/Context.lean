/-!
# Contexts

A context tells a pipeline from all others. Its label stands in front of each line that the pipeline
logs, with the processor that the line is about, if it is about one.
-/

namespace Telemetry

/-- What tells a pipeline from others. -/
structure Pipeline.Context where
  pipelineId : String
  processorCount : Nat
  deriving DecidableEq, Repr

namespace Pipeline

/-- The number of digits behind the dash of a pipeline's id. -/
def idDigits : Nat := 8

/-- What pipeline ids start with. -/
def idStem : String := "pipeline-"

/-- The digits of a serial number in hexadecimal, the last ones if there are more than fit. -/
def serialDigits (serial : Nat) : List Char :=
  (List.range idDigits).map (fun i => Nat.digitChar (serial >>> (4 * (idDigits - 1 - i)) % 16))

/-- The id of the pipeline with a serial number. -/
def idOf (serial : Nat) : String := idStem ++ String.ofList (serialDigits serial)

/-- Whether the character is a lowercase hexadecimal digit. -/
def isSerialDigit (c : Char) : Bool := c.isDigit || ('a' ≤ c && c ≤ 'f')

/-- Whether a text has the form of a pipeline's id. -/
def isId (text : String) : Bool :=
  let digits := text.toList.drop idStem.length
  text.toList.take idStem.length = idStem.toList && digits.length = idDigits &&
    digits.all isSerialDigit

namespace Context

/-- The context of the pipeline with a serial number. -/
def new (serial processorCount : Nat) : Context := ⟨idOf serial, processorCount⟩

/-- The label of a pipeline. -/
def label (context : Context) : String := "[pipeline=" ++ context.pipelineId ++ "]"

/-- The label of a processor of a pipeline. -/
def scope (context : Context) (processor : String) : String :=
  context.label ++ " [processor=" ++ processor ++ "]"

end Context

end Pipeline

end Telemetry
