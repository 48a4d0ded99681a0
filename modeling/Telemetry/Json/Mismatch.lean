import Telemetry.Json.Value
import Telemetry.Record.Timestamp

/-!
# Values of the wrong shape

A mismatch says what a JSON value is and what was expected in its place, or which member of an
object does not belong there.
-/

namespace Telemetry.Json

/-- What was found, as messages describe it. -/
inductive Found where
  | null
  | bool (b : Bool)
  | number (n : Number)
  | string (s : String)
  | array
  | object
  deriving DecidableEq, Repr

/-- What a value is found to be. -/
def found : Json → Found
  | .null => .null
  | .bool b => .bool b
  | .number n => .number n
  | .string s => .string s
  | .array _ => .array
  | .object _ => .object

/-- How a message describes what was found. -/
def Found.text : Found → String
  | .null => "null"
  | .bool b => "boolean `" ++ (if b then "true" else "false") ++ "`"
  | .number (.integer n) => "integer `" ++ toString n ++ "`"
  | .number (.float bits) => "floating point `" ++ floatText bits ++ "`"
  | .string s => "string " ++ Text.quoted s
  | .array => "sequence"
  | .object => "map"

/-- What was expected. -/
inductive Expectation where
  | text
  | sequence
  | map
  | unit
  | timestamp
  | textOrMap
  | singleKeyMap
  | fewerElements
  | struct (name : String)
  | structOf (name : String) (size : Nat)
  deriving DecidableEq, Repr

/-- How a message describes what was expected. -/
def Expectation.wording : Expectation → String
  | .text => "a string"
  | .sequence => "a sequence"
  | .map => "a map"
  | .unit => "unit"
  | .timestamp => "an RFC 3339 formatted date and time string"
  | .textOrMap => "string or map"
  | .singleKeyMap => "map with a single key"
  | .fewerElements => "fewer elements in array"
  | .struct name => "struct " ++ name
  | .structOf name size =>
    "struct " ++ name ++ " with " ++ toString size ++ (if size = 1 then " element" else " elements")

/-- Why a value has not the shape that was asked for. -/
inductive Mismatch where
  | invalidType (found : Found) (expected : Expectation)
  | invalidValue (found : Found) (expected : Expectation)
  | invalidLength (length : Nat) (expected : Expectation)
  | unknownField (name : String) (known : List String)
  | unknownVariant (name : String) (known : List String)
  | missingField (name : String)
  | duplicateField (name : String)
  | timestamp (fault : TimestampFault)
  deriving DecidableEq, Repr

/-- The known names of a message: one, two, or a list. -/
def knownNames (names : List String) : String :=
  let ticked := names.map (fun n => "`" ++ n ++ "`")
  match ticked with
  | [] => "there are no names"
  | [a] => "expected " ++ a
  | [a, b] => "expected " ++ a ++ " or " ++ b
  | _ => "expected one of " ++ ", ".intercalate ticked

/-- The wording of a mismatch. -/
def Mismatch.message : Mismatch → String
  | .invalidType f e => "invalid type: " ++ f.text ++ ", expected " ++ e.wording
  | .invalidValue f e => "invalid value: " ++ f.text ++ ", expected " ++ e.wording
  | .invalidLength n e => "invalid length " ++ toString n ++ ", expected " ++ e.wording
  | .unknownField name known => "unknown field `" ++ name ++ "`, " ++ knownNames known
  | .unknownVariant name known => "unknown variant `" ++ name ++ "`, " ++ knownNames known
  | .missingField name => "missing field `" ++ name ++ "`"
  | .duplicateField name => "duplicate field `" ++ name ++ "`"
  | .timestamp fault => fault.message

end Telemetry.Json
