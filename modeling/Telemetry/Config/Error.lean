import Telemetry.Config.Basic
import Telemetry.Json.Fault
import Telemetry.Pattern

/-!
# What can be wrong with a configuration

A flaw is a defect at a field of a processor. An error names the processor, if it concerns one.
Errors arise only while a pipeline is made; no record can cause one.
-/

namespace Telemetry.Config

/-! ## Fields -/

/-- A field of a processor, by the way to it. -/
inductive Field where
  | named (name : String)
  | member (parent : Field) (name : String)
  | item (parent : Field) (index : Nat)
  deriving DecidableEq, Repr

/-- How a field is written: a point before a member, and an index in brackets. -/
def Field.text : Field → String
  | .named name => name
  | .member parent name => parent.text ++ "." ++ name
  | .item parent index => parent.text ++ "[" ++ toString index ++ "]"

/-! ## Defects -/

/-- Why a field may not be there. -/
inductive IllegalReason where
  | unusedByAction (kind : ActionKind)
  | twoSources
  | separatorAlone
  | sectionOfProcessor (kind : ProcessorKind)
  | dimensionOfProcessor (kind : ProcessorKind)
  deriving DecidableEq, Repr

/-- The wording of a reason. -/
def IllegalReason.message : IllegalReason → String
  | .unusedByAction kind => "not used by '" ++ kind.name ++ "' actions"
  | .twoSources => "'value' and 'fromAttribute' are mutually exclusive"
  | .separatorAlone => "separator requires fromAttributes"
  | .sectionOfProcessor kind => "not allowed on '" ++ kind.name ++ "' processors"
  | .dimensionOfProcessor kind => "not applicable to '" ++ kind.name ++ "' processors"

/-- Why the value of a field is refused. -/
inductive ValueReason where
  | emptyId
  | emptyKey
  | emptyAttributeKey
  | noNamedGroups (pattern : String)
  | noAttributeKeys
  | noRules
  | noActions
  deriving DecidableEq, Repr

/-- The wording of a reason. -/
def ValueReason.message : ValueReason → String
  | .emptyId => "processor id is empty"
  | .emptyKey => "key is empty"
  | .emptyAttributeKey => "attribute key is empty"
  | .noNamedGroups pattern => "pattern '" ++ pattern ++ "' has no named groups"
  | .noAttributeKeys => "at least one attribute key is required"
  | .noRules => "at least one rule is required"
  | .noActions => "at least one action is required"

/-- What is wrong with a field. -/
inductive Defect where
  | illegal (reason : IllegalReason)
  | missing
  | pattern (fault : Pattern.Fault)
  | groups (expected found : List String)
  | value (reason : ValueReason)
  deriving DecidableEq, Repr

/-- A field with what is wrong with it. -/
structure Flaw where
  field : Field
  defect : Defect
  deriving DecidableEq, Repr

/-- The wording of a flaw. -/
def Flaw.message (flaw : Flaw) (wording : Pattern.Wording := .brief) : String :=
  let field := "'" ++ flaw.field.text ++ "'"
  match flaw.defect with
  | .illegal reason => "field " ++ field ++ " is not allowed: " ++ reason.message
  | .missing => "missing required field " ++ field
  | .pattern fault =>
    "invalid pattern in " ++ field ++ " (" ++ fault.shown ++ "): " ++ fault.message wording
  | .groups expected found =>
    field ++ " lists groups " ++ Text.quotedList expected ++ " but pattern declares " ++
      Text.quotedList found
  | .value reason => "invalid value for " ++ field ++ ": " ++ reason.message

/-! ## Errors -/

/-- Why no pipeline can be made of a document. -/
inductive Error where
  /-- The document is no list of processors. -/
  | unreadable (refusal : Json.Refusal)
  /-- An entry is no processor; it is known by its id or its place. -/
  | malformed (entry : String) (mismatch : Json.Mismatch)
  /-- An id stands twice. -/
  | duplicateId (id : String)
  /-- A processor cannot be compiled. -/
  | rejected (processor : String) (flaw : Flaw)
  deriving DecidableEq, Repr

/-- The wording of an error. -/
def Error.message (error : Error) (wording : Pattern.Wording := .brief) : String :=
  match error with
  | .unreadable refusal => "failed to parse processor configuration: " ++ refusal.message
  | .malformed entry mismatch => "processor '" ++ entry ++ "': " ++ mismatch.message
  | .duplicateId id => "duplicate processor id '" ++ id ++ "'"
  | .rejected processor flaw => "processor '" ++ processor ++ "': " ++ flaw.message wording

/-- The processor that an error concerns. -/
def Error.processor? : Error → Option String
  | .unreadable _ => none
  | .malformed processor _ | .duplicateId processor | .rejected processor _ => some processor

end Telemetry.Config
