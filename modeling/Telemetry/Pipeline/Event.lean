import Telemetry.Config.Error
import Telemetry.Pipeline.Context
import Telemetry.Record.Basic

/-!
# Events

What pipelines report about themselves. Each event has a level and a line of text.
-/

namespace Telemetry.Pipeline

/-- How much an event matters. -/
inductive Level where
  | warn
  | info
  | debug
  deriving DecidableEq, Repr

/-- The name of a level. -/
def Level.name : Level → String
  | .warn => "WARN"
  | .info => "INFO"
  | .debug => "DEBUG"

/-- What a pipeline reports. -/
inductive Event where
  /-- A pipeline is going to be made of so many processors. -/
  | buildStarted (processors : Nat)
  /-- A processor has been compiled. -/
  | processorCompiled (processor : String) (kind : Config.ProcessorKind) (actions : Nat)
  /-- The pipeline is made; its processors have these ids. -/
  | built (processors : List String)
  /-- The pipeline cannot be made. -/
  | buildFailed (error : Config.Error)
  /-- A processor has dropped a record. -/
  | recordDropped (processor : String) (kind : Record.Kind)
  /-- All records of a batch have been processed. -/
  | batchCompleted (received forwarded dropped : Nat)
  /-- The pipeline has been replaced by another one. -/
  | swapped (old new : String)
  deriving DecidableEq, Repr

/-- The level of an event. -/
def Event.level : Event → Level
  | .buildFailed _ => .warn
  | .processorCompiled .. | .recordDropped .. => .debug
  | .buildStarted _ | .built _ | .batchCompleted .. | .swapped .. => .info

/-- The processor that an event is about, if it is about one. -/
def Event.processor? : Event → Option String
  | .processorCompiled processor .. | .recordDropped processor _ => some processor
  | _ => none

/-- The text of an event. -/
def Event.text (event : Event) (wording : Pattern.Wording := .brief) : String :=
  match event with
  | .buildStarted processors => "PIPELINE_BUILD_START processors=" ++ toString processors
  | .processorCompiled _ kind actions =>
    "PROCESSOR_COMPILED type=" ++ kind.name ++ " actions=" ++ toString actions
  | .built ids =>
    "PIPELINE_BUILT processors=" ++ toString ids.length ++ " ids=" ++ Text.quotedList ids
  | .buildFailed error => "PIPELINE_BUILD_FAILED error=" ++ error.message wording
  | .recordDropped _ kind => "RECORD_DROPPED kind=" ++ kind.name
  | .batchCompleted received forwarded dropped =>
    "BATCH_COMPLETE received=" ++ toString received ++ " forwarded=" ++ toString forwarded ++
      " dropped=" ++ toString dropped
  | .swapped old new => "PIPELINE_SWAPPED old=" ++ old ++ " new=" ++ new

/-- An event with the context of the pipeline that reports it. -/
structure Entry where
  context : Context
  event : Event
  deriving DecidableEq, Repr

/-- The level of an entry. -/
def Entry.level (entry : Entry) : Level := entry.event.level

/-- The line of an entry. -/
def Entry.line (entry : Entry) (wording : Pattern.Wording := .brief) : String :=
  (match entry.event.processor? with
    | some processor => entry.context.scope processor
    | none => entry.context.label) ++ " " ++ entry.event.text wording

end Telemetry.Pipeline
