import Telemetry.Config.Document
import Telemetry.Pipeline.Event
import Telemetry.Processor

/-!
# Pipelines

A pipeline is a list of processors, compiled from a document once. It is made of all of them or not
at all. Records go through the processors in order; the first one that drops a record is the last
that sees it.
-/

namespace Telemetry

/-- Compiled processors in order. -/
structure Pipeline where
  context : Pipeline.Context
  processors : List Processor

namespace Pipeline

/-! ## Building -/

/-- What an attempt to make a pipeline gives, with what it reports. -/
structure Build where
  result : Except Config.Error Pipeline
  log : List Entry

/-- The pipeline without processors. -/
def empty (serial : Nat) : Pipeline := ⟨.new serial 0, []⟩

/-- The first text of a list that repeats one before it or in `seen`. -/
def firstRepeated? : List String → List String → Option String
  | _, [] => none
  | seen, id :: ids => if seen.contains id then some id else firstRepeated? (id :: seen) ids

/-- The entry for a processor that has been compiled. -/
def compiledEntry (context : Context) (processor : Processor) : Entry :=
  ⟨context, .processorCompiled processor.id processor.kind processor.actionCount⟩

/-- Compiles processors one after another, and reports each. -/
def compileAll (context : Context) :
    List Config.Processor → Except Config.Error (List Processor) × List Entry
  | [] => (.ok [], [])
  | config :: rest =>
    match Processor.compile config with
    | .error e => (.error e, [])
    | .ok processor =>
      let (result, log) := compileAll context rest
      (result.map (processor :: ·), compiledEntry context processor :: log)

/-- Compiles processors that have ids of their own. -/
def compileDistinct (context : Context) (configs : List Config.Processor) :
    Except Config.Error (List Processor) × List Entry :=
  match firstRepeated? [] (configs.map (·.id)) with
  | some id => (.error (.duplicateId id), [])
  | none => compileAll context configs

/-- Makes the pipeline with a serial number of a document. -/
def build (serial : Nat) (config : Config) : Build :=
  let context := Context.new serial config.processors.length
  let started : Entry := ⟨context, .buildStarted config.processors.length⟩
  match compileDistinct context config.processors with
  | (.ok processors, log) =>
    ⟨.ok ⟨context, processors⟩,
      started :: log ++ [⟨context, .built (processors.map (·.id))⟩]⟩
  | (.error e, log) => ⟨.error e, started :: log ++ [⟨context, .buildFailed e⟩]⟩

/-- Reads a document and makes the pipeline with a serial number of it. Nothing is reported of what
is no document. -/
def ofSource (serial : Nat) (source : Config.Source) : Build :=
  match source.read with
  | .error e => ⟨.error e, []⟩
  | .ok config => build serial config

/-- The ids of the processors. -/
def processorIds (pipeline : Pipeline) : List String := pipeline.processors.map (·.id)

/-! ## Processing -/

/-- What becomes of a record in a pipeline. -/
inductive Disposition where
  /-- All processors kept it. -/
  | forward
  /-- The processor with the given index dropped it. -/
  | dropped (processor : Nat)
  deriving DecidableEq, Repr

/-- What a pipeline makes of a record, what becomes of it, and what is reported. -/
structure Outcome where
  record : Record
  disposition : Disposition
  log : List Entry

/-- Sends a record through processors; `index` is the number of those before. -/
def run (context : Context) : Nat → List Processor → Record → Outcome
  | _, [], record => ⟨record, .forward, []⟩
  | index, processor :: rest, record =>
    match processor.process record with
    | (record, .drop) =>
      ⟨record, .dropped index, [⟨context, .recordDropped processor.id record.kind⟩]⟩
    | (record, .keep) => run context (index + 1) rest record

/-- Sends a record through a pipeline. -/
def process (pipeline : Pipeline) (record : Record) : Outcome :=
  run pipeline.context 0 pipeline.processors record

/-- The record, if it was forwarded. -/
def Outcome.forwarded? (outcome : Outcome) : Option Record :=
  match outcome.disposition with
  | .forward => some outcome.record
  | .dropped _ => none

end Pipeline

end Telemetry
