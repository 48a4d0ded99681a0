import Telemetry.Action
import Telemetry.Matcher
import Telemetry.Relabeler

/-!
# Processors

A processor is compiled from its configuration once. It looks at records of some kinds only, and of
those at the ones it selects; it changes their attributes, gives them new subjects, or drops them.
-/

namespace Telemetry

open Config (Flaw Field ProcessorKind Selection)

/-- What a processor does to the records that it is for. -/
inductive Processor.Effect where
  /-- Changes the attributes of the selected records. -/
  | actions (actions : List Action)
  /-- Gives the selected records new subjects. -/
  | relabel (relabeler : Relabeler)
  /-- Drops the excluded records. -/
  | dropExcluded

/-- A compiled processor. -/
structure Processor where
  id : String
  kind : ProcessorKind
  included : Option Matcher
  excluded : Option Matcher
  effect : Processor.Effect

/-- What becomes of a record. -/
inductive Verdict where
  | keep
  | drop
  deriving DecidableEq, Repr

/-! ## Checks -/

/-- Whether processors of a kind look at records of a kind. -/
def Config.ProcessorKind.appliesTo (kind : ProcessorKind) (record : Record.Kind) : Bool :=
  match kind, record with
  | .attribute, .span | .attribute, .log | .log, .log | .span, .span | .metricFilter, .metric => true
  | _, _ => false

/-- Whether processors of a kind may list the attributes of records. -/
def Config.ProcessorKind.mayListAttributes (kind : ProcessorKind) : Bool := kind ≠ .metricFilter

namespace Processor

/-- The sections that a processor has, with the one kind of processors that each is for. -/
def sections (config : Config.Processor) : List (String × ProcessorKind) :=
  [("actions", ProcessorKind.attribute, config.actions.isSome),
    ("body", .log, config.body.isSome), ("name", .span, config.name.isSome)].filterMap
    (fun (name, kind, present) => if present then some (name, kind) else none)

/-- Refuses sections that do not belong to the kind of the processor. -/
def checkSections (config : Config.Processor) : Except Flaw Unit := do
  let misplaced (name : String) : Flaw :=
    (Field.named name).flaw (.illegal (.sectionOfProcessor config.kind))
  if let some (name, _) := (sections config).find? (fun s => s.2 ≠ config.kind) then
    .error (misplaced name)
  if config.kind = .metricFilter then
    if config.included.isSome then .error (misplaced "include")
    if config.excluded.isNone then .error ((Field.named "exclude").flaw .missing)

/-- The lists of a selection that are not empty, with whether processors of a kind may have them. -/
def dimensions (kind : ProcessorKind) (selection : Selection) : List (String × Bool) :=
  [("spanNames", selection.spanNames.isEmpty, kind.appliesTo .span),
    ("logBodies", selection.logBodies.isEmpty, kind.appliesTo .log),
    ("metricNames", selection.metricNames.isEmpty, kind.appliesTo .metric),
    ("attributes", selection.attributes.isEmpty, kind.mayListAttributes)].filterMap
    (fun (name, isEmpty, allowed) => if isEmpty then none else some (name, allowed))

/-- Refuses lists that can never select a record of the processor. A metric filter has to name
metrics. -/
def checkSelection (kind : ProcessorKind) (field : Field) :
    Option Selection → Except Flaw Unit
  | none => .ok ()
  | some selection => do
    if let some (name, _) := (dimensions kind selection).find? (fun d => !d.2) then
      .error ((field.member name).flaw (.illegal (.dimensionOfProcessor kind)))
    if kind = .metricFilter && selection.metricNames.isEmpty then
      .error ((field.member "metricNames").flaw .missing)

/-! ## Compiling -/

/-- Compiles the section in a field that gives records new subjects. -/
def compileRelabel (field : Field) : Option Config.Relabeling → Except Flaw Effect
  | none => .error (field.flaw .missing)
  | some config => (Relabeler.compile field config).map .relabel

/-- Compiles the section that says what the processor does. -/
def compileEffect (config : Config.Processor) : Except Flaw Effect :=
  match config.kind with
  | .attribute =>
    let field := Field.named "actions"
    match config.actions with
    | none => .error (field.flaw .missing)
    | some actions =>
      if actions.isEmpty then .error (field.flaw (.value .noActions))
      else (field.compileItems Action.compile 0 actions).map .actions
  | .log => compileRelabel (.named "body") config.body
  | .span => compileRelabel (.named "name") config.name
  | .metricFilter => .ok .dropExcluded

/-- Compiles the selection in a field, if there is one. -/
def compileSelection (field : Field) : Option Selection → Except Flaw (Option Matcher)
  | none => .ok none
  | some selection => (Matcher.compile field selection).map some

/-- Compiles a processor that has an id. -/
def compileNamed (config : Config.Processor) : Except Flaw Processor := do
  checkSections config
  checkSelection config.kind (.named "include") config.included
  checkSelection config.kind (.named "exclude") config.excluded
  let included ← compileSelection (.named "include") config.included
  let excluded ← compileSelection (.named "exclude") config.excluded
  let effect ← compileEffect config
  return { id := config.id, kind := config.kind, included, excluded, effect }

/-- How errors call a processor without an id. -/
def unnamed : String := "<unnamed>"

/-- Compiles a processor. -/
def compile (config : Config.Processor) : Except Config.Error Processor :=
  if config.id = "" then .error (.rejected unnamed ((Field.named "id").flaw (.value .emptyId)))
  else (compileNamed config).mapError (.rejected config.id)

/-! ## Processing -/

/-- The number of actions of a processor. -/
def actionCount (processor : Processor) : Nat :=
  match processor.effect with
  | .actions actions => actions.length
  | .relabel _ | .dropExcluded => 0

/-- Whether a processor looks at records of a kind. -/
def appliesTo (processor : Processor) (kind : Record.Kind) : Bool := processor.kind.appliesTo kind

/-- Whether a processor changes a record of a kind that it looks at. -/
def selects (processor : Processor) (record : Record) : Bool :=
  Matcher.selects processor.included processor.excluded record

/-- What a processor makes of a record, and what becomes of it. -/
def process (processor : Processor) (record : Record) : Record × Verdict :=
  if !processor.appliesTo record.kind then (record, .keep)
  else
    match processor.effect with
    | .dropExcluded =>
      (record, if processor.excluded.any (·.isMatch record) then .drop else .keep)
    | .actions actions =>
      if processor.selects record then
        ({ record with attributes := Action.applyAll actions record.attributes }, .keep)
      else (record, .keep)
    | .relabel relabeler =>
      if processor.selects record then (relabeler.apply record, .keep) else (record, .keep)

end Processor

end Telemetry
