/-!
# Configuration

What a document says about the processors of a pipeline, before anything is checked or compiled.
A section that is absent is told from one that is empty, since some sections are refused on some
kinds of processors.
-/

namespace Telemetry

namespace Config

/-! ## Kinds -/

/-- The kinds of processors. -/
inductive ProcessorKind where
  /-- Changes the attributes of spans and logs. -/
  | attribute
  /-- Gives logs new bodies. -/
  | log
  /-- Gives spans new names. -/
  | span
  /-- Drops metrics by name. -/
  | metricFilter
  deriving DecidableEq, Repr

/-- All kinds of processors. -/
def ProcessorKind.all : List ProcessorKind := [.attribute, .log, .span, .metricFilter]

/-- The name of a kind of processors. -/
def ProcessorKind.name : ProcessorKind → String
  | .attribute => "attribute"
  | .log => "log"
  | .span => "span"
  | .metricFilter => "metric-filter"

/-- How the names and values that a selection lists are compared. -/
inductive MatchKind where
  /-- They are texts, to be equal. -/
  | strict
  /-- They are patterns, to match the whole text. -/
  | regexp
  deriving DecidableEq, Repr

/-- All ways to compare. -/
def MatchKind.all : List MatchKind := [.strict, .regexp]

/-- The name of a way to compare. -/
def MatchKind.name : MatchKind → String
  | .strict => "strict"
  | .regexp => "regexp"

/-- The kinds of actions on an attribute. -/
inductive ActionKind where
  | insert
  | update
  | delete
  | hash
  | extract
  | mask
  deriving DecidableEq, Repr

/-- All kinds of actions. -/
def ActionKind.all : List ActionKind := [.insert, .update, .delete, .hash, .extract, .mask]

/-- The name of a kind of actions. -/
def ActionKind.name : ActionKind → String
  | .insert => "insert"
  | .update => "update"
  | .delete => "delete"
  | .hash => "hash"
  | .extract => "extract"
  | .mask => "mask"

/-! ## Sections -/

/-- What an attribute has to be; without a value, that it is there. -/
structure Criterion where
  key : String
  value : Option String := none
  deriving DecidableEq, Repr

/-- Which records to select. -/
structure Selection where
  matchKind : MatchKind
  spanNames : List String := []
  logBodies : List String := []
  metricNames : List String := []
  attributes : List Criterion := []
  deriving DecidableEq, Repr

/-- An action on an attribute. -/
structure Action where
  kind : ActionKind
  key : String
  /-- The value to insert or to update to. -/
  value : Option String := none
  /-- The attribute whose value is inserted or updated to. -/
  fromAttribute : Option String := none
  /-- The pattern of an extraction or a mask. -/
  pattern : Option String := none
  /-- The named groups that the pattern is said to have. -/
  groupNames : Option (List String) := none
  /-- The template that a mask puts in place of what its pattern matches. -/
  replace : Option String := none
  deriving DecidableEq, Repr

/-- The patterns that move parts of a name or body to attributes; the first that occurs counts. -/
structure Rules where
  rules : List String := []
  deriving DecidableEq, Repr

/-- How the new name of a span or the new body of a log is made. -/
structure Relabeling where
  /-- The attributes whose values make the new text. -/
  fromAttributes : Option (List String) := none
  /-- What stands between those values. -/
  separator : Option String := none
  toAttributes : Option Rules := none
  deriving DecidableEq, Repr

/-- One processor. -/
structure Processor where
  id : String
  kind : ProcessorKind
  /-- The records that the processor is for; all if absent. -/
  included : Option Selection := none
  /-- The records that the processor is not for. -/
  excluded : Option Selection := none
  /-- What an attribute processor does. -/
  actions : Option (List Action) := none
  /-- What a log processor does. -/
  body : Option Relabeling := none
  /-- What a span processor does. -/
  name : Option Relabeling := none
  deriving DecidableEq, Repr

end Config

/-- A document: the processors of a pipeline, in order. -/
structure Config where
  processors : List Config.Processor := []
  deriving DecidableEq, Repr

end Telemetry
