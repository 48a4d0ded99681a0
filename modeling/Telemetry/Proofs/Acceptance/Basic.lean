import Telemetry.Action
import Telemetry.Matcher
import Telemetry.Processor
import Telemetry.Proofs.Compiling

/-!
# What processors are accepted

The rules for a configured processor, said of the configuration itself: which sections may stand
where, which lists of a selection may be filled, what every action needs, and which texts have to be
patterns. Nothing here mentions the checks that compiling makes; `Telemetry.Proofs.Acceptance` shows
that those accept exactly what these rules do.
-/

namespace Telemetry

/-- A text that compiles as a pattern. -/
def Pattern.Compiles (anchoring : Anchoring) (source : String) : Prop :=
  ∃ pattern, Pattern.compile anchoring source = .ok pattern

/-- The patterns of a list, if all of them compile, are not too large to be tried together. -/
def PatternSet.WithinLimit (anchoring : Anchoring) (sources : List String) : Prop :=
  ∀ patterns, List.Forall₂ (fun s p => Pattern.compile anchoring s = .ok p) sources patterns →
    PatternSet.weight patterns ≤ Regex.weightLimit

namespace Config

/-! ## Selections -/

/-- A selection has no list that could never select a record of such a processor, and a metric
filter names metrics. -/
def Selection.Fits (selection : Selection) : ProcessorKind → Prop
  | .attribute => selection.metricNames = []
  | .log => selection.spanNames = [] ∧ selection.metricNames = []
  | .span => selection.logBodies = [] ∧ selection.metricNames = []
  | .metricFilter =>
    selection.spanNames = [] ∧ selection.logBodies = [] ∧ selection.attributes = [] ∧
      selection.metricNames ≠ []

/-- The keys of a selection's criteria are not empty, and what has to be a pattern is one that can
match a whole text. -/
structure Selection.Compiles (selection : Selection) : Prop where
  keys : ∀ criterion ∈ selection.attributes, criterion.key ≠ ""
  names : selection.matchKind = .regexp →
    ∀ source ∈ selection.spanNames ++ selection.logBodies ++ selection.metricNames,
      Pattern.Compiles .full source
  values : selection.matchKind = .regexp →
    ∀ criterion ∈ selection.attributes, ∀ source ∈ criterion.value, Pattern.Compiles .full source

/-- No list of names reaches the limit on what is compiled together. -/
def Selection.WithinLimit (selection : Selection) : Prop :=
  selection.matchKind = .regexp →
    ∀ names ∈ [selection.spanNames, selection.logBodies, selection.metricNames],
      PatternSet.WithinLimit .full names

/-! ## Actions -/

/-- The groups that are declared for a pattern, if any are, are its named groups in order. -/
def Action.GroupsAgree (action : Action) (pattern : Pattern) : Prop :=
  ∀ names ∈ action.groupNames, names = pattern.groupNames

/-- What an action of each kind needs, and what it may not have. -/
def Action.OptionsFit (action : Action) : Prop :=
  match action.kind with
  | .insert | .update =>
    (action.value.isSome ↔ action.fromAttribute = none) ∧ action.pattern = none ∧
      action.groupNames = none ∧ action.replace = none
  | .delete | .hash =>
    action.value = none ∧ action.fromAttribute = none ∧ action.pattern = none ∧
      action.groupNames = none ∧ action.replace = none
  | .extract =>
    action.value = none ∧ action.fromAttribute = none ∧ action.replace = none ∧
      ∃ source pattern, action.pattern = some source ∧
        Pattern.compile .full source = .ok pattern ∧ action.GroupsAgree pattern ∧
        pattern.groupNames ≠ []
  | .mask =>
    action.value = none ∧ action.fromAttribute = none ∧
      ∃ source pattern text, action.pattern = some source ∧
        Pattern.compile .search source = .ok pattern ∧ action.GroupsAgree pattern ∧
        action.replace = some text ∧
        ∀ name ∈ (Template.parse text).placeholders, name ∈ pattern.groupNames

/-- The rules for an action. -/
structure Action.Accepted (action : Action) : Prop where
  key : action.key ≠ ""
  options : action.OptionsFit

/-! ## Relabelings -/

/-- A rule is a pattern with a named group. -/
def Relabeling.RuleAccepted (source : String) : Prop :=
  ∃ pattern, Pattern.compile .search source = .ok pattern ∧ pattern.groupNames ≠ []

/-- The rules for the new name of a span or the new body of a log. -/
structure Relabeling.Accepted (relabeling : Relabeling) : Prop where
  some_step : relabeling.fromAttributes.isSome ∨ relabeling.toAttributes.isSome
  keys : relabeling.fromAttributes ≠ some []
  separator : relabeling.separator.isSome → relabeling.fromAttributes.isSome
  rules : ∀ rules ∈ relabeling.toAttributes,
    rules.rules ≠ [] ∧ ∀ source ∈ rules.rules, Relabeling.RuleAccepted source

/-! ## Processors -/

/-- Sections stand only on the processors that they are for; a metric filter excludes and does not
include. -/
structure Processor.SectionsFit (config : Processor) : Prop where
  actions : config.actions.isSome → config.kind = .attribute
  body : config.body.isSome → config.kind = .log
  name : config.name.isSome → config.kind = .span
  filter : config.kind = .metricFilter → config.included = none ∧ config.excluded.isSome

/-- The section that says what the processor does is there and follows its rules. -/
def Processor.EffectAccepted (config : Processor) : Prop :=
  match config.kind with
  | .attribute =>
    ∃ actions, config.actions = some actions ∧ actions ≠ [] ∧ ∀ action ∈ actions, action.Accepted
  | .log => ∃ body, config.body = some body ∧ body.Accepted
  | .span => ∃ name, config.name = some name ∧ name.Accepted
  | .metricFilter => True

/-- The rules for a processor. -/
structure Processor.Accepted (config : Processor) : Prop where
  id : config.id ≠ ""
  sections : config.SectionsFit
  included : ∀ selection ∈ config.included, selection.Fits config.kind ∧ selection.Compiles
  excluded : ∀ selection ∈ config.excluded, selection.Fits config.kind ∧ selection.Compiles
  effect : config.EffectAccepted

/-- No list of names in the selections of a processor reaches the limit on what is compiled
together. -/
structure Processor.WithinLimit (config : Processor) : Prop where
  included : ∀ selection ∈ config.included, selection.WithinLimit
  excluded : ∀ selection ∈ config.excluded, selection.WithinLimit

end Config

end Telemetry
