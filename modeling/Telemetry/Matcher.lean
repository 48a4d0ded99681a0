import Telemetry.Config.Compile
import Telemetry.Record.Basic

/-!
# Matchers

A matcher says whether a record is selected. Each list of names that is not empty has to hold a name
for the record, which has to be of the kind that the list is for; each criterion has to be met by an
attribute. A matcher without names and criteria selects every record.
-/

namespace Telemetry

open Config (Flaw Field MatchKind Criterion Selection)

/-- A list of names, one of which a subject has to be. -/
inductive Matcher.Names where
  | strict (names : List String)
  | regexp (set : PatternSet)

/-- What the value of an attribute has to be. -/
inductive Matcher.Value where
  | present
  | equal (text : String)
  | matching (pattern : Pattern)

/-- What the attribute under a key has to be. -/
structure Matcher.Test where
  key : String
  value : Matcher.Value

/-- A compiled selection. -/
structure Matcher where
  spanNames : Option Matcher.Names
  logBodies : Option Matcher.Names
  metricNames : Option Matcher.Names
  attributes : List Matcher.Test

namespace Matcher

/-! ## Compiling -/

/-- Compiles a list of names; there is nothing to match if it is empty. -/
def Names.compile (field : Field) (kind : MatchKind) (names : List String) :
    Except Flaw (Option Names) :=
  if names.isEmpty then .ok none
  else
    match kind with
    | .strict => .ok (some (.strict names))
    | .regexp => (field.compilePatternSet .full names).map (fun set => some (.regexp set))

/-- Compiles a criterion. -/
def Test.compile (kind : MatchKind) (field : Field) (criterion : Criterion) :
    Except Flaw Test :=
  if criterion.key = "" then .error (field.flaw (.value .emptyAttributeKey))
  else
    match criterion.value, kind with
    | none, _ => .ok ⟨criterion.key, .present⟩
    | some text, .strict => .ok ⟨criterion.key, .equal text⟩
    | some text, .regexp =>
      ((field.member "value").compilePattern .full text).map
        (fun pattern => ⟨criterion.key, .matching pattern⟩)

/-- Compiles a selection. -/
def compile (field : Field) (selection : Selection) : Except Flaw Matcher := do
  let kind := selection.matchKind
  let spanNames ← Names.compile (field.member "spanNames") kind selection.spanNames
  let logBodies ← Names.compile (field.member "logBodies") kind selection.logBodies
  let metricNames ← Names.compile (field.member "metricNames") kind selection.metricNames
  let attributes ←
    (field.member "attributes").compileItems (Test.compile kind) 0 selection.attributes
  return { spanNames, logBodies, metricNames, attributes }

/-! ## Matching -/

/-- Whether one of the names is the subject, or matches it. -/
def Names.isMatch (names : Names) (subject : String) : Bool :=
  match names with
  | .strict names => names.contains subject
  | .regexp set => set.isMatch subject

/-- Whether the value of an attribute is as it has to be. -/
def Value.isMatch (value : Value) (actual : String) : Bool :=
  match value with
  | .present => true
  | .equal text => actual = text
  | .matching pattern => pattern.isMatch actual

/-- Whether there is an attribute as it has to be. -/
def Test.isMatch (test : Test) (attributes : Attributes) : Bool :=
  (attributes.get? test.key).any test.value.isMatch

/-- Whether a list of names for records of the given kind admits a record; where there is no list,
every record. -/
def admits (names : Option Names) (kind : Record.Kind) (record : Record) : Bool :=
  names.all (fun names => kind = record.kind && names.isMatch record.subject)

/-- Whether the matcher selects a record. -/
def isMatch (matcher : Matcher) (record : Record) : Bool :=
  admits matcher.spanNames .span record &&
  admits matcher.logBodies .log record &&
  admits matcher.metricNames .metric record &&
  matcher.attributes.all (·.isMatch record.attributes)

/-- Whether a record is included, where there is something to include, and not excluded. -/
def selects (included excluded : Option Matcher) (record : Record) : Bool :=
  included.all (·.isMatch record) && !excluded.any (·.isMatch record)

end Matcher

end Telemetry
