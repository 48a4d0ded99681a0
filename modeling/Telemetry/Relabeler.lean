import Telemetry.Config.Compile
import Telemetry.Record.Basic

/-!
# Relabelers

A relabeler gives a record a new subject in two steps. The first rule that occurs in the subject
moves what its named groups cover to attributes and leaves `{name}` in place of it; then the subject
may be made anew from the values of attributes.
-/

namespace Telemetry

open Config (Flaw Field)

/-- The attributes whose values make a subject, and what stands between them. -/
structure Relabeler.Join where
  keys : List String
  separator : String
  deriving DecidableEq, Repr

/-- A compiled relabeling. -/
structure Relabeler where
  rules : List Pattern
  join : Option Relabeler.Join

namespace Relabeler

/-! ## Compiling -/

/-- Compiles what a subject is made of. -/
def Join.compile (field : Field) (config : Config.Relabeling) : Except Flaw (Option Join) :=
  match config.fromAttributes with
  | some keys =>
    if keys.isEmpty then
      .error ((field.member "fromAttributes").flaw (.value .noAttributeKeys))
    else .ok (some ⟨keys, config.separator.getD ""⟩)
  | none =>
    if config.separator.isSome then
      .error ((field.member "separator").flaw (.illegal .separatorAlone))
    else .ok none

/-- Compiles a rule, which has to have a named group. -/
def compileRule (field : Field) (source : String) : Except Flaw Pattern := do
  field.requireGroups (← field.compilePattern .search source)

/-- Compiles the rules of a relabeling. -/
def compileRules (field : Field) (config : Config.Relabeling) : Except Flaw (List Pattern) :=
  match config.toAttributes with
  | none => .ok []
  | some config =>
    let field := (field.member "toAttributes").member "rules"
    if config.rules.isEmpty then .error (field.flaw (.value .noRules))
    else field.compileItems compileRule 0 config.rules

/-- Compiles the relabeling in a field. -/
def compile (field : Field) (config : Config.Relabeling) : Except Flaw Relabeler := do
  if config.fromAttributes.isNone && config.toAttributes.isNone then
    .error ((field.member "fromAttributes").flaw .missing)
  let join ← Join.compile field config
  let rules ← compileRules field config
  return { rules, join }

/-! ## Relabeling -/

/-- The text from the position `last` on, with `{name}` in place of each group that does not start
in a group replaced before. -/
def templated (text : Array Char) : Nat → List (String × Regex.Span) → List Char
  | last, [] => (text.extract last).toList
  | last, (name, span) :: rest =>
    if last ≤ span.start then
      (text.extract last span.start).toList ++ '{' :: name.toList ++ '}' ::
        templated text span.stop rest
    else templated text last rest

/-- The named groups that take part in a match, with what they cover. -/
def groupSpans (rule : Pattern) (m : Regex.Match) : List (String × Regex.Span) :=
  rule.regex.namedGroups.filterMap (fun g => (m.group? g.1).map (g.2, ·))

/-- What a rule makes of a subject in which it occurs: the attributes and the new subject. -/
def applyRule (rule : Pattern) (subject : String) : Option (List (String × String) × String) :=
  let text := subject.toList.toArray
  (rule.regex.firstMatch text).map fun m =>
    let spans := groupSpans rule m
    (spans.map (fun (name, span) => (name, span.textIn text)),
      String.ofList (templated text 0 spans))

/-- The record after the first rule that occurs in its subject. -/
def applyRules (rules : List Pattern) (record : Record) : Record :=
  match rules.findSome? (applyRule · record.subject) with
  | some (extracted, subject) =>
    { record with attributes := record.attributes.insertMany extracted }.withSubject subject
  | none => record

/-- The subject that a join makes of attributes; nothing stands for one that is absent. -/
def Join.subject (join : Join) (attributes : Attributes) : String :=
  join.separator.intercalate (join.keys.map (fun key => (attributes.get? key).getD ""))

/-- The record with its new subject. -/
def apply (relabeler : Relabeler) (record : Record) : Record :=
  let record := applyRules relabeler.rules record
  match relabeler.join with
  | some join => record.withSubject (join.subject record.attributes)
  | none => record

end Relabeler

end Telemetry
