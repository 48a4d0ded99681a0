import Telemetry.Config.Basic
import Telemetry.Schema.Form

/-!
# The JSON form of configurations

Every struct is strict: a member that it does not know is refused. Sections that are absent are not
written, lists always are, and what is written is read back as it was.
-/

namespace Telemetry.Config

open Schema

/-- A kind of processors is written as its name. -/
def ProcessorKind.form : Form ProcessorKind where
  shape := .choice (ProcessorKind.all.map ProcessorKind.name)
  toData
    | .attribute => (0 : Fin 4)
    | .log => (1 : Fin 4)
    | .span => (2 : Fin 4)
    | .metricFilter => (3 : Fin 4)
  ofData := fun (i : Fin 4) =>
    match i with
    | 0 => .attribute
    | 1 => .log
    | 2 => .span
    | 3 => .metricFilter
  ofData_toData := by intro a; cases a <;> rfl
  toData_ofData := by decide

/-- A way to compare is written as its name. -/
def MatchKind.form : Form MatchKind where
  shape := .choice (MatchKind.all.map MatchKind.name)
  toData
    | .strict => (0 : Fin 2)
    | .regexp => (1 : Fin 2)
  ofData := fun (i : Fin 2) =>
    match i with
    | 0 => .strict
    | 1 => .regexp
  ofData_toData := by intro a; cases a <;> rfl
  toData_ofData := by decide

/-- A kind of actions is written as its name. -/
def ActionKind.form : Form ActionKind where
  shape := .choice (ActionKind.all.map ActionKind.name)
  toData
    | .insert => (0 : Fin 6)
    | .update => (1 : Fin 6)
    | .delete => (2 : Fin 6)
    | .hash => (3 : Fin 6)
    | .extract => (4 : Fin 6)
    | .mask => (5 : Fin 6)
  ofData := fun (i : Fin 6) =>
    match i with
    | 0 => .insert
    | 1 => .update
    | 2 => .delete
    | 3 => .hash
    | 4 => .extract
    | 5 => .mask
  ofData_toData := by intro a; cases a <;> rfl
  toData_ofData := by decide

/-- The JSON form of a criterion. -/
def Criterion.form : Form Criterion where
  shape := .struct "AttributeCriterion" true
    (.cons "key" .required .text
    (.cons "value" .omitted (.optional .text) .nil))
  toData := fun c => (c.key, c.value, ())
  ofData := fun (key, value, ()) => { key, value }
  ofData_toData := fun _ => rfl
  toData_ofData := fun _ => rfl

/-- The JSON form of a selection: its lists are always written. -/
def Selection.form : Form Selection where
  shape := .struct "MatchConfig" true
    (.cons "matchType" .required MatchKind.form.shape
    (.cons "spanNames" .defaulted (.list .text)
    (.cons "logBodies" .defaulted (.list .text)
    (.cons "metricNames" .defaulted (.list .text)
    (.cons "attributes" .defaulted Criterion.form.list.shape .nil)))))
  toData := fun s =>
    (MatchKind.form.toData s.matchKind, s.spanNames, s.logBodies, s.metricNames,
      Criterion.form.list.toData s.attributes, ())
  ofData := fun (matchKind, spanNames, logBodies, metricNames, attributes, ()) =>
    { matchKind := MatchKind.form.ofData matchKind, spanNames, logBodies, metricNames,
      attributes := Criterion.form.list.ofData attributes }
  ofData_toData := fun s => by simp only [Form.ofData_toData]
  toData_ofData := fun d => by simp only [Form.toData_ofData]

/-- The JSON form of an action: what is absent is not written. -/
def Action.form : Form Action where
  shape := .struct "ActionConfig" true
    (.cons "action" .required ActionKind.form.shape
    (.cons "key" .required .text
    (.cons "value" .omitted (.optional .text)
    (.cons "fromAttribute" .omitted (.optional .text)
    (.cons "pattern" .omitted (.optional .text)
    (.cons "groupNames" .omitted (.optional (.list .text))
    (.cons "replace" .omitted (.optional .text) .nil)))))))
  toData := fun a =>
    (ActionKind.form.toData a.kind, a.key, a.value, a.fromAttribute, a.pattern, a.groupNames,
      a.replace, ())
  ofData := fun (kind, key, value, fromAttribute, pattern, groupNames, replace, ()) =>
    { kind := ActionKind.form.ofData kind, key, value, fromAttribute, pattern, groupNames, replace }
  ofData_toData := fun a => by simp only [Form.ofData_toData]
  toData_ofData := fun d => by simp only [Form.toData_ofData]

/-- The JSON form of rules: the list is always written. -/
def Rules.form : Form Rules where
  shape := .struct "ToAttributesConfig" true (.cons "rules" .defaulted (.list .text) .nil)
  toData := fun r => (r.rules, ())
  ofData := fun (rules, ()) => { rules }
  ofData_toData := fun _ => rfl
  toData_ofData := fun _ => rfl

/-- The JSON form of a relabeling: what is absent is not written. -/
def Relabeling.form : Form Relabeling where
  shape := .struct "NameConfig" true
    (.cons "fromAttributes" .omitted (.optional (.list .text))
    (.cons "separator" .omitted (.optional .text)
    (.cons "toAttributes" .omitted Rules.form.optional.shape .nil)))
  toData := fun r =>
    (r.fromAttributes, r.separator, Rules.form.optional.toData r.toAttributes, ())
  ofData := fun (fromAttributes, separator, toAttributes, ()) =>
    { fromAttributes, separator, toAttributes := Rules.form.optional.ofData toAttributes }
  ofData_toData := fun r => by simp only [Form.ofData_toData]
  toData_ofData := fun d => by simp only [Form.toData_ofData]

/-- The JSON form of a processor: sections that are absent are not written. -/
def Processor.form : Form Processor where
  shape := .struct "ProcessorConfig" true
    (.cons "id" .required .text
    (.cons "type" .required ProcessorKind.form.shape
    (.cons "include" .omitted Selection.form.optional.shape
    (.cons "exclude" .omitted Selection.form.optional.shape
    (.cons "actions" .omitted Action.form.list.optional.shape
    (.cons "body" .omitted Relabeling.form.optional.shape
    (.cons "name" .omitted Relabeling.form.optional.shape .nil)))))))
  toData := fun p =>
    (p.id, ProcessorKind.form.toData p.kind, Selection.form.optional.toData p.included,
      Selection.form.optional.toData p.excluded, Action.form.list.optional.toData p.actions,
      Relabeling.form.optional.toData p.body, Relabeling.form.optional.toData p.name, ())
  ofData := fun (id, kind, included, excluded, actions, body, name, ()) =>
    { id, kind := ProcessorKind.form.ofData kind
      included := Selection.form.optional.ofData included
      excluded := Selection.form.optional.ofData excluded
      actions := Action.form.list.optional.ofData actions
      body := Relabeling.form.optional.ofData body
      name := Relabeling.form.optional.ofData name }
  ofData_toData := fun p => by simp only [Form.ofData_toData]
  toData_ofData := fun d => by simp only [Form.toData_ofData]

/-- The JSON form of a document. -/
def form : Form Config where
  shape := .struct "PipelineConfig" true
    (.cons "processors" .defaulted Processor.form.list.shape .nil)
  toData := fun c => (Processor.form.list.toData c.processors, ())
  ofData := fun (processors, ()) => { processors := Processor.form.list.ofData processors }
  ofData_toData := fun c => by simp only [Form.ofData_toData]
  toData_ofData := fun d => by simp only [Form.toData_ofData]

end Telemetry.Config
