import Telemetry.Schema.Form

/-!
# Records

A record is a span, a log line or a point of a metric. Only the text that belongs to its kind has a
meaning: the name of a span, the body of a log line, the name of a metric. That text is the
`subject` of the record.
-/

namespace Telemetry

open Schema

/-- The kinds of records. -/
inductive Record.Kind where
  | span
  | log
  | metric
  deriving DecidableEq, Repr

/-- What identifies a record and says when it was made. No processor looks at it. -/
structure Record.Context where
  timestamp : Option Timestamp := none
  traceId : Option String := none
  spanId : Option String := none
  parentSpanId : Option String := none
  deriving DecidableEq

/-- A span, a log line or a point of a metric. -/
structure Record where
  kind : Record.Kind
  /-- The name of a span. -/
  name : String := ""
  /-- The message of a log line. -/
  body : Option String := none
  /-- The name of a metric. -/
  metricName : Option String := none
  attributes : Attributes := .empty
  context : Record.Context := {}
  deriving DecidableEq

namespace Record

/-- All kinds. -/
def Kind.all : List Kind := [.span, .log, .metric]

/-- The name of a kind. -/
def Kind.name : Kind → String
  | .span => "span"
  | .log => "log"
  | .metric => "metric"

/-- The span with the given name. -/
def span (name : String) : Record := { kind := .span, name }

/-- The log line with the given message. -/
def log (body : String) : Record := { kind := .log, body := some body }

/-- The point of the metric with the given name. -/
def metric (name : String) : Record := { kind := .metric, metricName := some name }

/-- The record with an attribute put under a key. -/
def withAttribute (record : Record) (key value : String) : Record :=
  { record with attributes := record.attributes.insert key value }

/-- The record with another context. -/
def withContext (record : Record) (context : Context) : Record := { record with context }

/-- What the attribute under a key is. -/
def attribute? (record : Record) (key : String) : Option String := record.attributes.get? key

/-- The text that the kind of the record gives a meaning; empty if it is absent. -/
def subject (record : Record) : String :=
  match record.kind with
  | .span => record.name
  | .log => record.body.getD ""
  | .metric => record.metricName.getD ""

/-- The record with another subject. -/
def withSubject (record : Record) (subject : String) : Record :=
  match record.kind with
  | .span => { record with name := subject }
  | .log => { record with body := some subject }
  | .metric => { record with metricName := some subject }

@[simp] theorem kind_withSubject (record : Record) (s : String) :
    (record.withSubject s).kind = record.kind := by
  unfold withSubject
  split <;> rfl

@[simp] theorem subject_withSubject (record : Record) (s : String) :
    (record.withSubject s).subject = s := by
  obtain ⟨kind, _⟩ := record
  cases kind <;> rfl

@[simp] theorem attributes_withSubject (record : Record) (s : String) :
    (record.withSubject s).attributes = record.attributes := by
  unfold withSubject
  split <;> rfl

@[simp] theorem context_withSubject (record : Record) (s : String) :
    (record.withSubject s).context = record.context := by
  unfold withSubject
  split <;> rfl

/-! ## JSON form -/

/-- A kind is written as its name. -/
def Kind.form : Form Kind where
  shape := .choice (Kind.all.map Kind.name)
  toData
    | .span => (0 : Fin 3)
    | .log => (1 : Fin 3)
    | .metric => (2 : Fin 3)
  ofData := fun (i : Fin 3) =>
    match i with
    | 0 => .span
    | 1 => .log
    | 2 => .metric
  ofData_toData := by intro a; cases a <;> rfl
  toData_ofData := by decide

/-- A context is written with all its members; each of them may be missing. -/
def Context.form : Form Context where
  shape := .struct "RecordContext" false
    (.cons "timestamp" .defaulted (.optional .timestamp)
    (.cons "trace_id" .defaulted (.optional .text)
    (.cons "span_id" .defaulted (.optional .text)
    (.cons "parent_span_id" .defaulted (.optional .text) .nil))))
  toData := fun c => (c.timestamp, c.traceId, c.spanId, c.parentSpanId, ())
  ofData := fun (timestamp, traceId, spanId, parentSpanId, ()) =>
    { timestamp, traceId, spanId, parentSpanId }
  ofData_toData := fun _ => rfl
  toData_ofData := fun _ => rfl

/-- A record is written with all its members; only its kind may not be missing. -/
def form : Form Record where
  shape := .struct "Record" false
    (.cons "kind" .required Kind.form.shape
    (.cons "name" .defaulted .text
    (.cons "body" .defaulted (.optional .text)
    (.cons "metric_name" .defaulted (.optional .text)
    (.cons "attributes" .defaulted .textMap
    (.cons "context" .defaulted Context.form.shape .nil))))))
  toData := fun r =>
    (Kind.form.toData r.kind, r.name, r.body, r.metricName, r.attributes,
      Context.form.toData r.context, ())
  ofData := fun (kind, name, body, metricName, attributes, context, ()) =>
    { kind := Kind.form.ofData kind, name, body, metricName, attributes,
      context := Context.form.ofData context }
  ofData_toData := fun r => by simp only [Form.ofData_toData]
  toData_ofData := fun d => by simp only [Form.toData_ofData]

end Record

end Telemetry
