import Telemetry.Proofs.Schema.Reading
import Telemetry.Proofs.Schema.RoundTrip
import Telemetry.Record.Basic

/-!
# Reading records back

A record is read back from its JSON form as it was, whatever other members stand beside those of the
record or of its context, and in whatever order, from the value as well as from its text. Main
statements: `decode_of_presents` and `parse_of_presents`.
-/

namespace Telemetry

open Schema

/-! ## Attributes -/

/-- The order in which texts stand under their keys does not matter. -/
theorem Schema.decodeTextMap_of_perm {attributes : Attributes} {members : List (String × Json)}
    (h : members.Perm (attributes.entries.map (fun e => (e.1, Json.string e.2)))) :
    decodeTextMap (.object members) = .ok attributes := by
  obtain ⟨entries, hentries, hmembers⟩ : ∃ entries : List (String × String),
      entries.Perm attributes.entries ∧ members = entries.map (fun e => (e.1, Json.string e.2)) := by
    refine ⟨members.map (fun m => (m.1, m.2.asString?.getD "")), ?_, ?_⟩
    · have htexts := h.map (fun m => (m.1, m.2.asString?.getD ""))
      rw [List.map_map] at htexts
      exact htexts.trans (.of_eq (List.map_id _))
    · rw [List.map_map]
      refine (List.map_id members).symm.trans (List.map_congr_left fun m hm => ?_)
      obtain ⟨e, -, rfl⟩ := List.mem_map.mp (h.mem_iff.mp hm)
      rfl
  have hkeys := attributes.ascending.nodup_keys
  have hread : decodeTextMap (.object members) = .ok (Attributes.empty.insertMany entries) :=
    hmembers ▸ foldlM_decodeText .empty entries
  have hsame : Attributes.empty.insertMany entries = attributes := by
    refine Attributes.ext_get? fun key => ?_
    rw [Attributes.get?, entries_insertMany]
    exact (Keyed.get?_ofList (Keyed.nodup_keys_of_perm hkeys hentries) key).trans
      (Keyed.get?_eq_of_perm hkeys hentries key)
  rw [hread, hsame]

namespace Record

/-! ## JSON forms -/

/-- A text, or `null` where there is none. -/
def textOrNull : Option String → Json
  | some s => .string s
  | none => .null

/-- The members of a context. -/
def Context.members (context : Context) : List (String × Json) :=
  [("timestamp", textOrNull (context.timestamp.map Timestamp.text)),
    ("trace_id", textOrNull context.traceId),
    ("span_id", textOrNull context.spanId),
    ("parent_span_id", textOrNull context.parentSpanId)]

/-- The members of a record, whose attributes and whose context are given as they are written. -/
def members (record : Record) (attributes context : Json) : List (String × Json) :=
  [("kind", .string record.kind.name),
    ("name", .string record.name),
    ("body", textOrNull record.body),
    ("metric_name", textOrNull record.metricName),
    ("attributes", attributes),
    ("context", context)]

/-- Whether a value is an object with the texts of the attributes under their keys, in any order,
and nothing else. -/
def HoldsAttributes (j : Json) (attributes : Attributes) : Prop :=
  ∃ members, j = .object members ∧
    members.Perm (attributes.entries.map (fun e => (e.1, Json.string e.2)))

/-- Whether a value is a JSON form of a record: an object with its members, in any order and perhaps
among others. Its context may hold others too. -/
def Presents (j : Json) (record : Record) : Prop :=
  ∃ attributes context, HoldsAttributes attributes record.attributes ∧
    Holds context record.context.members ∧ Holds j (record.members attributes context)

/-- The names of the members of a context. -/
def Context.memberNames : List String := ["timestamp", "trace_id", "span_id", "parent_span_id"]

/-- The names of the members of a record. -/
def memberNames : List String := ["kind", "name", "body", "metric_name", "attributes", "context"]

/-- The JSON form of a record, with more members put into it and into its context. -/
def encodeWith (record : Record) (more moreContext : List (String × Json)) : Json :=
  .ofMembers (record.members (encodeTextMap record.attributes)
    (.ofMembers (record.context.members ++ moreContext)) ++ more)

/-! ## Members put in -/

theorem encode_kind (kind : Kind) : Kind.form.encode kind = .string kind.name := by
  cases kind <;> rfl

theorem encode_textOrNull (s : Option String) :
    (Shape.optional .text).encode s = textOrNull s := by
  cases s <;> rfl

theorem encode_timestamp (timestamp : Option Timestamp) :
    (Shape.optional .timestamp).encode timestamp =
      textOrNull (timestamp.map Timestamp.text) := by
  cases timestamp <;> rfl

theorem encode_context (context : Context) :
    Context.form.encode context = .ofMembers context.members := by
  change Json.ofMembers
    [("timestamp", (Shape.optional .timestamp).encode context.timestamp),
      ("trace_id", (Shape.optional .text).encode context.traceId),
      ("span_id", (Shape.optional .text).encode context.spanId),
      ("parent_span_id", (Shape.optional .text).encode context.parentSpanId)] = _
  simp only [encode_timestamp, encode_textOrNull, Context.members]

theorem encodeWith_nil (record : Record) : record.encodeWith [] [] = form.encode record := by
  change _ = Json.ofMembers
    [("kind", Kind.form.encode record.kind),
      ("name", .string record.name),
      ("body", (Shape.optional .text).encode record.body),
      ("metric_name", (Shape.optional .text).encode record.metricName),
      ("attributes", encodeTextMap record.attributes),
      ("context", Context.form.encode record.context)]
  simp only [encode_textOrNull, encode_context, encode_kind, encodeWith, members, List.append_nil]

/-- The form of a record presents it, with whatever members are put in under other names. -/
theorem presents_encodeWith (record : Record) {more moreContext : List (String × Json)}
    (hmore : ∀ m ∈ more, m.1 ∉ memberNames)
    (hmoreContext : ∀ m ∈ moreContext, m.1 ∉ Context.memberNames) :
    Presents (record.encodeWith more moreContext) record :=
  ⟨_, _, ⟨_, rfl, .refl _⟩,
    holds_ofMembers (by decide +kernel : Context.memberNames.Nodup) hmoreContext,
    holds_ofMembers (by decide +kernel : memberNames.Nodup) hmore⟩

/-! ## Reading back -/

theorem decode_kind (kind : Kind) :
    Kind.form.shape.decode (.string kind.name) = .ok (Kind.form.toData kind) := by
  rw [← encode_kind]
  exact Shape.decode_encode _ rfl _

theorem decode_textOrNull (s : Option String) :
    (Shape.optional .text).decode (textOrNull s) = .ok s := by
  cases s <;> rfl

theorem decode_timestamp {timestamp : Option Timestamp}
    (h : ∀ t, timestamp = some t → Timestamp.parse t.text.toList = .ok t) :
    (Shape.optional .timestamp).decode (textOrNull (timestamp.map Timestamp.text)) =
      .ok timestamp := by
  cases timestamp with
  | none => rfl
  | some t =>
    change (decodeTimestamp (.string t.text)).map some = .ok (some t)
    rw [decodeTimestamp, decodeText]
    simp only [h t rfl]
    rfl

/-- A context is read back, whatever other members stand in it. -/
theorem decode_context {j : Json} {context : Context} (hj : Holds j context.members)
    (h : ∀ t, context.timestamp = some t → Timestamp.parse t.text.toList = .ok t) :
    Context.form.shape.decode j = .ok (Context.form.toData context) :=
  decode_of_holds (by decide +kernel) rfl hj
    ⟨decode_timestamp h, decode_textOrNull context.traceId, decode_textOrNull context.spanId,
      decode_textOrNull context.parentSpanId, trivial⟩

/-- A record is decoded from any value that presents it. -/
theorem decode_of_presents {j : Json} {record : Record} (hj : Presents j record)
    (h : ∀ t, record.context.timestamp = some t → Timestamp.parse t.text.toList = .ok t) :
    form.decode j = .ok record := by
  obtain ⟨attributes, context, ⟨entries, rfl, hentries⟩, hcontext, hj⟩ := hj
  exact Form.decode_eq_ok_iff.mpr (decode_of_holds (by decide +kernel) rfl hj
    ⟨decode_kind record.kind, rfl, decode_textOrNull record.body,
      decode_textOrNull record.metricName, decodeTextMap_of_perm hentries,
      decode_context hcontext h, trivial⟩)

theorem readsBack_textOrNull {shape : Shape} (h : ∀ j, shape.ReadsBack j) (s : Option String) :
    (Shape.optional shape).ReadsBack (textOrNull s) := by
  cases s with
  | none => exact .optional_null shape
  | some s => exact .optional_string (h (.string s))

theorem readsBack_context {j : Json} {context : Context} (hj : Holds j context.members) :
    Context.form.shape.ReadsBack j := by
  refine readsBack_of_holds (by decide +kernel) rfl hj ?_
  have htimestamp := readsBack_textOrNull .timestamp (context.timestamp.map Timestamp.text)
  have htext := readsBack_textOrNull .text
  simp [Context.members, Fields.ReadsBack, htimestamp, htext]

/-- A record is read from the text of any value that presents it. -/
theorem parse_of_presents {j : Json} {record : Record} (hj : Presents j record)
    (h : ∀ t, record.context.timestamp = some t → Timestamp.parse t.text.toList = .ok t) :
    form.parse j.render = .ok record := by
  refine Form.parse_render ?_ (decode_of_presents hj h)
  obtain ⟨attributes, context, -, hcontext, hj⟩ := hj
  refine readsBack_of_holds (by decide +kernel) rfl hj ?_
  have hkind := Shape.ReadsBack.choice (Kind.all.map Kind.name) record.kind.name
  have htext := readsBack_textOrNull .text
  have hname := Shape.ReadsBack.text (.string record.name)
  have hattributes := Shape.ReadsBack.textMap attributes
  have hcontext := readsBack_context hcontext
  simp [members, Fields.ReadsBack, Kind.form, hkind, htext, hname, hattributes, hcontext]

/-- A record is read back from its JSON form as it was, if its timestamp is read from the text that
is written for it, and also after members with other names were put into the form or into its
context. The same holds of any other value that presents the record, whatever the order of its
members; and it makes no difference whether the value or its text is read. -/
theorem record_read_back (record : Record)
    (h : ∀ t, record.context.timestamp = some t → Timestamp.parse t.text.toList = .ok t) :
    record.encodeWith [] [] = form.encode record ∧
      (∀ more moreContext, (∀ m ∈ more, m.1 ∉ memberNames) →
        (∀ m ∈ moreContext, m.1 ∉ Context.memberNames) →
          form.decode (record.encodeWith more moreContext) = .ok record ∧
            form.parse (record.encodeWith more moreContext).render = .ok record) ∧
      ∀ j, Presents j record → form.decode j = .ok record ∧ form.parse j.render = .ok record := by
  have hread (j : Json) (hj : Presents j record) :
      form.decode j = .ok record ∧ form.parse j.render = .ok record :=
    ⟨decode_of_presents hj h, parse_of_presents hj h⟩
  refine ⟨encodeWith_nil record, fun more moreContext hmore hmoreContext => ?_, hread⟩
  exact hread _ (presents_encodeWith record hmore hmoreContext)

/-- A log line with all that could be mistaken for absent: an empty name of a metric beside a body
that is absent, an empty text under an empty key, and an empty identifier. -/
def heartbeat : Record :=
  { kind := .log, metricName := some "", attributes := Attributes.empty.insert "" ""
    context := { timestamp := some ⟨2026, 1, 29, 0, 0, 0, 0⟩, spanId := some "" } }

theorem record_read_back_heartbeat :
    form.parse (form.encode heartbeat).render = .ok heartbeat ∧
      form.decode (heartbeat.encodeWith [("unit", .null)] [("sampled", .bool true)]) =
        .ok heartbeat := by
  have htimestamp (t : Timestamp) (ht : heartbeat.context.timestamp = some t) :
      Timestamp.parse t.text.toList = .ok t := by
    obtain rfl := Option.some.inj ht
    decide +kernel
  obtain ⟨hform, hmore, -⟩ := record_read_back heartbeat htimestamp
  rw [← hform]
  exact ⟨(hmore [] [] (by simp) (by simp)).2,
    (hmore _ _ (by decide +kernel) (by decide +kernel)).1⟩

end Record

end Telemetry
