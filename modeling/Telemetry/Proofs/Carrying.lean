import Telemetry.Proofs.Dropping

/-!
# What is carried through

Of a record, processors change the subject and the attributes only, and the subject is another field
for each kind: the name of a span, the body of a log. All else is carried through
(`Record.Carried`), by each step and so by a run of any length, whether it forwards the record or
drops it. Where no processor selects the record, nothing changes at all. Main statement:
`carried_process_of_build`.
-/

namespace Telemetry

/-! ## Records -/

/-- Between two records at most the attributes and the field that is the subject differ. -/
structure Record.Carried (before after : Record) : Prop where
  kind : after.kind = before.kind
  context : after.context = before.context
  name : before.kind ≠ .span → after.name = before.name
  body : before.kind ≠ .log → after.body = before.body
  metricName : before.kind ≠ .metric → after.metricName = before.metricName

namespace Record.Carried

theorem refl (record : Record) : record.Carried record where
  kind := rfl
  context := rfl
  name := fun _ => rfl
  body := fun _ => rfl
  metricName := fun _ => rfl

/-- The fields that are carried through depend on the kind alone, which is one of them. -/
theorem trans {before mid after : Record} (h : before.Carried mid) (h' : mid.Carried after) :
    before.Carried after where
  kind := h'.kind.trans h.kind
  context := h'.context.trans h.context
  name := by
    intro hkind
    have hmid : mid.kind ≠ .span := h.kind ▸ hkind
    rw [h'.name hmid, h.name hkind]
  body := by
    intro hkind
    have hmid : mid.kind ≠ .log := h.kind ▸ hkind
    rw [h'.body hmid, h.body hkind]
  metricName := by
    intro hkind
    have hmid : mid.kind ≠ .metric := h.kind ▸ hkind
    rw [h'.metricName hmid, h.metricName hkind]

theorem withAttributes (record : Record) (attributes : Attributes) :
    record.Carried { record with attributes } where
  kind := rfl
  context := rfl
  name := fun _ => rfl
  body := fun _ => rfl
  metricName := fun _ => rfl

/-- A new subject is written to the field of the kind, and to no other. -/
theorem withSubject (record : Record) (subject : String) :
    record.Carried (record.withSubject subject) where
  kind := kind_withSubject record subject
  context := context_withSubject record subject
  name := by
    intro hkind
    unfold Record.withSubject
    split
    · next hspan => exact absurd hspan hkind
    · rfl
    · rfl
  body := by
    intro hkind
    unfold Record.withSubject
    split
    · rfl
    · next hlog => exact absurd hlog hkind
    · rfl
  metricName := by
    intro hkind
    unfold Record.withSubject
    split
    · rfl
    · rfl
    · next hmetric => exact absurd hmetric hkind

end Record.Carried

/-! ## Processors -/

/-- A relabeling writes to the subject and the attributes only. -/
theorem Relabeler.carried_apply (relabeler : Relabeler) (record : Record) :
    record.Carried (relabeler.apply record) := by
  refine apply_invariant (fun r entries _ hr => ?_) (fun r subject hr => ?_)
    (Record.Carried.refl record)
  · exact hr.trans (.withAttributes r _)
  · exact hr.trans (.withSubject r subject)

namespace Processor

theorem Effect.carried_apply (effect : Effect) (record : Record) :
    record.Carried (effect.apply record) := by
  cases effect with
  | actions steps => exact .withAttributes record _
  | relabel relabeler => exact relabeler.carried_apply record
  | dropExcluded => exact .refl record

theorem carried_process (processor : Processor) (record : Record) :
    record.Carried (processor.process record).1 := by
  rw [record_process]
  split
  · exact processor.effect.carried_apply record
  · exact .refl record

/-- A record that a processor does not select comes out as it went in. -/
theorem process_eq_self_of_not_selects {processor : Processor} {record : Record}
    (h : processor.appliesTo record.kind = true → processor.selects record = false) :
    (processor.process record).1 = record := by
  rw [record_process, if_neg]
  rintro ⟨happlies, hselects⟩
  rw [h happlies] at hselects
  exact Bool.false_ne_true hselects

end Processor

/-! ## Pipelines -/

namespace Pipeline

theorem carried_run (context : Context) (index : Nat) (processors : List Processor)
    (record : Record) : record.Carried (run context index processors record).record := by
  have hstep : ∀ p ∈ processors, ∀ r : Record, record.Carried r →
      record.Carried (p.process r).1 := by
    intro p _ r hr
    exact hr.trans (p.carried_process r)
  exact run_invariant hstep (.refl record) context index

/-- A record that no processor selects stays the one that went in, so none of them sees another
one. -/
theorem run_eq_self_of_not_selects {processors : List Processor} {record : Record}
    (h : ∀ p ∈ processors, p.appliesTo record.kind = true → p.selects record = false)
    (context : Context) (index : Nat) :
    (run context index processors record).record = record := by
  have hstep : ∀ p ∈ processors, ∀ r : Record, r = record → (p.process r).1 = record := by
    rintro p hp r rfl
    exact Processor.process_eq_self_of_not_selects (h p hp)
  exact run_invariant hstep rfl context index

/-- What a pipeline leaves of a record, forwarded or dropped: its kind, its context and the fields
that are not its subject are as they were; a metric is as it was in all; and so is every record that
none of the processors for its kind selects. -/
theorem carried_process_of_build {serial : Nat} {config : Config} {pipeline : Pipeline}
    (h : (build serial config).result = .ok pipeline) (record : Record) :
    record.Carried (pipeline.process record).record ∧
      (record.kind = .metric → (pipeline.process record).record = record) ∧
      ((∀ p ∈ pipeline.processors, p.appliesTo record.kind = true → p.selects record = false) →
        (pipeline.process record).record = record) := by
  refine ⟨carried_run pipeline.context 0 pipeline.processors record, ?_, ?_⟩
  · intro hmetric
    exact (process_of_metric h hmetric).1
  · intro hselects
    exact run_eq_self_of_not_selects hselects pipeline.context 0

/-- Names calls after their operation, and puts the message of a log, if it has one, into its
body. -/
def operationNames : Config where
  processors := [
    { id := "span/operation", kind := .span
      included := some { matchKind := .strict, spanNames := ["call"] }
      name := some { fromAttributes := some ["operation"] } },
    { id := "log/message", kind := .log
      included := some { matchKind := .strict, attributes := [{ key := "message" }] }
      body := some { fromAttributes := some ["message"] } }]

/-- The span gets its name and keeps all else, the body that no span has a use for included; the log
without a message keeps its body absent. -/
theorem carried_process_of_build_operationNames :
    ∃ pipeline, (build 0 operationNames).result = .ok pipeline ∧
      let call : Record := { Record.span "call" with
        body := some "kept"
        attributes := Attributes.empty.insert "operation" "get"
        context := { traceId := some "4bf9" } }
      let silent : Record := { kind := .log }
      (pipeline.process call).record.name = "get" ∧
      call.Carried (pipeline.process call).record ∧
      (∀ p ∈ pipeline.processors, p.appliesTo silent.kind = true → p.selects silent = false) ∧
      (pipeline.process silent).record = silent := by
  let namer : Processor :=
    { id := "span/operation", kind := .span
      included := some ⟨some (.strict ["call"]), none, none, []⟩
      excluded := none
      effect := .relabel ⟨[], some ⟨["operation"], ""⟩⟩ }
  let messenger : Processor :=
    { id := "log/message", kind := .log
      included := some ⟨none, none, none, [⟨"message", .present⟩]⟩
      excluded := none
      effect := .relabel ⟨[], some ⟨["message"], ""⟩⟩ }
  let pipeline : Pipeline := ⟨.new 0 2, [namer, messenger]⟩
  have h : (build 0 operationNames).result = .ok pipeline := rfl
  refine ⟨pipeline, h, by decide, (carried_process_of_build h _).1, ?_, ?_⟩
  · decide
  · exact (carried_process_of_build h _).2.2 (by decide)

end Pipeline

end Telemetry
