import Telemetry.Proofs.Processing

/-!
# What processing looks at

Processors see the kind of a record, its subject and its attributes. Two records that agree in these
(`Record.Alike`) are selected alike, rewritten alike and dropped alike, and agree in them again
behind every step; what else they hold, a body that is absent in one and empty in the other
included, never comes in. Main statement: `process_alike`.
-/

namespace Telemetry

/-- Two records have the same kind, the same subject and the same attributes. -/
structure Record.Alike (a b : Record) : Prop where
  kind : a.kind = b.kind
  subject : a.subject = b.subject
  attributes : a.attributes = b.attributes

namespace Record.Alike

variable {a b : Record}

/-- The subject does not depend on the attributes. -/
theorem withAttributes (h : a.Alike b) (attributes : Attributes) :
    { a with attributes }.Alike { b with attributes } where
  kind := h.kind
  subject := h.subject
  attributes := rfl

/-- A new subject takes the place of whatever stood in the field of the kind. -/
theorem withSubject (h : a.Alike b) (subject : String) :
    (a.withSubject subject).Alike (b.withSubject subject) where
  kind := by rw [kind_withSubject, kind_withSubject, h.kind]
  subject := by rw [subject_withSubject, subject_withSubject]
  attributes := by rw [attributes_withSubject, attributes_withSubject, h.attributes]

end Record.Alike

variable {a b : Record}

/-! ## Selection -/

namespace Matcher

theorem admits_congr (h : a.Alike b) (names : Option Names) (kind : Record.Kind) :
    admits names kind a = admits names kind b := by
  unfold admits
  rw [h.kind, h.subject]

theorem isMatch_congr (h : a.Alike b) (matcher : Matcher) :
    matcher.isMatch a = matcher.isMatch b := by
  unfold isMatch
  rw [admits_congr h, admits_congr h, admits_congr h, h.attributes]

theorem selects_congr (h : a.Alike b) (included excluded : Option Matcher) :
    selects included excluded a = selects included excluded b := by
  unfold selects
  simp only [isMatch_congr h]

end Matcher

/-! ## Steps -/

namespace Relabeler

/-- The first rule that occurs, what it captures and the subject that it makes are told by the
subject. -/
theorem applyRules_alike (h : a.Alike b) (rules : List Pattern) :
    (applyRules rules a).Alike (applyRules rules b) := by
  unfold applyRules
  rw [h.subject]
  split
  · next extracted subject _ =>
    have hattributes := h.withAttributes (a.attributes.insertMany extracted)
    rw [← h.attributes]
    exact hattributes.withSubject subject
  · exact h

theorem apply_alike (h : a.Alike b) (relabeler : Relabeler) :
    (relabeler.apply a).Alike (relabeler.apply b) := by
  have hrules := applyRules_alike h relabeler.rules
  unfold apply
  cases relabeler.join with
  | none => exact hrules
  | some join =>
    simp only
    rw [← hrules.attributes]
    exact hrules.withSubject _

end Relabeler

namespace Processor

theorem Effect.apply_alike (h : a.Alike b) (effect : Effect) :
    (effect.apply a).Alike (effect.apply b) := by
  cases effect with
  | actions steps =>
    simp only [apply]
    rw [← h.attributes]
    exact h.withAttributes _
  | relabel relabeler => exact relabeler.apply_alike h
  | dropExcluded => exact h

/-- A processor comes to the same verdict on records that are alike, and leaves them alike. -/
theorem process_congr (h : a.Alike b) (processor : Processor) :
    (processor.process a).2 = (processor.process b).2 ∧
      (processor.process a).1.Alike (processor.process b).1 := by
  have hselects : processor.selects a = processor.selects b := Matcher.selects_congr h _ _
  have hdrop : (processor.process a).2 = .drop ↔ (processor.process b).2 = .drop := by
    simp only [verdict_process_eq_drop_iff, h.kind, Matcher.isMatch_congr h]
  constructor
  · cases hverdict : (processor.process b).2 with
    | drop => exact hdrop.mpr hverdict
    | keep =>
      refine Verdict.eq_keep_of_ne_drop fun ha => ?_
      rw [hdrop.mp ha] at hverdict
      cases hverdict
  · rw [record_process, record_process, h.kind, hselects]
    split
    · exact processor.effect.apply_alike h
    · exact h

end Processor

/-! ## Pipelines -/

namespace Pipeline

theorem run_alike (h : a.Alike b) (context : Context) (index : Nat) (processors : List Processor) :
    (run context index processors a).disposition = (run context index processors b).disposition ∧
      (run context index processors a).log = (run context index processors b).log ∧
      (run context index processors a).record.Alike (run context index processors b).record := by
  induction processors generalizing a b index with
  | nil => exact ⟨rfl, rfl, h⟩
  | cons p processors ih =>
    obtain ⟨hverdict, hnext⟩ := p.process_congr h
    by_cases hdrop : (p.process a).2 = .drop
    · have hdrop' : (p.process b).2 = .drop := hverdict ▸ hdrop
      rw [run_cons_of_drop context index processors hdrop,
        run_cons_of_drop context index processors hdrop', hnext.kind]
      exact ⟨rfl, rfl, hnext⟩
    · have hkeep : (p.process a).2 = .keep := Verdict.eq_keep_of_ne_drop hdrop
      have hkeep' : (p.process b).2 = .keep := hverdict ▸ hkeep
      rw [run_cons_of_keep hkeep, run_cons_of_keep hkeep']
      exact ih hnext (index + 1)

/-- A pipeline does the same with records that are alike: it forwards both, or one processor drops
both, and it reports the same; and it leaves records that are alike. -/
theorem process_alike (pipeline : Pipeline) (h : a.Alike b) :
    (pipeline.process a).disposition = (pipeline.process b).disposition ∧
      (pipeline.process a).log = (pipeline.process b).log ∧
      (pipeline.process a).record.Alike (pipeline.process b).record :=
  run_alike h pipeline.context 0 pipeline.processors

/-- Makes the bodies of logs anew and marks the logs whose body is empty then. -/
def emptyBodies : Config where
  processors := [
    { id := "log/message", kind := .log
      body := some { fromAttributes := some ["message"] } },
    { id := "attributes/empty", kind := .attribute
      included := some { matchKind := .strict, logBodies := [""] }
      actions := some [{ kind := .insert, key := "empty", value := some "yes" }] }]

/-- A log without a body and one with an empty body, a name and a trace are marked both. -/
theorem process_alike_emptyBodies :
    ∃ pipeline, (build 0 emptyBodies).result = .ok pipeline ∧
      let bare : Record := { kind := .log }
      let traced : Record :=
        { kind := .log, name := "job", body := some "", context := { traceId := some "4bf9" } }
      bare ≠ traced ∧ bare.Alike traced ∧
        (pipeline.process bare).record.attributes.get? "empty" = some "yes" ∧
        (pipeline.process bare).disposition = (pipeline.process traced).disposition ∧
        (pipeline.process bare).log = (pipeline.process traced).log ∧
        (pipeline.process bare).record.Alike (pipeline.process traced).record := by
  let messenger : Processor :=
    { id := "log/message", kind := .log, included := none, excluded := none
      effect := .relabel ⟨[], some ⟨["message"], ""⟩⟩ }
  let marker : Processor :=
    { id := "attributes/empty", kind := .attribute
      included := some ⟨none, some (.strict [""]), none, []⟩
      excluded := none
      effect := .actions [.insert "empty" (.literal "yes")] }
  let pipeline : Pipeline := ⟨.new 0 2, [messenger, marker]⟩
  have h : (build 0 emptyBodies).result = .ok pipeline := rfl
  refine ⟨pipeline, h, ?_⟩
  intro bare traced
  have halike : bare.Alike traced := ⟨rfl, rfl, rfl⟩
  exact ⟨by decide, halike, by decide, process_alike pipeline halike⟩

end Pipeline

end Telemetry
