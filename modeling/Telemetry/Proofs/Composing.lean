import Telemetry.Proofs.Building

/-!
# Pipelines one behind the other

A list of processors in two parts makes a pipeline exactly if its parts make pipelines and share no
id. Where it does, a record goes through the pipeline of the first part and, unless that drops it,
on through the pipeline of the second part, whose processors are counted on from the first ones.
Main statement: `build_append`.
-/

namespace Telemetry.Pipeline

/-! ## What a built pipeline holds -/

/-- A pipeline has one processor for each configured one, in order and under its id, and no two with
the same id; its context says how many. -/
structure MadeOf (pipeline : Pipeline) (configs : List Config.Processor) : Prop where
  compiled : List.Forall₂ (fun c p => Processor.compile c = .ok p) configs pipeline.processors
  ids : pipeline.processorIds = configs.map (·.id)
  distinct : pipeline.processorIds.Nodup
  count : pipeline.context.processorCount = pipeline.processors.length

theorem ids_of_forall₂_compile {configs : List Config.Processor} {processors : List Processor}
    (h : List.Forall₂ (fun c p => Processor.compile c = .ok p) configs processors) :
    processors.map (·.id) = configs.map (·.id) := by
  induction h with
  | nil => rfl
  | cons hc _ ih =>
    obtain ⟨-, -, -, -, -, -, -, hid, -⟩ := Processor.compile_eq_ok_iff.mp hc
    rw [List.map_cons, List.map_cons, hid, ih]

theorem MadeOf.of_build {serial : Nat} {config : Config} {pipeline : Pipeline}
    (h : (build serial config).result = .ok pipeline) : pipeline.MadeOf config.processors := by
  obtain ⟨hnodup, hcompiled, hcontext⟩ := build_eq_ok_iff.mp h
  have hids : pipeline.processorIds = config.processors.map (·.id) :=
    ids_of_forall₂_compile hcompiled
  refine ⟨hcompiled, hids, hids ▸ hnodup, ?_⟩
  rw [hcontext]
  exact hcompiled.length_eq

/-! ## Runs behind other processors -/

/-- What becomes of a record, where `count` processors stand before those that decide it. -/
def Disposition.behind (count : Nat) : Disposition → Disposition
  | .forward => .forward
  | .dropped index => .dropped (count + index)

/-- The outcome of a run, where `count` processors stand before those of the run. -/
def Outcome.behind (count : Nat) (outcome : Outcome) : Outcome :=
  { outcome with disposition := outcome.disposition.behind count }

theorem Outcome.behind_zero (outcome : Outcome) : outcome.behind 0 = outcome := by
  obtain ⟨record, disposition, log⟩ := outcome
  cases disposition with
  | forward => rfl
  | dropped index => simp only [behind, Disposition.behind, Nat.zero_add]

/-- The outcome of a run, as another pipeline reports it. -/
def Outcome.reportedBy (context : Context) (outcome : Outcome) : Outcome :=
  { outcome with log := outcome.log.map (fun entry => ⟨context, entry.event⟩) }

/-- The context of a run shows in its reports only, and the number of processors before it shows in
the index of the processor that drops. -/
theorem run_behind (context context' : Context) (count index : Nat) (processors : List Processor)
    (record : Record) :
    run context (count + index) processors record =
      ((run context' index processors record).behind count).reportedBy context := by
  induction processors generalizing index record with
  | nil => rfl
  | cons p processors ih =>
    by_cases hdrop : (p.process record).2 = .drop
    · rw [run_cons_of_drop context _ processors hdrop, run_cons_of_drop context' _ processors hdrop]
      rfl
    · have hkeep := Verdict.eq_keep_of_ne_drop hdrop
      rw [run_cons_of_keep hkeep, run_cons_of_keep hkeep, Nat.add_assoc, ih]

/-- The same processors in the same places differ by the context of their reports at most. -/
theorem run_reportedBy (context context' : Context) (index : Nat) (processors : List Processor)
    (record : Record) :
    run context index processors record =
      (run context' index processors record).reportedBy context := by
  have hrun := run_behind context context' 0 index processors record
  rwa [Outcome.behind_zero, Nat.zero_add] at hrun

/-- A record that the first processors drop does not come to those behind them. -/
theorem run_append_of_dropped (context : Context) (index : Nat) {before : List Processor}
    (after : List Processor) {record : Record} {dropping : Nat}
    (h : (run context index before record).disposition = .dropped dropping) :
    run context index (before ++ after) record = run context index before record := by
  induction before generalizing index record with
  | nil => cases h
  | cons p before ih =>
    by_cases hdrop : (p.process record).2 = .drop
    · rw [List.cons_append, run_cons_of_drop _ _ _ hdrop, run_cons_of_drop _ _ _ hdrop]
    · have hkeep := Verdict.eq_keep_of_ne_drop hdrop
      rw [run_cons_of_keep hkeep] at h
      rw [List.cons_append, run_cons_of_keep hkeep, run_cons_of_keep hkeep, ih (index + 1) h]

/-- What a pipeline of two parts makes of a record, by what pipelines of its parts make of it. -/
theorem process_append {both first second : Pipeline}
    (h : both.processors = first.processors ++ second.processors) (record : Record) :
    both.process record =
      match (first.process record).disposition with
      | .dropped _ => (first.process record).reportedBy both.context
      | .forward =>
        ((second.process (first.process record).record).behind first.processors.length).reportedBy
          both.context := by
  have hfirst : run both.context 0 first.processors record =
      (first.process record).reportedBy both.context :=
    run_reportedBy both.context first.context 0 first.processors record
  rw [process, h]
  cases hdisposition : (first.process record).disposition with
  | dropped index =>
    have hdropped : (run both.context 0 first.processors record).disposition = .dropped index :=
      hfirst ▸ hdisposition
    rw [run_append_of_dropped _ _ _ hdropped, hfirst]
  | forward =>
    have hforward : (run both.context 0 first.processors record).disposition = .forward :=
      hfirst ▸ hdisposition
    rw [run_append_of_forward _ _ _ hforward, Nat.zero_add, hfirst]
    exact run_behind both.context second.context first.processors.length 0 second.processors _

/-! ## Building in parts -/

/-- The pipeline of two lists of processors: there is one exactly if both lists make pipelines and
have no id in common, and then a record that the first pipeline drops is dropped by the same
processor, and one that it forwards is treated as by the second, whose processors stand behind those
of the first. Every pipeline holds the processors of its document, each once and in order. -/
theorem build_append (serial serial₁ serial₂ : Nat) (xs ys : List Config.Processor) :
    ((∃ both, (build serial ⟨xs ++ ys⟩).result = .ok both) ↔
        (∃ first, (build serial₁ ⟨xs⟩).result = .ok first) ∧
          (∃ second, (build serial₂ ⟨ys⟩).result = .ok second) ∧
          ∀ id, id ∈ xs.map (·.id) → id ∉ ys.map (·.id)) ∧
      (∀ both first second, (build serial ⟨xs ++ ys⟩).result = .ok both →
        (build serial₁ ⟨xs⟩).result = .ok first → (build serial₂ ⟨ys⟩).result = .ok second →
          ∀ record, both.process record =
            match (first.process record).disposition with
            | .dropped _ => (first.process record).reportedBy both.context
            | .forward =>
              ((second.process (first.process record).record).behind xs.length).reportedBy
                both.context) ∧
      ∀ anySerial config pipeline, (build anySerial config).result = .ok pipeline →
        pipeline.MadeOf config.processors := by
  refine ⟨?_, ?_, fun _ _ _ h => .of_build h⟩
  · simp only [exists_build_iff, List.map_append, List.nodup_append, List.forall_mem_append]
    constructor
    · rintro ⟨⟨hxs, hys, hdisjoint⟩, hcx, hcy⟩
      exact ⟨⟨hxs, hcx⟩, ⟨hys, hcy⟩, fun id hx hy => hdisjoint id hx id hy rfl⟩
    · rintro ⟨⟨hxs, hcx⟩, ⟨hys, hcy⟩, hdisjoint⟩
      exact ⟨⟨hxs, hys, fun x hx y hy heq => hdisjoint x hx (heq ▸ hy)⟩, hcx, hcy⟩
  · intro both first second hboth hfirst hsecond record
    have hboth := (MadeOf.of_build hboth).compiled
    have hfirst := (MadeOf.of_build hfirst).compiled
    have hsecond := (MadeOf.of_build hsecond).compiled
    have hparts : both.processors = first.processors ++ second.processors :=
      List.right_unique_forall₂' (fun _ _ _ h₁ h₂ => Except.ok.inj (h₁.symm.trans h₂)) hboth
        (List.rel_append hfirst hsecond)
    rw [process_append hparts, hfirst.length_eq]

/-- A filter for one metric. -/
def filterOf (metric : String) : Config.Processor where
  id := "filter/" ++ metric
  kind := .metricFilter
  excluded := some { matchKind := .strict, metricNames := [metric] }

/-- Two filters behind each other: the first one lets through what the second one drops. -/
theorem build_append_twoFilters :
    ∃ both first second,
      (build 2 ⟨[filterOf "noise"] ++ [filterOf "debug"]⟩).result = .ok both ∧
      (build 0 ⟨[filterOf "noise"]⟩).result = .ok first ∧
      (build 1 ⟨[filterOf "debug"]⟩).result = .ok second ∧
      both.process (.metric "debug") =
        (match (first.process (.metric "debug")).disposition with
        | .dropped _ => (first.process (.metric "debug")).reportedBy both.context
        | .forward =>
          ((second.process (first.process (.metric "debug")).record).behind 1).reportedBy
            both.context) ∧
      both.MadeOf ([filterOf "noise"] ++ [filterOf "debug"]) := by
  obtain ⟨first, hfirst⟩ := Except.exists_of_isOk
    (x := (build 0 ⟨[filterOf "noise"]⟩).result) (by decide +kernel)
  obtain ⟨second, hsecond⟩ := Except.exists_of_isOk
    (x := (build 1 ⟨[filterOf "debug"]⟩).result) (by decide +kernel)
  obtain ⟨hbuilds, hprocess, hmade⟩ :=
    build_append 2 0 1 [filterOf "noise"] [filterOf "debug"]
  obtain ⟨both, hboth⟩ := hbuilds.mpr ⟨⟨first, hfirst⟩, ⟨second, hsecond⟩, by decide⟩
  exact ⟨both, first, second, hboth, hfirst, hsecond,
    hprocess both first second hboth hfirst hsecond _, hmade 2 _ both hboth⟩

end Telemetry.Pipeline
