import Mathlib.Data.List.TakeWhile
import Telemetry.Pipeline.Handle
import Telemetry.Proofs.Batching
import Telemetry.Proofs.Composing

/-!
# What is reported

The log tells what was done, line by line: which processors were compiled before an attempt to make
a pipeline came to its end and how it ended (`written_log_build`), which processor dropped a record
(`written_log_process`), what came of a batch (`written_log_processBatch`), and which pipeline took
the place of which (`log_reload`). A record leaves one line of level `debug` if it is dropped, and
none if it is forwarded. The words in which the compiler of patterns tells of a fault are left open.
Main statement: `log_tells_run`.
-/

namespace Telemetry

/-! ## Counted actions -/

/-- The number of actions that a processor is configured with. -/
def Config.Processor.actionCount (config : Config.Processor) : Nat := (config.actions.getD []).length

/-- A compiled processor has as many actions as it is configured with; only attribute processors may
be configured with any. -/
theorem Processor.actionCount_of_compile {config : Config.Processor} {processor : Processor}
    (h : Processor.compile config = .ok processor) : processor.actionCount = config.actionCount := by
  obtain ⟨-, hsections, -, -, -, -, heffect, -, -⟩ := compile_eq_ok_iff.mp h
  have hactions := ((checkSections_eq_ok_iff config).mp hsections).actions
  have hfits := compileEffect_eq_ok_iff.mp heffect
  have hnone (hkind : config.kind ≠ .attribute) : config.actionCount = 0 := by
    have habsent : config.actions = none := by
      cases hsome : config.actions with
      | none => rfl
      | some actions => exact absurd (hactions (by rw [hsome]; rfl)) hkind
    rw [Config.Processor.actionCount, habsent]
    rfl
  rcases hkind : config.kind with _ | _ | _ | _ <;> rw [hkind] at hfits hnone
  · obtain ⟨actions, steps, hsome, -, hsteps, heq⟩ := hfits
    rw [actionCount, heq, Config.Processor.actionCount, hsome]
    exact Config.Field.length_of_compileItems hsteps
  · obtain ⟨_, _, -, -, heq⟩ := hfits
    rw [actionCount, heq, hnone (by decide)]
  · obtain ⟨_, _, -, -, heq⟩ := hfits
    rw [actionCount, heq, hnone (by decide)]
  · rw [actionCount, hfits, hnone (by decide)]

namespace Pipeline

/-! ## Lines -/

/-- A line of a log, with its level. -/
abbrev Line := Level × String

/-- The line that an entry is written as. -/
def Entry.written (wording : Pattern.Wording) (entry : Entry) : Line :=
  (entry.level, entry.line wording)

/-- A text about a pipeline, behind its label. -/
def Context.labelled (context : Context) (text : String) : String := context.label ++ " " ++ text

/-- A text about a processor of a pipeline, behind the labels of both. -/
def Context.scoped (context : Context) (processor text : String) : String :=
  context.scope processor ++ " " ++ text

/-! ## Building -/

/-- The processors that are compiled in an attempt to make a pipeline: those before the first that
does not compile, and none if two have the same id. -/
def compiledFirst (configs : List Config.Processor) : List Config.Processor :=
  if (configs.map (·.id)).Nodup then configs.takeWhile (fun c => (Processor.compile c).isOk) else []

/-- The first line of an attempt to make a pipeline. -/
def startLine (context : Context) (configs : List Config.Processor) : Line :=
  (.info, context.labelled ("PIPELINE_BUILD_START processors=" ++ toString configs.length))

/-- The line for a processor that has been compiled, by its configuration. -/
def compiledLine (context : Context) (config : Config.Processor) : Line :=
  (.debug, context.scoped config.id
    ("PROCESSOR_COMPILED type=" ++ config.kind.name ++ " actions=" ++ toString config.actionCount))

/-- The last line of an attempt to make a pipeline, by what it gives. -/
def endLine (wording : Pattern.Wording) (context : Context) (configs : List Config.Processor) :
    Except Config.Error Pipeline → Line
  | .ok _ =>
    (.info, context.labelled ("PIPELINE_BUILT processors=" ++ toString configs.length ++ " ids=" ++
      Text.quotedList (configs.map (·.id))))
  | .error e => (.warn, context.labelled ("PIPELINE_BUILD_FAILED error=" ++ e.message wording))

section Written

variable (wording : Pattern.Wording)

theorem written_compiledEntry {config : Config.Processor} {processor : Processor}
    (h : Processor.compile config = .ok processor) (context : Context) :
    (compiledEntry context processor).written wording = compiledLine context config := by
  obtain ⟨-, -, -, -, -, -, -, hid, hkind⟩ := Processor.compile_eq_ok_iff.mp h
  rw [compiledLine, ← hid, ← hkind, ← Processor.actionCount_of_compile h]
  rfl

/-- The processors that are compiled one after another are reported up to the first that fails. -/
theorem written_log_compileAll (context : Context) (configs : List Config.Processor) :
    (compileAll context configs).2.map (Entry.written wording) =
      (configs.takeWhile (fun c => (Processor.compile c).isOk)).map (compiledLine context) := by
  induction configs with
  | nil => rfl
  | cons config configs ih =>
    rw [compileAll, List.takeWhile_cons]
    cases hcompile : Processor.compile config with
    | error e => rfl
    | ok processor =>
      simp only [List.map_cons, written_compiledEntry wording hcompile, ih]
      rfl

theorem written_log_compileDistinct (context : Context) (configs : List Config.Processor) :
    (compileDistinct context configs).2.map (Entry.written wording) =
      (compiledFirst configs).map (compiledLine context) := by
  have hrepeated := @firstRepeated?_eq_none_iff [] (configs.map (·.id))
  rw [compileDistinct, compiledFirst]
  cases hfound : firstRepeated? [] (configs.map (·.id)) with
  | some id =>
    have hrepeats : ¬ (configs.map (·.id)).Nodup := by simpa [hfound] using hrepeated
    rw [if_neg hrepeats]
    rfl
  | none =>
    rw [if_pos (hrepeated.mp hfound).1]
    exact written_log_compileAll wording context configs

/-- The last entry of an attempt to make a pipeline. -/
def endEntry (context : Context) : Except Config.Error Pipeline → Entry
  | .ok pipeline => ⟨context, .built pipeline.processorIds⟩
  | .error e => ⟨context, .buildFailed e⟩

theorem written_endEntry (context : Context) {configs : List Config.Processor}
    {result : Except Config.Error Pipeline}
    (hids : ∀ pipeline, result = .ok pipeline → pipeline.processorIds = configs.map (·.id)) :
    (endEntry context result).written wording = endLine wording context configs result := by
  cases result with
  | error e => rfl
  | ok pipeline =>
    rw [endEntry, hids pipeline rfl, endLine, ← List.length_map (·.id)]
    rfl

/-- Between its first and its last entry, an attempt to make a pipeline reports what was compiled. -/
theorem log_build (serial : Nat) (config : Config) :
    let context := Context.new serial config.processors.length
    (build serial config).log =
      ⟨context, .buildStarted config.processors.length⟩ ::
        ((compileDistinct context config.processors).2 ++
          [endEntry context (build serial config).result]) := by
  intro context
  rw [build]
  generalize compileDistinct (.new serial config.processors.length) config.processors = found
  obtain ⟨result, log⟩ := found
  cases result with
  | error e => rfl
  | ok processors => rfl

/-- The lines of an attempt to make a pipeline. -/
theorem written_log_build (serial : Nat) (config : Config) :
    let context := Context.new serial config.processors.length
    (build serial config).log.map (Entry.written wording) =
      startLine context config.processors ::
        ((compiledFirst config.processors).map (compiledLine context) ++
          [endLine wording context config.processors (build serial config).result]) := by
  intro context
  have hids (pipeline : Pipeline) (h : (build serial config).result = .ok pipeline) :
      pipeline.processorIds = config.processors.map (·.id) := (MadeOf.of_build h).ids
  have hstart : (⟨context, .buildStarted config.processors.length⟩ : Entry).written wording =
      startLine context config.processors := rfl
  rw [log_build, List.map_cons, List.map_append, List.map_singleton, written_log_compileDistinct,
    written_endEntry wording context hids, hstart]

/-- All processors are compiled exactly if a pipeline is made. -/
theorem compiledFirst_eq_self_iff {serial : Nat} {config : Config} :
    compiledFirst config.processors = config.processors ↔
      ∃ pipeline, (build serial config).result = .ok pipeline := by
  rw [exists_build_iff, compiledFirst]
  by_cases hnodup : (config.processors.map (·.id)).Nodup
  · rw [if_pos hnodup, List.takeWhile_eq_self_iff]
    simp only [hnodup, true_and, Except.isOk_iff]
  · have hne : config.processors ≠ [] := by
      intro hnil
      exact hnodup (by rw [hnil]; exact .nil)
    rw [if_neg hnodup]
    exact iff_of_false hne.symm fun h => hnodup h.1

/-! ## Processing -/

/-- The line for a record of a kind that a processor drops. -/
def droppedLine (context : Context) (processor : Processor) (kind : Record.Kind) : Line :=
  (.debug, context.scoped processor.id ("RECORD_DROPPED kind=" ++ kind.name))

/-- A record that is forwarded leaves nothing in the log; one that is dropped leaves one line, about
the processor that drops it. -/
theorem written_log_run (context : Context) (index : Nat) (processors : List Processor)
    (record : Record) :
    let outcome := run context index processors record
    match outcome.disposition with
    | .forward => outcome.log = []
    | .dropped i => ∃ j processor, i = index + j ∧ processors[j]? = some processor ∧
        outcome.log.map (Entry.written wording) = [droppedLine context processor record.kind] := by
  induction processors generalizing index record with
  | nil => rfl
  | cons p processors ih =>
    by_cases hdrop : (p.process record).2 = .drop
    · rw [run_cons_of_drop context index processors hdrop]
      refine ⟨0, p, rfl, rfl, ?_⟩
      rw [Processor.kind_process]
      rfl
    · rw [run_cons_of_keep (Verdict.eq_keep_of_ne_drop hdrop)]
      have hrest := ih (index + 1) (p.process record).1
      rw [Processor.kind_process] at hrest
      generalize run context (index + 1) processors (p.process record).1 = outcome at hrest
      obtain ⟨left, disposition, log⟩ := outcome
      cases disposition with
      | forward => exact hrest
      | dropped i =>
        obtain ⟨j, processor, rfl, hprocessor, hlog⟩ := hrest
        exact ⟨j + 1, processor, by omega, hprocessor, hlog⟩

/-- The log of a record that goes through a pipeline. -/
theorem written_log_process (pipeline : Pipeline) (record : Record) :
    let outcome := pipeline.process record
    match outcome.disposition with
    | .forward => outcome.log = []
    | .dropped i => ∃ processor, pipeline.processors[i]? = some processor ∧
        outcome.log.map (Entry.written wording) =
          [droppedLine pipeline.context processor record.kind] := by
  intro outcome
  have hrun : match outcome.disposition with
      | .forward => outcome.log = []
      | .dropped i => ∃ j processor, i = 0 + j ∧ pipeline.processors[j]? = some processor ∧
          outcome.log.map (Entry.written wording) =
            [droppedLine pipeline.context processor record.kind] :=
    written_log_run wording pipeline.context 0 pipeline.processors record
  generalize outcome = outcome at hrun
  obtain ⟨left, disposition, log⟩ := outcome
  cases disposition with
  | forward => exact hrun
  | dropped i =>
    obtain ⟨j, processor, rfl, hprocessor, hlog⟩ := hrun
    rw [Nat.zero_add]
    exact ⟨processor, hprocessor, hlog⟩

theorem log_eq_nil_of_forwards {pipeline : Pipeline} {record : Record}
    (h : pipeline.forwards record = true) : (pipeline.process record).log = [] := by
  have hlog := written_log_process .brief pipeline record
  simp only [of_decide_eq_true h] at hlog
  exact hlog

/-- The last line of a batch, with what it returns. -/
def batchLine (context : Context) (batch : BatchOutcome) : Line :=
  (.info, context.labelled ("BATCH_COMPLETE received=" ++ toString batch.received ++
    " forwarded=" ++ toString batch.forwarded ++ " dropped=" ++ toString batch.dropped))

/-- The log of a batch holds that of each record that is dropped, in order, and one line more. -/
theorem written_log_processBatch (pipeline : Pipeline) (records : List Record) :
    (pipeline.processBatch records).log.map (Entry.written wording) =
      (records.filter (fun record => !pipeline.forwards record)).flatMap
          (fun record => (pipeline.process record).log.map (Entry.written wording)) ++
        [batchLine pipeline.context (pipeline.processBatch records)] := by
  have hlogs : ((records.map pipeline.process).flatMap (·.log)).map (Entry.written wording) =
      (records.filter (fun record => !pipeline.forwards record)).flatMap
        (fun record => (pipeline.process record).log.map (Entry.written wording)) := by
    induction records with
    | nil => rfl
    | cons record records ih =>
      rw [List.map_cons, List.flatMap_cons, List.map_append, ih]
      by_cases hforwards : pipeline.forwards record = true
      · rw [log_eq_nil_of_forwards hforwards, List.filter_cons_of_neg (by simp [hforwards])]
        rfl
      · rw [List.filter_cons_of_pos (by simp [hforwards]), List.flatMap_cons]
  have hend : (⟨pipeline.context, .batchCompleted records.length
        (pipeline.processBatch records).forwarded (pipeline.processBatch records).dropped⟩ :
          Entry).written wording =
      batchLine pipeline.context (pipeline.processBatch records) := rfl
  rw [← hlogs, ← hend, ← List.map_singleton, ← List.map_append]
  rfl

/-! ## Reloading -/

/-- The line for a pipeline that takes the place of another one. -/
def swapLine (old new : Pipeline) : Line :=
  (.info, old.context.labelled
    ("PIPELINE_SWAPPED old=" ++ old.context.pipelineId ++ " new=" ++ new.context.pipelineId))

/-- A reload of what is no document leaves nothing in the log; otherwise the log is that of the
attempt to make a pipeline, with one line more if a pipeline is made and published. -/
theorem log_reload (handle : Handle) (serial : Nat) (text : String) :
    let (_, result, log) := handle.reload serial text
    match (Config.Source.text text).read with
    | .error e => result = .error e ∧ log = []
    | .ok config =>
      match (build serial config).result with
      | .error e => result = .error e ∧ log = (build serial config).log
      | .ok next =>
        result = .ok (handle.swap next).1.load ∧
          log.map (Entry.written wording) =
            (build serial config).log.map (Entry.written wording) ++
              [swapLine handle.load.pipeline next] := by
  unfold Handle.reload ofSource
  cases (Config.Source.text text).read with
  | error e => exact ⟨rfl, rfl⟩
  | ok config =>
    simp only
    generalize build serial config = attempt
    obtain ⟨result, log⟩ := attempt
    cases result with
    | error e => exact ⟨rfl, rfl⟩
    | ok next => exact ⟨rfl, List.map_append⟩

end Written

/-! ## All that is reported -/

/-- The log tells the run. An attempt to make a pipeline of a document leaves one line for its
start, one for each processor before the first that does not compile, which are all of them exactly
if a pipeline is made, and one for its end, with the ids or with the error. A record leaves one line
if it is dropped, about the processor that drops it, and no line otherwise; a batch leaves those of
its records and one line more, with its counts. A reload leaves nothing where the text is no
document, what the attempt leaves where that fails, and otherwise one line more, with the pipeline
that was active before and the new one. All this holds whatever words the faults of patterns are
told in. -/
theorem log_tells_run (wording : Pattern.Wording) (serial : Nat) :
    (∀ config,
      let context := Context.new serial config.processors.length
      let attempt := build serial config
      attempt.log.map (Entry.written wording) =
          startLine context config.processors ::
            ((compiledFirst config.processors).map (compiledLine context) ++
              [endLine wording context config.processors attempt.result]) ∧
        (compiledFirst config.processors = config.processors ↔
          ∃ pipeline, attempt.result = .ok pipeline)) ∧
      (∀ (pipeline : Pipeline) record,
        let outcome := pipeline.process record
        match outcome.disposition with
        | .forward => outcome.log = []
        | .dropped i => ∃ processor, pipeline.processors[i]? = some processor ∧
            outcome.log.map (Entry.written wording) =
              [droppedLine pipeline.context processor record.kind]) ∧
      (∀ (pipeline : Pipeline) records,
        let batch := pipeline.processBatch records
        batch.log.map (Entry.written wording) =
          (records.filter (fun record => !pipeline.forwards record)).flatMap
              (fun record => (pipeline.process record).log.map (Entry.written wording)) ++
            [batchLine pipeline.context batch]) ∧
      ∀ (handle : Handle) text,
        let (_, result, log) := handle.reload serial text
        match (Config.Source.text text).read with
        | .error e => result = .error e ∧ log = []
        | .ok config =>
          match (build serial config).result with
          | .error e => result = .error e ∧ log = (build serial config).log
          | .ok next =>
            result = .ok (handle.swap next).1.load ∧
              log.map (Entry.written wording) =
                (build serial config).log.map (Entry.written wording) ++
                  [swapLine handle.load.pipeline next] :=
  ⟨fun config => ⟨written_log_build wording serial config, compiledFirst_eq_self_iff⟩,
    written_log_process wording, written_log_processBatch wording,
    fun handle text => log_reload wording handle serial text⟩

end Pipeline

end Telemetry
