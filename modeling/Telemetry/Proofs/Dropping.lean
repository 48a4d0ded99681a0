import Telemetry.Proofs.Building
import Telemetry.Proofs.Selecting

/-!
# What drops a record

Only metric filters drop records, and only metrics. The checks that a processor passes when it is
compiled leave a filter nothing to look at but names of metrics, and at least one of them, so it
drops what its configuration names and nothing else (`process_metric`). Main statement:
`disposition_of_build`.
-/

namespace Telemetry

open Config (Field MatchKind)

/-! ## Processors -/

/-- A metric filter excludes metrics of the name. -/
def Config.Processor.Filters (config : Config.Processor) (metric : String) : Prop :=
  config.kind = .metricFilter ∧
    ∃ selection ∈ config.excluded, selection.matchKind.Selects selection.metricNames metric

namespace Processor

variable {config : Config.Processor} {processor : Processor} {record : Record}

/-- What a metric filter has to exclude: names of metrics, and nothing besides. -/
theorem excluded_of_metricFilter (h : compile config = .ok processor)
    (hfilter : config.kind = .metricFilter) :
    ∃ selection names, config.excluded = some selection ∧
      processor.excluded = some ⟨none, none, some names, []⟩ ∧
      ∀ subject, names.isMatch subject = true ↔
        selection.matchKind.Selects selection.metricNames subject := by
  obtain ⟨-, hsections, -, hexcluded, -, hmatcher, -, -, -⟩ := compile_eq_ok_iff.mp h
  obtain ⟨selection, hselection⟩ := Option.isSome_iff_exists.mp
    (((checkSections_eq_ok_iff config).mp hsections).filter hfilter).2
  have hfits := (checkSelection_eq_ok_iff _ _ _).mp hexcluded selection hselection
  rw [hfilter] at hfits
  obtain ⟨hspan, hlog, hattributes, hmetric⟩ := hfits
  rw [hselection] at hmatcher
  obtain ⟨matcher, hmatcher, heq⟩ := Except.map_eq_ok_iff.mp hmatcher
  obtain ⟨hs, hl, hm, ha⟩ := Matcher.compile_eq_ok_iff.mp hmatcher
  rw [hspan, Matcher.Names.compile_nil, Except.ok.injEq] at hs
  rw [hlog, Matcher.Names.compile_nil, Except.ok.injEq] at hl
  rw [hattributes, Field.compileItems_nil, Except.ok.injEq] at ha
  obtain ⟨names, hnames, hiff⟩ := Matcher.Names.isMatch_iff hm hmetric
  refine ⟨selection, names, hselection, ?_, hiff⟩
  obtain ⟨spanNames, logBodies, metricNames, attributes⟩ := matcher
  simp only at hs hl ha hnames
  rw [← heq, ← hs, ← hl, ← ha, hnames]

/-- A processor leaves a metric as it is, and drops it if it is a filter that excludes its name. -/
theorem process_metric (h : compile config = .ok processor) (hkind : record.kind = .metric) :
    (processor.process record).1 = record ∧
      ((processor.process record).2 = .drop ↔ config.Filters (record.metricName.getD "")) := by
  have hsame : processor.kind = config.kind := (compile_eq_ok_iff.mp h).2.2.2.2.2.2.2.2
  have hfits := EffectFits.of_compile h
  rw [record_process, verdict_process_eq_drop_iff, appliesTo, hsame, hkind]
  by_cases hfilter : config.kind = .metricFilter
  · have heffect : processor.effect = .dropExcluded := by
      rw [EffectFits, hsame, hfilter] at hfits
      exact hfits
    obtain ⟨selection, names, hselection, hexcluded, hnames⟩ := excluded_of_metricFilter h hfilter
    have happlies : Config.ProcessorKind.metricFilter.appliesTo .metric = true := rfl
    have hmatch : (⟨none, none, some names, []⟩ : Matcher).isMatch record =
        names.isMatch (record.metricName.getD "") := by
      simp [Matcher.isMatch, Matcher.admits, Record.subject, hkind]
    simp [Config.Processor.Filters, hfilter, happlies, heffect, hexcluded, hselection, hmatch,
      hnames, Effect.apply]
  · have happlies : config.kind.appliesTo .metric = false := by
      cases hconfig : config.kind <;> simp_all [Config.ProcessorKind.appliesTo]
    simp [Config.Processor.Filters, hfilter, happlies]

end Processor

/-! ## Pipelines -/

namespace Pipeline

variable {configs : List Config.Processor} {processors : List Processor} {record : Record}

/-- The place of the first filter that excludes metrics of the name. -/
def FirstFilter (configs : List Config.Processor) (metric : String) (index : Nat) : Prop :=
  ∃ before config after, configs = before ++ config :: after ∧ before.length = index ∧
    config.Filters metric ∧ ∀ c ∈ before, ¬ c.Filters metric

theorem FirstFilter.exists_mem {metric : String} {index : Nat}
    (h : FirstFilter configs metric index) : ∃ c ∈ configs, c.Filters metric := by
  obtain ⟨before, c, after, rfl, -, hc, -⟩ := h
  exact ⟨c, List.mem_append_right before List.mem_cons_self, hc⟩

/-- Compiled processors leave a metric as it is; the first filter that excludes its name drops it,
and if there is none it is forwarded. -/
theorem run_metric (context : Context)
    (h : List.Forall₂ (fun c p => Processor.compile c = .ok p) configs processors)
    (hkind : record.kind = .metric) (index : Nat) :
    (run context index processors record).record = record ∧
      (((run context index processors record).disposition = .forward ∧
          ∀ c ∈ configs, ¬ c.Filters (record.metricName.getD "")) ∨
        ∃ i, (run context index processors record).disposition = .dropped (index + i) ∧
          FirstFilter configs (record.metricName.getD "") i) := by
  induction h generalizing index with
  | nil => exact ⟨rfl, .inl ⟨rfl, by simp⟩⟩
  | @cons c p configs processors hc _ ih =>
    obtain ⟨hsame, hdrop⟩ := Processor.process_metric hc hkind
    by_cases hfilters : c.Filters (record.metricName.getD "")
    · rw [run_cons_of_drop context index processors (hdrop.mpr hfilters)]
      exact ⟨hsame, .inr ⟨0, rfl, [], c, configs, rfl, rfl, hfilters, by simp⟩⟩
    · rw [run_cons_of_keep (Verdict.eq_keep_of_ne_drop (mt hdrop.mp hfilters)), hsame]
      obtain ⟨hrecord, hnone | ⟨i, hdisposition, before, d, after, rfl, rfl, hd, hbefore⟩⟩ :=
        ih (index + 1)
      · exact ⟨hrecord, .inl ⟨hnone.1, List.forall_mem_cons.mpr ⟨hfilters, hnone.2⟩⟩⟩
      · refine ⟨hrecord, .inr ⟨before.length + 1, ?_, c :: before, d, after, rfl, rfl, hd,
          List.forall_mem_cons.mpr ⟨hfilters, hbefore⟩⟩⟩
        rw [hdisposition, Nat.add_right_comm, Nat.add_assoc]

/-- A metric goes through a pipeline that was built as it is, and is dropped by the first filter
that excludes its name. -/
theorem process_of_metric {serial : Nat} {config : Config} {pipeline : Pipeline}
    (h : (build serial config).result = .ok pipeline) (hkind : record.kind = .metric) :
    (pipeline.process record).record = record ∧
      (((pipeline.process record).disposition = .forward ∧
          ∀ c ∈ config.processors, ¬ c.Filters (record.metricName.getD "")) ∨
        ∃ i, (pipeline.process record).disposition = .dropped i ∧
          FirstFilter config.processors (record.metricName.getD "") i) := by
  have hrun := run_metric pipeline.context (build_eq_ok_iff.mp h).2.1 hkind 0
  simp only [Nat.zero_add] at hrun
  exact hrun

/-- A record is forwarded if it is no metric, or if no filter excludes its name. -/
theorem process_eq_forward_iff {serial : Nat} {config : Config} {pipeline : Pipeline}
    (h : (build serial config).result = .ok pipeline) (record : Record) :
    (pipeline.process record).disposition = .forward ↔
      (record.kind = .metric →
        ∀ c ∈ config.processors, ¬ c.Filters (record.metricName.getD "")) := by
  by_cases hkind : record.kind = .metric
  · obtain ⟨-, ⟨hforward, hnone⟩ | ⟨i, hdropped, hfirst⟩⟩ := process_of_metric h hkind
    · exact ⟨fun _ _ => hnone, fun _ => hforward⟩
    · obtain ⟨c, hc, hfilters⟩ := hfirst.exists_mem
      refine ⟨fun hforward => ?_, fun hnone => absurd hfilters (hnone hkind c hc)⟩
      simp [hdropped] at hforward
  · exact ⟨fun _ h => absurd h hkind, fun _ => disposition_of_ne_metric h hkind⟩

/-- What drops a record, in every pipeline that can be built: spans and logs are forwarded; a metric
comes out as it went in, and is dropped, by the first filter that excludes its name, if there is
one. So the order of the processors does not matter to whether a record is dropped. -/
theorem disposition_of_build {serial : Nat} {config : Config} {pipeline : Pipeline}
    (h : (build serial config).result = .ok pipeline) :
    (∀ record, record.kind ≠ .metric → (pipeline.process record).disposition = .forward) ∧
      (∀ record, record.kind = .metric →
        (pipeline.process record).record = record ∧
          ((∃ i, (pipeline.process record).disposition = .dropped i) ↔
            ∃ c ∈ config.processors, c.Filters (record.metricName.getD "")) ∧
          ∀ i, (pipeline.process record).disposition = .dropped i →
            FirstFilter config.processors (record.metricName.getD "") i) ∧
      ∀ (serial' : Nat) (config' : Config), config'.processors.Perm config.processors →
        ∃ pipeline', (build serial' config').result = .ok pipeline' ∧
          ∀ record, (pipeline'.process record).disposition = .forward ↔
            (pipeline.process record).disposition = .forward := by
  refine ⟨fun record hkind => disposition_of_ne_metric h hkind, fun record hkind => ?_,
    fun serial' config' hperm => ?_⟩
  · obtain ⟨hsame, ⟨hforward, hnone⟩ | ⟨i, hdropped, hfirst⟩⟩ := process_of_metric h hkind
    · refine ⟨hsame, ⟨?_, ?_⟩, ?_⟩
      · rintro ⟨i, hi⟩
        simp [hforward] at hi
      · rintro ⟨c, hc, hfilters⟩
        exact absurd hfilters (hnone c hc)
      · intro i hi
        simp [hforward] at hi
    · refine ⟨hsame, ⟨fun _ => hfirst.exists_mem, fun _ => ⟨i, hdropped⟩⟩, fun j hj => ?_⟩
      obtain rfl : j = i := by simpa [hdropped] using hj.symm
      exact hfirst
  · obtain ⟨pipeline', h'⟩ := exists_build_of_perm h serial' hperm
    refine ⟨pipeline', h', fun record => ?_⟩
    rw [process_eq_forward_iff h, process_eq_forward_iff h']
    simp only [hperm.mem_iff]

/-- Filters for a metric by its name and for metrics by a pattern. -/
def debugFilters : Config where
  processors := [
    { id := "filter/exact", kind := .metricFilter
      excluded := some { matchKind := .strict, metricNames := ["queue.temp"] } },
    { id := "filter/debug", kind := .metricFilter
      excluded := some { matchKind := .regexp, metricNames := ["debug|debug\\..*"] } }]

/-- A metric that the first filter names is dropped as it was. -/
theorem disposition_of_build_debugFilters :
    ∃ pipeline, (build 0 debugFilters).result = .ok pipeline ∧
      (pipeline.process (.metric "queue.temp")).record = .metric "queue.temp" ∧
      ∃ i, (pipeline.process (.metric "queue.temp")).disposition = .dropped i := by
  have hok : (build 0 debugFilters).result.isOk = true := by decide +kernel
  obtain ⟨pipeline, h⟩ := Except.exists_of_isOk hok
  obtain ⟨-, hmetric, -⟩ := disposition_of_build h
  obtain ⟨hsame, hdropped, -⟩ := hmetric (.metric "queue.temp") rfl
  refine ⟨pipeline, h, hsame, hdropped.mpr ⟨_, .head _, rfl, _, rfl, ?_⟩⟩
  exact List.mem_singleton_self _

end Pipeline

end Telemetry
