import Telemetry.Proofs.Acceptance
import Telemetry.Proofs.Processing

/-!
# What a built pipeline is made of

A pipeline that was built holds the compiled processors of its document in order, each of which does
what its kind is for (`build_eq_ok_iff`, `EffectFits.of_compile`). What is proved of pipelines later
starts from here, not from the code that builds them.
-/

namespace Telemetry

/-! ## Processors -/

namespace Processor

/-- What a processor does belongs to its kind. -/
def EffectFits (processor : Processor) : Prop :=
  match processor.kind with
  | .attribute => ∃ actions, processor.effect = .actions actions
  | .log | .span => ∃ relabeler, processor.effect = .relabel relabeler
  | .metricFilter => processor.effect = .dropExcluded

theorem EffectFits.of_compile {config : Config.Processor} {processor : Processor}
    (h : compile config = .ok processor) : processor.EffectFits := by
  obtain ⟨-, -, -, -, -, -, heffect, -, hkind⟩ := compile_eq_ok_iff.mp h
  have hfits := compileEffect_eq_ok_iff.mp heffect
  rw [EffectFits, hkind]
  rcases hconfig : config.kind with _ | _ | _ | _ <;> rw [hconfig] at hfits
  · obtain ⟨_, steps, -, -, -, heq⟩ := hfits
    exact ⟨steps, heq⟩
  · obtain ⟨_, relabeler, -, -, heq⟩ := hfits
    exact ⟨relabeler, heq⟩
  · obtain ⟨_, relabeler, -, -, heq⟩ := hfits
    exact ⟨relabeler, heq⟩
  · exact hfits

theorem EffectFits.kind_of_dropExcluded {processor : Processor} (h : processor.EffectFits)
    (heffect : processor.effect = .dropExcluded) : processor.kind = .metricFilter := by
  unfold EffectFits at h
  split at h
  · obtain ⟨actions, hactions⟩ := h
    simp [heffect] at hactions
  · obtain ⟨relabeler, hrelabeler⟩ := h
    simp [heffect] at hrelabeler
  · obtain ⟨relabeler, hrelabeler⟩ := h
    simp [heffect] at hrelabeler
  · next hkind => exact hkind

/-- A processor keeps what is no metric. -/
theorem verdict_process_of_ne_metric {config : Config.Processor} {processor : Processor}
    (h : compile config = .ok processor) {record : Record} (hkind : record.kind ≠ .metric) :
    (processor.process record).2 = .keep := by
  refine Verdict.eq_keep_of_ne_drop fun hdrop => ?_
  obtain ⟨happlies, heffect, -⟩ := (verdict_process_eq_drop_iff processor record).mp hdrop
  rw [appliesTo, (EffectFits.of_compile h).kind_of_dropExcluded heffect] at happlies
  cases hrecord : record.kind with
  | metric => exact hkind hrecord
  | span => simp [hrecord, Config.ProcessorKind.appliesTo] at happlies
  | log => simp [hrecord, Config.ProcessorKind.appliesTo] at happlies

end Processor

/-! ## Pipelines -/

namespace Pipeline

theorem firstRepeated?_eq_none_iff {seen ids : List String} :
    firstRepeated? seen ids = none ↔ ids.Nodup ∧ ∀ id ∈ ids, id ∉ seen := by
  induction ids generalizing seen with
  | nil => simp [firstRepeated?]
  | cons id ids ih =>
    rw [firstRepeated?, List.nodup_cons, List.forall_mem_cons]
    by_cases hseen : id ∈ seen
    · simp [hseen]
    · simp only [List.contains_eq_mem, hseen, decide_false, Bool.false_eq_true, if_false, ih,
        List.mem_cons, not_or, not_false_eq_true, true_and]
      constructor
      · rintro ⟨hnodup, hnew⟩
        exact ⟨⟨fun hid => (hnew id hid).1 rfl, hnodup⟩, fun i hi => (hnew i hi).2⟩
      · rintro ⟨⟨hid, hnodup⟩, hnew⟩
        exact ⟨hnodup, fun i hi => ⟨fun heq => hid (heq ▸ hi), hnew i hi⟩⟩

theorem compileAll_eq_ok_iff (context : Context) {configs : List Config.Processor}
    {processors : List Processor} :
    (compileAll context configs).1 = .ok processors ↔
      List.Forall₂ (fun c p => Processor.compile c = .ok p) configs processors := by
  induction configs generalizing processors with
  | nil => simp [compileAll, eq_comm]
  | cons c configs ih =>
    rw [compileAll, List.forall₂_cons_left_iff]
    cases hc : Processor.compile c with
    | error e => simp
    | ok p =>
      simp only [Except.map_eq_ok_iff, ih, Except.ok.injEq]
      constructor
      · rintro ⟨ps, hps, rfl⟩
        exact ⟨p, ps, rfl, hps, rfl⟩
      · rintro ⟨_, ps, rfl, hps, rfl⟩
        exact ⟨ps, hps, rfl⟩

/-- The context of a pipeline is for its reports; what is compiled does not depend on it. -/
theorem compileDistinct_fst_congr (context context' : Context) (configs : List Config.Processor) :
    (compileDistinct context configs).1 = (compileDistinct context' configs).1 := by
  have hall : (compileAll context configs).1 = (compileAll context' configs).1 := by
    induction configs with
    | nil => rfl
    | cons c configs ih =>
      simp only [compileAll]
      cases Processor.compile c with
      | error e => rfl
      | ok p =>
        simp only
        rw [ih]
  unfold compileDistinct
  cases firstRepeated? [] (configs.map (·.id)) with
  | some id => rfl
  | none => exact hall

theorem result_build (serial : Nat) (config : Config) :
    (build serial config).result =
      (compileDistinct (.new serial config.processors.length) config.processors).1.map
        (⟨.new serial config.processors.length, ·⟩) := by
  rw [build]
  generalize compileDistinct (.new serial config.processors.length) config.processors = found
  obtain ⟨result, log⟩ := found
  cases result with
  | error e => rfl
  | ok ps => rfl

/-- A document makes the same processors, or fails alike, whatever serial number the pipeline
gets. -/
theorem processors_build_congr (serial serial' : Nat) (config : Config) :
    (build serial config).result.map (·.processors) =
      (build serial' config).result.map (·.processors) := by
  rw [result_build, result_build,
    compileDistinct_fst_congr (.new serial _) (.new serial' config.processors.length)]
  cases (compileDistinct (.new serial' config.processors.length) config.processors).1 with
  | error e => simp only [Except.map]
  | ok ps => simp only [Except.map]

theorem processors_ofSource_congr (serial serial' : Nat) (source : Config.Source) :
    (ofSource serial source).result.map (·.processors) =
      (ofSource serial' source).result.map (·.processors) := by
  unfold ofSource
  cases source.read with
  | error e => rfl
  | ok config => exact processors_build_congr serial serial' config

/-- A pipeline is built if no two processors have one id and all of them compile; it holds what they
compile to. -/
theorem build_eq_ok_iff {serial : Nat} {config : Config} {pipeline : Pipeline} :
    (build serial config).result = .ok pipeline ↔
      (config.processors.map (·.id)).Nodup ∧
        List.Forall₂ (fun c p => Processor.compile c = .ok p) config.processors
          pipeline.processors ∧
        pipeline.context = .new serial config.processors.length := by
  have hdistinct (context : Context) (processors : List Processor) :
      (compileDistinct context config.processors).1 = .ok processors ↔
        (config.processors.map (·.id)).Nodup ∧
          List.Forall₂ (fun c p => Processor.compile c = .ok p) config.processors processors := by
    have hrepeated : firstRepeated? [] (config.processors.map (·.id)) = none ↔
        (config.processors.map (·.id)).Nodup := by
      simp [firstRepeated?_eq_none_iff]
    rw [compileDistinct, ← hrepeated, ← compileAll_eq_ok_iff context]
    cases firstRepeated? [] (config.processors.map (·.id)) <;> simp
  obtain ⟨context, processors⟩ := pipeline
  have h := hdistinct (.new serial config.processors.length) processors
  rw [← and_assoc, ← h, result_build, Except.map_eq_ok_iff]
  constructor
  · rintro ⟨ps, hps, heq⟩
    obtain ⟨rfl, rfl⟩ := Pipeline.mk.inj heq
    exact ⟨hps, rfl⟩
  · rintro ⟨hps, rfl⟩
    exact ⟨processors, hps, rfl⟩

/-- A document makes a pipeline if no two processors have one id and each of them compiles. -/
theorem exists_build_iff {serial : Nat} {config : Config} :
    (∃ pipeline, (build serial config).result = .ok pipeline) ↔
      (config.processors.map (·.id)).Nodup ∧
        ∀ c ∈ config.processors, ∃ p, Processor.compile c = .ok p := by
  constructor
  · rintro ⟨pipeline, h⟩
    obtain ⟨hnodup, hcompiled, -⟩ := build_eq_ok_iff.mp h
    refine ⟨hnodup, fun c hc => ?_⟩
    obtain ⟨p, -, hp⟩ := hcompiled.exists_of_mem_left hc
    exact ⟨p, hp⟩
  · rintro ⟨hnodup, hall⟩
    obtain ⟨processors, hprocessors⟩ := List.Forall₂.exists_of_forall_exists hall
    exact ⟨⟨_, processors⟩, build_eq_ok_iff.mpr ⟨hnodup, hprocessors, rfl⟩⟩

/-- The processors of a pipeline that was built were compiled. -/
theorem exists_compile_of_build {serial : Nat} {config : Config} {pipeline : Pipeline}
    (h : (build serial config).result = .ok pipeline) :
    ∀ p ∈ pipeline.processors, ∃ c ∈ config.processors, Processor.compile c = .ok p :=
  fun _ hp => (build_eq_ok_iff.mp h).2.1.exists_of_mem_right hp

/-- Compiled processors forward what is no metric, whatever they make of it. -/
theorem run_of_ne_metric {processors : List Processor}
    (h : ∀ p ∈ processors, ∃ c, Processor.compile c = .ok p) (context : Context) (index : Nat)
    {record : Record} (hkind : record.kind ≠ .metric) :
    (run context index processors record).disposition = .forward := by
  induction processors generalizing record index with
  | nil => rfl
  | cons p processors ih =>
    obtain ⟨⟨c, hc⟩, hrest⟩ := List.forall_mem_cons.mp h
    rw [run_cons_of_keep (Processor.verdict_process_of_ne_metric hc hkind)]
    exact ih hrest (index + 1) (by simpa using hkind)

/-- What is no metric comes to each processor of a pipeline as those before leave it, and goes on to
those behind. -/
theorem process_eq_run_of_split {serial : Nat} {config : Config} {pipeline : Pipeline}
    (h : (build serial config).result = .ok pipeline) {record : Record}
    (hkind : record.kind ≠ .metric) {before after : List Processor} {processor : Processor}
    (hsplit : pipeline.processors = before ++ processor :: after) :
    pipeline.process record =
      run pipeline.context (before.length + 1) after
        (processor.process (run pipeline.context 0 before record).record).1 := by
  have hcompiled : ∀ p ∈ before ++ processor :: after, ∃ c, Processor.compile c = .ok p := by
    intro p hp
    obtain ⟨c, -, hc⟩ := exists_compile_of_build h p (hsplit ▸ hp)
    exact ⟨c, hc⟩
  have hforward : (run pipeline.context 0 before record).disposition = .forward :=
    run_of_ne_metric (fun p hp => hcompiled p (List.mem_append_left _ hp)) _ _ hkind
  have hkeep : (processor.process (run pipeline.context 0 before record).record).2 = .keep := by
    obtain ⟨c, hc⟩ := hcompiled processor (List.mem_append_right _ List.mem_cons_self)
    exact Processor.verdict_process_of_ne_metric hc (by rwa [kind_run])
  rw [process, hsplit, run_append_of_forward _ _ _ hforward, run_cons_of_keep hkeep, Nat.zero_add]

/-- A pipeline that was built drops metrics only. -/
theorem disposition_of_ne_metric {serial : Nat} {config : Config} {pipeline : Pipeline}
    (h : (build serial config).result = .ok pipeline) {record : Record}
    (hkind : record.kind ≠ .metric) : (pipeline.process record).disposition = .forward := by
  refine run_of_ne_metric (fun p hp => ?_) pipeline.context 0 hkind
  obtain ⟨c, -, hc⟩ := exists_compile_of_build h p hp
  exact ⟨c, hc⟩

/-- Processors that make a pipeline make one in any order. -/
theorem exists_build_of_perm {serial : Nat} {config config' : Config} {pipeline : Pipeline}
    (h : (build serial config).result = .ok pipeline) (serial' : Nat)
    (hperm : config'.processors.Perm config.processors) :
    ∃ pipeline', (build serial' config').result = .ok pipeline' := by
  obtain ⟨hnodup, hall⟩ := exists_build_iff.mp ⟨pipeline, h⟩
  exact exists_build_iff.mpr
    ⟨(hperm.map _).nodup_iff.mpr hnodup, fun c hc => hall c (hperm.mem_iff.mp hc)⟩

end Pipeline

end Telemetry
