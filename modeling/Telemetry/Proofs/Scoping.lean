import Telemetry.Proofs.Composing

/-!
# The processors for a kind

A record is seen by the processors for its kind only. To the others it might as well not come: a
pipeline of which just the processors for that kind are kept makes the same of it, and the same
processor drops it, if one does (`run_filter_appliesTo`). So processors that have no kind in common
do not notice in which order they stand. Main statement: `restricted_process_of_build`.
-/

namespace Telemetry

/-- A processor lets records of other kinds through as they are. -/
theorem Processor.process_of_not_appliesTo {processor : Processor} {record : Record}
    (h : processor.appliesTo record.kind = false) : processor.process record = (record, .keep) := by
  unfold process
  rw [h]
  rfl

namespace Pipeline

/-! ## Runs of some of the processors -/

/-- A run behind one more processor. -/
theorem run_one (context : Context) (processors : List Processor) (record : Record) :
    run context 1 processors record = (run context 0 processors record).behind 1 := by
  have hrun := run_behind context context 1 0 processors record
  have hself := run_reportedBy context context 0 processors record
  calc run context 1 processors record
      = ((run context 0 processors record).behind 1).reportedBy context := hrun
    _ = ((run context 0 processors record).reportedBy context).behind 1 := rfl
    _ = (run context 0 processors record).behind 1 := by rw [← hself]

/-- What becomes of a record, where only the processors for a kind are counted. -/
def Disposition.among (kind : Record.Kind) (processors : List Processor) : Disposition → Disposition
  | .forward => .forward
  | .dropped index => .dropped ((processors.take index).countP (·.appliesTo kind))

/-- One more processor in front is counted if it is for the kind. -/
theorem Disposition.among_behind_one (kind : Record.Kind) (p : Processor)
    (processors : List Processor) (disposition : Disposition) :
    (disposition.behind 1).among kind (p :: processors) =
      if p.appliesTo kind = true then (disposition.among kind processors).behind 1
      else disposition.among kind processors := by
  cases disposition with
  | forward => simp [behind, among]
  | dropped index =>
    rw [behind, among, Nat.add_comm, List.take_succ_cons, List.countP_cons]
    split
    · rw [among, behind, Nat.add_comm]
    · rfl

/-- A run of the processors for the kind of a record ends as the run of all processors does: with
the same record and the same report, dropped by the same processor if it is dropped. -/
theorem run_filter_appliesTo (context : Context) (processors : List Processor) {kind : Record.Kind}
    {record : Record} (hkind : record.kind = kind) :
    run context 0 (processors.filter (·.appliesTo kind)) record =
      { run context 0 processors record with
        disposition :=
          (run context 0 processors record).disposition.among kind processors } := by
  induction processors generalizing record with
  | nil => rfl
  | cons p processors ih =>
    by_cases happlies : p.appliesTo kind = true
    · rw [List.filter_cons, if_pos happlies]
      by_cases hdrop : (p.process record).2 = .drop
      · rw [run_cons_of_drop context 0 _ hdrop, run_cons_of_drop context 0 _ hdrop]
        rfl
      · have hkeep := Verdict.eq_keep_of_ne_drop hdrop
        have hnext : (p.process record).1.kind = kind := by rw [Processor.kind_process, hkind]
        rw [run_cons_of_keep hkeep, run_cons_of_keep hkeep, Nat.zero_add, run_one, run_one,
          ih hnext]
        simp only [Outcome.behind, Disposition.among_behind_one, if_pos happlies]
    · have hother : p.appliesTo kind = false := Bool.eq_false_iff.mpr happlies
      have hprocess := Processor.process_of_not_appliesTo (hkind ▸ hother)
      rw [List.filter_cons, if_neg happlies, run_cons_of_keep (by rw [hprocess]), hprocess,
        Nat.zero_add, run_one, ih hkind]
      simp only [Outcome.behind, Disposition.among_behind_one, if_neg happlies]

/-- A record is dropped by one of the processors, which is for its kind. -/
theorem exists_of_run_dropped {context : Context} {processors : List Processor} {record : Record}
    {index : Nat} (h : (run context 0 processors record).disposition = .dropped index) :
    ∃ before p after, processors = before ++ p :: after ∧ before.length = index ∧
      p.appliesTo record.kind = true := by
  induction processors generalizing record index with
  | nil => cases h
  | cons p processors ih =>
    by_cases hdrop : (p.process record).2 = .drop
    · rw [run_cons_of_drop context 0 _ hdrop] at h
      obtain rfl := Disposition.dropped.inj h
      exact ⟨[], p, processors, rfl, rfl,
        ((Processor.verdict_process_eq_drop_iff p record).mp hdrop).1⟩
    · rw [run_cons_of_keep (Verdict.eq_keep_of_ne_drop hdrop), Nat.zero_add, run_one] at h
      simp only [Outcome.behind] at h
      cases hdisposition :
          (run context 0 processors (p.process record).1).disposition with
      | forward => simp [hdisposition, Disposition.behind] at h
      | dropped later =>
        simp only [hdisposition, Disposition.behind, Disposition.dropped.injEq] at h
        obtain ⟨before, q, after, rfl, rfl, hq⟩ := ih hdisposition
        refine ⟨p :: before, q, after, rfl, ?_, ?_⟩
        · rw [List.length_cons, ← h, Nat.add_comm]
        · rwa [Processor.kind_process] at hq

/-! ## Restricted pipelines -/

/-- The pipeline of which only the processors for a kind of records are kept. -/
def restrictedTo (pipeline : Pipeline) (kind : Record.Kind) : Pipeline :=
  { pipeline with processors := pipeline.processors.filter (·.appliesTo kind) }

/-- The processor that drops a record, if one does. -/
def dropper? (pipeline : Pipeline) (record : Record) : Option Processor :=
  match (pipeline.process record).disposition with
  | .forward => none
  | .dropped index => pipeline.processors[index]?

/-- Two pipelines treat a record alike: they leave the same record, and both forward it or the same
processor drops it in both. -/
structure Agree (pipeline pipeline' : Pipeline) (record : Record) : Prop where
  leaves : (pipeline'.process record).record = (pipeline.process record).record
  forward : (pipeline'.process record).disposition = .forward ↔
    (pipeline.process record).disposition = .forward
  dropper : pipeline'.dropper? record = pipeline.dropper? record

namespace Agree

variable {first second third : Pipeline} {record : Record}

theorem symm (h : first.Agree second record) : second.Agree first record where
  leaves := h.leaves.symm
  forward := h.forward.symm
  dropper := h.dropper.symm

theorem trans (h : first.Agree second record) (h' : second.Agree third record) :
    first.Agree third record where
  leaves := h'.leaves.trans h.leaves
  forward := h'.forward.trans h.forward
  dropper := h'.dropper.trans h.dropper

end Agree

/-- The context of a pipeline shows in its reports only. -/
theorem agree_of_processors_eq {pipeline pipeline' : Pipeline}
    (h : pipeline'.processors = pipeline.processors) (record : Record) :
    pipeline.Agree pipeline' record := by
  have hprocess : pipeline'.process record =
      (pipeline.process record).reportedBy pipeline'.context := by
    rw [process, h]
    exact run_reportedBy pipeline'.context pipeline.context 0 pipeline.processors record
  refine ⟨by rw [hprocess]; rfl, by rw [hprocess]; rfl, ?_⟩
  rw [dropper?, dropper?, hprocess, h]
  rfl

/-- A pipeline that is restricted to the kind of a record treats it as the whole pipeline does. -/
theorem agree_restrictedTo (pipeline : Pipeline) (record : Record) :
    pipeline.Agree (pipeline.restrictedTo record.kind) record := by
  have hprocess : (pipeline.restrictedTo record.kind).process record =
      { pipeline.process record with
        disposition :=
          (pipeline.process record).disposition.among record.kind pipeline.processors } :=
    run_filter_appliesTo pipeline.context pipeline.processors rfl
  cases hdisposition : (pipeline.process record).disposition with
  | forward =>
    rw [hdisposition] at hprocess
    refine ⟨by rw [hprocess], by rw [hprocess, hdisposition]; rfl, ?_⟩
    rw [dropper?, dropper?, hprocess, hdisposition]
    rfl
  | dropped index =>
    rw [hdisposition] at hprocess
    refine ⟨by rw [hprocess], by rw [hprocess, hdisposition]; simp [Disposition.among], ?_⟩
    obtain ⟨before, p, after, hsplit, rfl, happlies⟩ := exists_of_run_dropped hdisposition
    rw [dropper?, dropper?, hprocess, hdisposition]
    simp only [Disposition.among, restrictedTo, hsplit, List.take_left, List.filter_append,
      List.filter_cons, if_pos happlies, List.countP_eq_length_filter]
    rw [List.getElem?_append_right (Nat.le_refl _), List.getElem?_append_right (Nat.le_refl _),
      Nat.sub_self, Nat.sub_self, List.getElem?_cons_zero, List.getElem?_cons_zero]

/-! ## Exchanged processors -/

/-- A pipeline restricted to a kind is made of what the processors for that kind compile to. -/
theorem forall₂_compile_filter {configs : List Config.Processor} {processors : List Processor}
    (h : List.Forall₂ (fun c p => Processor.compile c = .ok p) configs processors)
    (kind : Record.Kind) :
    List.Forall₂ (fun c p => Processor.compile c = .ok p)
      (configs.filter (·.kind.appliesTo kind)) (processors.filter (·.appliesTo kind)) := by
  induction h with
  | nil => exact .nil
  | @cons c p configs processors hc _ ih =>
    obtain ⟨-, -, -, -, -, -, -, -, hkind⟩ := Processor.compile_eq_ok_iff.mp hc
    rw [List.filter_cons, List.filter_cons, Processor.appliesTo, hkind]
    split
    · exact .cons hc ih
    · exact ih

/-- Pipelines treat the records of a kind alike if their documents have the same processors for that
kind in the same order. -/
theorem agree_of_filter_eq {serial serial' : Nat} {config config' : Config}
    {pipeline pipeline' : Pipeline} (h : (build serial config).result = .ok pipeline)
    (h' : (build serial' config').result = .ok pipeline') {record : Record}
    (hsame : config'.processors.filter (·.kind.appliesTo record.kind) =
      config.processors.filter (·.kind.appliesTo record.kind)) :
    pipeline.Agree pipeline' record := by
  have hfilter := forall₂_compile_filter (build_eq_ok_iff.mp h).2.1 record.kind
  have hfilter' := forall₂_compile_filter (build_eq_ok_iff.mp h').2.1 record.kind
  rw [hsame] at hfilter'
  have hprocessors : (pipeline'.restrictedTo record.kind).processors =
      (pipeline.restrictedTo record.kind).processors :=
    List.right_unique_forall₂' (fun _ _ _ h₁ h₂ => Except.ok.inj (h₁.symm.trans h₂)) hfilter'
      hfilter
  have hrestricted := agree_of_processors_eq hprocessors record
  exact (pipeline.agree_restrictedTo record).trans
    (hrestricted.trans (pipeline'.agree_restrictedTo record).symm)

/-- Two processors without a common kind may be exchanged: for each kind the list of the processors
for it stays the same. -/
theorem filter_appliesTo_exchanged {c d : Config.Processor} {kind : Record.Kind}
    (h : ¬ (c.kind.appliesTo kind = true ∧ d.kind.appliesTo kind = true))
    (before after : List Config.Processor) :
    (before ++ d :: c :: after).filter (·.kind.appliesTo kind) =
      (before ++ c :: d :: after).filter (·.kind.appliesTo kind) := by
  by_cases hc : c.kind.appliesTo kind = true
  · have hd : ¬ d.kind.appliesTo kind = true := fun hd => h ⟨hc, hd⟩
    simp only [List.filter_append, List.filter_cons, if_pos hc, if_neg hd]
  · simp only [List.filter_append, List.filter_cons, if_neg hc]

/-- A record sees the processors for its kind only: of a pipeline that was built, restricted to
them, it comes out as it does of the whole, and the same processor drops it if one does. So two
neighbouring processors that have no kind in common may be exchanged: that makes a pipeline again,
and it treats every record as before. -/
theorem restricted_process_of_build {serial : Nat} {config : Config} {pipeline : Pipeline}
    (h : (build serial config).result = .ok pipeline) :
    (∀ record, pipeline.Agree (pipeline.restrictedTo record.kind) record) ∧
      ∀ before c d after, config.processors = before ++ c :: d :: after →
        (∀ kind, ¬ (c.kind.appliesTo kind = true ∧ d.kind.appliesTo kind = true)) →
        ∀ serial', ∃ exchanged, (build serial' ⟨before ++ d :: c :: after⟩).result = .ok exchanged ∧
          ∀ record, pipeline.Agree exchanged record := by
  refine ⟨pipeline.agree_restrictedTo, fun before c d after hsplit hkinds serial' => ?_⟩
  have hperm : (before ++ d :: c :: after).Perm config.processors := by
    rw [hsplit]
    exact (List.Perm.swap c d after).append_left before
  obtain ⟨exchanged, hexchanged⟩ := exists_build_of_perm h serial' hperm
  refine ⟨exchanged, hexchanged, fun record => agree_of_filter_eq h hexchanged ?_⟩
  rw [hsplit]
  exact filter_appliesTo_exchanged (hkinds record.kind) before after

/-- Marks spans and logs. -/
def marker : Config.Processor where
  id := "attributes/mark"
  kind := .attribute
  actions := some [{ kind := .insert, key := "mark", value := some "yes" }]

/-- A filter and a marker look at different kinds, so the metric that the filter names is dropped by
it in either order, and without the marker as well. -/
theorem restricted_process_of_build_marker :
    ∃ pipeline exchanged, (build 0 ⟨[filterOf "noise", marker]⟩).result = .ok pipeline ∧
      (build 1 ⟨[marker, filterOf "noise"]⟩).result = .ok exchanged ∧
      pipeline.Agree (pipeline.restrictedTo .metric) (.metric "noise") ∧
      pipeline.Agree exchanged (.metric "noise") := by
  obtain ⟨pipeline, h⟩ := Except.exists_of_isOk
    (x := (build 0 ⟨[filterOf "noise", marker]⟩).result) (by decide +kernel)
  obtain ⟨hrestricted, hexchange⟩ := restricted_process_of_build h
  obtain ⟨exchanged, hexchanged, hagree⟩ :=
    hexchange [] (filterOf "noise") marker [] rfl (fun kind => by cases kind <;> decide) 1
  exact ⟨pipeline, exchanged, h, hexchanged, hrestricted (.metric "noise"),
    hagree (.metric "noise")⟩

end Pipeline

end Telemetry
