import Telemetry.Pipeline.Basic

/-!
# What one processor does

The record and the verdict that a processor gives, each said by itself: a record changes only if the
processor looks at its kind and selects it (`record_process`), and is dropped only by a filter that
excludes it (`verdict_process_eq_drop_iff`). No processor changes the kind of a record. What each
step preserves is preserved by a relabeling (`Relabeler.apply_invariant`) and by a run
(`Pipeline.run_invariant`).
-/

namespace Telemetry

/-- What becomes of a record is one of two things. -/
theorem Verdict.eq_keep_of_ne_drop {verdict : Verdict} (h : verdict ≠ .drop) :
    verdict = .keep := by
  cases verdict with
  | keep => rfl
  | drop => exact absurd rfl h

namespace Relabeler

/-- What a rule moves to attributes, it puts under the names of its groups. -/
theorem fst_mem_groupNames_of_applyRule {rule : Pattern} {text subject : String}
    {extracted : List (String × String)} (h : applyRule rule text = some (extracted, subject))
    {e : String × String} (he : e ∈ extracted) : e.1 ∈ rule.groupNames := by
  obtain ⟨m, -, heq⟩ := Option.map_eq_some_iff.mp h
  obtain ⟨rfl, -⟩ := Prod.mk.inj heq
  obtain ⟨_, hspan, rfl⟩ := List.mem_map.mp he
  obtain ⟨g, hg, hspan⟩ := List.mem_filterMap.mp hspan
  obtain ⟨span, -, rfl⟩ := Option.map_eq_some_iff.mp hspan
  exact List.mem_map_of_mem hg

/-- A relabeler puts attributes under the names of the groups of its rules, and gives a record new
subjects. What both preserve, the relabeler preserves. -/
theorem apply_invariant {P : Record → Prop} {relabeler : Relabeler}
    (hcapture : ∀ record entries,
      (∀ e ∈ entries, ∃ rule ∈ relabeler.rules, e.1 ∈ rule.groupNames) → P record →
        P { record with attributes := record.attributes.insertMany entries })
    (hsubject : ∀ record subject, P record → P (record.withSubject subject)) {record : Record}
    (h : P record) : P (relabeler.apply record) := by
  have hrules : P (applyRules relabeler.rules record) := by
    unfold applyRules
    split
    · next extracted subject hfound =>
      obtain ⟨rule, hrule, happly⟩ := List.exists_of_findSome?_eq_some hfound
      refine hsubject _ subject (hcapture record extracted (fun e he => ?_) h)
      exact ⟨rule, hrule, fst_mem_groupNames_of_applyRule happly he⟩
    · exact h
  unfold apply
  cases relabeler.join with
  | none => exact hrules
  | some join => exact hsubject _ _ hrules

@[simp] theorem kind_apply (relabeler : Relabeler) (record : Record) :
    (relabeler.apply record).kind = record.kind := by
  have hsubject : ∀ (r : Record) (subject : String), r.kind = record.kind →
      (r.withSubject subject).kind = record.kind := by
    intro r subject hr
    rw [Record.kind_withSubject, hr]
  exact apply_invariant (fun _ _ _ hr => hr) hsubject rfl

end Relabeler

/-- A record after an action. -/
def Action.alter (action : Action) (record : Record) : Record :=
  { record with attributes := action.apply record.attributes }

namespace Processor

/-- A record is selected if what is included holds of it and what is excluded does not. -/
theorem selects_iff (processor : Processor) (record : Record) :
    processor.selects record = true ↔
      (∀ matcher ∈ processor.included, matcher.isMatch record = true) ∧
        ∀ matcher ∈ processor.excluded, matcher.isMatch record = false := by
  simp only [selects, Matcher.selects, Bool.and_eq_true, Bool.not_eq_true', Option.all_eq_true,
    Option.any_eq_false, Option.mem_def]

/-- What a processor does to the records that it changes. -/
def Effect.apply (effect : Effect) (record : Record) : Record :=
  match effect with
  | .actions steps => { record with attributes := Action.applyAll steps record.attributes }
  | .relabel r => r.apply record
  | .dropExcluded => record

/-- Actions alter a record one after another. -/
theorem Effect.apply_actions (steps : List Action) (record : Record) :
    Effect.apply (.actions steps) record =
      steps.foldl (fun record step => step.alter record) record := by
  induction steps generalizing record with
  | nil => rfl
  | cons step steps ih => exact ih (step.alter record)

@[simp] theorem Effect.kind_apply (effect : Effect) (record : Record) :
    (effect.apply record).kind = record.kind := by
  cases effect <;> simp [apply]

/-- A record is changed if the processor looks at its kind and selects it, and is left as it is
otherwise. -/
theorem record_process (processor : Processor) (record : Record) :
    (processor.process record).1 =
      if processor.appliesTo record.kind = true ∧ processor.selects record = true then
        processor.effect.apply record
      else record := by
  unfold process
  by_cases hkind : processor.appliesTo record.kind = true
  · by_cases hselects : processor.selects record = true
    · cases heffect : processor.effect <;> simp [hkind, hselects, Effect.apply]
    · cases heffect : processor.effect <;> simp [hkind, hselects]
  · simp [hkind]

/-- Only filters drop records, of a kind that they look at and that they exclude. -/
theorem verdict_process_eq_drop_iff (processor : Processor) (record : Record) :
    (processor.process record).2 = .drop ↔
      processor.appliesTo record.kind = true ∧ processor.effect = .dropExcluded ∧
        processor.excluded.any (·.isMatch record) = true := by
  unfold process
  by_cases hkind : processor.appliesTo record.kind = true
  · by_cases hselects : processor.selects record = true
    · cases heffect : processor.effect <;> simp [hkind, hselects]
    · cases heffect : processor.effect <;> simp [hkind, hselects]
  · simp [hkind]

@[simp] theorem kind_process (processor : Processor) (record : Record) :
    (processor.process record).1.kind = record.kind := by
  rw [record_process]
  split
  · simp
  · rfl

end Processor

namespace Pipeline

/-- A record that a processor keeps goes on to the next ones. -/
theorem run_cons_of_keep {context : Context} {index : Nat} {processor : Processor}
    {rest : List Processor} {record : Record} (h : (processor.process record).2 = .keep) :
    run context index (processor :: rest) record =
      run context (index + 1) rest (processor.process record).1 := by
  rw [run]
  split
  · next heq => simp [heq] at h
  · next heq => rw [heq]

/-- A record that a processor drops comes out as it was then, and the drop is reported. -/
theorem run_cons_of_drop (context : Context) (index : Nat) {processor : Processor}
    (rest : List Processor) {record : Record} (h : (processor.process record).2 = .drop) :
    run context index (processor :: rest) record =
      ⟨(processor.process record).1, .dropped index,
        [⟨context, .recordDropped processor.id (processor.process record).1.kind⟩]⟩ := by
  rw [run]
  split
  · next heq => rw [heq]
  · next heq => simp [heq] at h

/-- What the first processors forward goes to the ones behind them. -/
theorem run_append_of_forward (context : Context) (index : Nat) {before : List Processor}
    (after : List Processor) {record : Record}
    (h : (run context index before record).disposition = .forward) :
    run context index (before ++ after) record =
      run context (index + before.length) after (run context index before record).record := by
  induction before generalizing index record with
  | nil => rfl
  | cons p before ih =>
    have hkeep : (p.process record).2 = .keep := by
      refine Verdict.eq_keep_of_ne_drop fun hdrop => ?_
      rw [run_cons_of_drop context index before hdrop] at h
      cases h
    rw [run_cons_of_keep hkeep] at h
    rw [List.cons_append, run_cons_of_keep hkeep, run_cons_of_keep hkeep, ih (index + 1) h,
      List.length_cons, Nat.add_right_comm, Nat.add_assoc]

/-- What each processor preserves, a run preserves, wherever it ends. -/
theorem run_invariant {P : Record → Prop} {processors : List Processor}
    (hstep : ∀ p ∈ processors, ∀ record, P record → P (p.process record).1) {record : Record}
    (h : P record) (context : Context) (index : Nat) :
    P (run context index processors record).record := by
  induction processors generalizing record index with
  | nil => exact h
  | cons p processors ih =>
    obtain ⟨hfirst, hrest⟩ := List.forall_mem_cons.mp hstep
    have hnext := hfirst record h
    by_cases hdrop : (p.process record).2 = .drop
    · rw [run_cons_of_drop context index processors hdrop]
      exact hnext
    · rw [run_cons_of_keep (Verdict.eq_keep_of_ne_drop hdrop)]
      exact ih hrest hnext (index + 1)

@[simp] theorem kind_run (context : Context) (index : Nat) (processors : List Processor)
    (record : Record) : (run context index processors record).record.kind = record.kind := by
  have hstep : ∀ p ∈ processors, ∀ r : Record, r.kind = record.kind →
      (p.process r).1.kind = record.kind := by
    intro p _ r hr
    rw [Processor.kind_process, hr]
  exact run_invariant hstep rfl context index

end Pipeline

end Telemetry
