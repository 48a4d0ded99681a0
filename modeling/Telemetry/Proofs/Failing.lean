import Telemetry.Config.Document
import Telemetry.Proofs.Building

/-!
# What fails first

A pass over a list that stops at the first item it cannot do reports that item, and says nothing of
those behind it. So do the passes that make a pipeline: reading the entries of a document, comparing
their ids, and compiling them (`readEntries_eq_error_iff`, `build_eq_error_iff`).
-/

namespace List

variable {α : Type _} {P : α → Prop} {as : List α} {index : Nat} {a b : α}

/-- The first item of a list that does not have a property, and the number of items before it. -/
def FirstFailing (P : α → Prop) (as : List α) (index : Nat) (a : α) : Prop :=
  ∃ before after, as = before ++ a :: after ∧ before.length = index ∧ (∀ b ∈ before, P b) ∧ ¬ P a

theorem not_firstFailing_nil : ¬ FirstFailing P [] index a := by
  rintro ⟨before, after, h, -⟩
  simp at h

theorem firstFailing_cons_of_not (hb : ¬ P b) :
    FirstFailing P (b :: as) index a ↔ index = 0 ∧ a = b := by
  constructor
  · rintro ⟨before, after, heq, rfl, hbefore, -⟩
    cases before with
    | nil => exact ⟨rfl, (List.cons.inj heq).1.symm⟩
    | cons c before =>
      obtain ⟨rfl, -⟩ := List.cons.inj heq
      exact absurd (hbefore b List.mem_cons_self) hb
  · rintro ⟨rfl, rfl⟩
    exact ⟨[], as, rfl, rfl, by simp, hb⟩

theorem firstFailing_cons_of (hb : P b) :
    FirstFailing P (b :: as) index a ↔ ∃ i, index = i + 1 ∧ FirstFailing P as i a := by
  constructor
  · rintro ⟨before, after, heq, rfl, hbefore, ha⟩
    cases before with
    | nil =>
      obtain ⟨rfl, -⟩ := List.cons.inj heq
      exact absurd hb ha
    | cons c before =>
      exact ⟨before.length, rfl, before, after, (List.cons.inj heq).2, rfl,
        fun d hd => hbefore d (List.mem_cons_of_mem _ hd), ha⟩
  · rintro ⟨i, rfl, before, after, rfl, rfl, hbefore, ha⟩
    exact ⟨b :: before, after, rfl, rfl, List.forall_mem_cons.mpr ⟨hb, hbefore⟩, ha⟩

/-- What is put behind a list does not change what fails first in it. -/
theorem FirstFailing.append (h : FirstFailing P as index a) (more : List α) :
    FirstFailing P (as ++ more) index a := by
  obtain ⟨before, after, rfl, hlength, hbefore, ha⟩ := h
  exact ⟨before, after ++ more, by simp, hlength, hbefore, ha⟩

theorem FirstFailing.getElem? (h : FirstFailing P as index a) : as[index]? = some a := by
  obtain ⟨before, after, rfl, rfl, -, -⟩ := h
  simp

theorem FirstFailing.mem (h : FirstFailing P as index a) : a ∈ as :=
  mem_of_getElem? h.getElem?

theorem FirstFailing.not (h : FirstFailing P as index a) : ¬ P a := by
  obtain ⟨-, -, -, -, -, ha⟩ := h
  exact ha

/-- If an item fails, one is the first to fail. -/
theorem exists_firstFailing (h : ∃ a ∈ as, ¬ P a) : ∃ index a, FirstFailing P as index a := by
  induction as with
  | nil => simp at h
  | cons b as ih =>
    by_cases hb : P b
    · obtain ⟨a, ha, hfails⟩ := h
      rcases List.mem_cons.mp ha with rfl | ha
      · exact absurd hb hfails
      · obtain ⟨i, c, hc⟩ := ih ⟨a, ha, hfails⟩
        exact ⟨i + 1, c, (firstFailing_cons_of hb).mpr ⟨i, rfl, hc⟩⟩
    · exact ⟨0, b, (firstFailing_cons_of_not hb).mpr ⟨rfl, rfl⟩⟩

end List

namespace Telemetry.Config

/-! ## Reading entries -/

/-- A JSON value that can be taken for a processor. -/
def IsProcessor (entry : Json) : Prop := ∃ config, Processor.form.decode entry = .ok config

theorem readEntries_eq_ok_iff {index : Nat} {entries : List Json} {configs : List Processor} :
    readEntries index entries = .ok configs ↔
      List.Forall₂ (fun entry config => Processor.form.decode entry = .ok config) entries
        configs := by
  induction entries generalizing index configs with
  | nil => simp [readEntries, eq_comm]
  | cons entry entries ih =>
    rw [readEntries, List.forall₂_cons_left_iff]
    cases hentry : Processor.form.decode entry with
    | error mismatch => simp
    | ok config =>
      simp only [Except.map_eq_ok_iff, ih, Except.ok.injEq]
      constructor
      · rintro ⟨rest, hrest, rfl⟩
        exact ⟨config, rest, rfl, hrest, rfl⟩
      · rintro ⟨_, rest, rfl, hrest, rfl⟩
        exact ⟨rest, hrest, rfl⟩

/-- Reading fails at the first entry that is no processor, whatever stands behind it. -/
theorem readEntries_eq_error_iff {index : Nat} {entries : List Json} {e : Error} :
    readEntries index entries = .error e ↔
      ∃ i entry mismatch, entries.FirstFailing IsProcessor i entry ∧
        Processor.form.decode entry = .error mismatch ∧
        e = .malformed (entryLabel (index + i) entry) mismatch := by
  induction entries generalizing index with
  | nil => simp [readEntries, List.not_firstFailing_nil]
  | cons entry entries ih =>
    rw [readEntries]
    cases hentry : Processor.form.decode entry with
    | error mismatch =>
      have hfails : ¬ IsProcessor entry := by simp [IsProcessor, hentry]
      simp [List.firstFailing_cons_of_not hfails, hentry, eq_comm]
    | ok config =>
      have hgood : IsProcessor entry := ⟨config, hentry⟩
      simpa [List.firstFailing_cons_of hgood, Except.map_eq_error_iff, ih, Nat.add_assoc,
        Nat.add_comm 1] using exists_comm

/-- A list of items fails at the first one that does not compile, where the field does not matter
to that. -/
theorem Field.compileItems_eq_error_iff {α β : Type} {compile : Field → α → Except Flaw β}
    {P : α → Prop} (hP : ∀ f a, (∃ b, compile f a = .ok b) ↔ P a) {field : Field} {index : Nat}
    {as : List α} {flaw : Flaw} :
    field.compileItems compile index as = .error flaw ↔
      ∃ i a, as.FirstFailing P i a ∧ compile (field.item (index + i)) a = .error flaw := by
  induction as generalizing index with
  | nil => simp [compileItems, List.not_firstFailing_nil]
  | cons b as ih =>
    rw [compileItems]
    have hb := hP (field.item index) b
    cases hcompile : compile (field.item index) b with
    | error flaw' =>
      have hfails : ¬ P b := by simp [← hb, hcompile]
      simp [List.firstFailing_cons_of_not hfails, hcompile]
    | ok step =>
      have hgood : P b := hb.mp ⟨step, hcompile⟩
      simpa [List.firstFailing_cons_of hgood, Except.map_eq_error_iff, ih, Nat.add_assoc,
        Nat.add_comm 1] using exists_comm

end Telemetry.Config

namespace Telemetry.Pipeline

/-! ## Building -/

/-- The first id that repeats another stands behind ids that differ from each other and from what
has been seen. -/
theorem firstRepeated?_eq_some_iff {seen ids : List String} {id : String} :
    firstRepeated? seen ids = some id ↔
      ∃ before after, ids = before ++ id :: after ∧ before.Nodup ∧ (∀ b ∈ before, b ∉ seen) ∧
        (id ∈ seen ∨ id ∈ before) := by
  induction ids generalizing seen with
  | nil => simp [firstRepeated?]
  | cons i ids ih =>
    rw [firstRepeated?]
    by_cases hseen : i ∈ seen
    · simp only [List.contains_eq_mem, hseen, decide_true, if_true, Option.some.injEq]
      constructor
      · rintro rfl
        exact ⟨[], ids, rfl, .nil, by simp, .inl hseen⟩
      · rintro ⟨before, after, heq, -, hbefore, -⟩
        cases before with
        | nil => exact (List.cons.inj heq).1
        | cons b before =>
          obtain ⟨rfl, -⟩ := List.cons.inj heq
          exact absurd hseen (hbefore i List.mem_cons_self)
    · simp only [List.contains_eq_mem, hseen, decide_false, Bool.false_eq_true, if_false, ih]
      constructor
      · rintro ⟨before, after, rfl, hnodup, hbefore, hid⟩
        refine ⟨i :: before, after, rfl, ?_, ?_, ?_⟩
        · exact List.nodup_cons.mpr ⟨fun hi => hbefore i hi List.mem_cons_self, hnodup⟩
        · exact List.forall_mem_cons.mpr
            ⟨hseen, fun b hb hs => hbefore b hb (List.mem_cons_of_mem _ hs)⟩
        · rcases hid with hid | hid
          · rcases List.mem_cons.mp hid with rfl | hid
            · exact .inr List.mem_cons_self
            · exact .inl hid
          · exact .inr (List.mem_cons_of_mem _ hid)
      · rintro ⟨before, after, heq, hnodup, hbefore, hid⟩
        cases before with
        | nil =>
          obtain ⟨rfl, -⟩ := List.cons.inj heq
          simp [hseen] at hid
        | cons b before =>
          obtain ⟨rfl, rfl⟩ := List.cons.inj heq
          obtain ⟨hi, hnodup⟩ := List.nodup_cons.mp hnodup
          refine ⟨before, after, rfl, hnodup, fun b hb hs => ?_, ?_⟩
          · rcases List.mem_cons.mp hs with rfl | hs
            · exact hi hb
            · exact hbefore b (List.mem_cons_of_mem _ hb) hs
          · rcases hid with hid | hid
            · exact .inl (List.mem_cons_of_mem _ hid)
            · rcases List.mem_cons.mp hid with rfl | hid
              · exact .inl List.mem_cons_self
              · exact .inr hid

/-- A processor that repeats the id of one before it, where those before have ids of their own. -/
def FirstRepeating (configs : List Config.Processor) (config : Config.Processor) : Prop :=
  ∃ before after, configs = before ++ config :: after ∧ (before.map (·.id)).Nodup ∧
    config.id ∈ before.map (·.id)

theorem FirstRepeating.append {configs : List Config.Processor} {config : Config.Processor}
    (h : FirstRepeating configs config) (more : List Config.Processor) :
    FirstRepeating (configs ++ more) config := by
  obtain ⟨before, after, rfl, hnodup, hid⟩ := h
  exact ⟨before, after ++ more, by simp, hnodup, hid⟩

theorem FirstRepeating.mem {configs : List Config.Processor} {config : Config.Processor}
    (h : FirstRepeating configs config) : config ∈ configs := by
  obtain ⟨before, after, rfl, -, -⟩ := h
  simp

theorem firstRepeated?_map_id_eq_some_iff {configs : List Config.Processor} {id : String} :
    firstRepeated? [] (configs.map (·.id)) = some id ↔
      ∃ config, FirstRepeating configs config ∧ config.id = id := by
  rw [firstRepeated?_eq_some_iff]
  constructor
  · rintro ⟨before, after, heq, hnodup, -, hid⟩
    obtain ⟨cs, rest, rfl, rfl, hrest⟩ := List.map_eq_append_iff.mp heq
    obtain ⟨config, cs', rfl, rfl, rfl⟩ := List.map_eq_cons_iff.mp hrest
    exact ⟨config, ⟨cs, cs', rfl, hnodup, by simpa using hid⟩, rfl⟩
  · rintro ⟨config, ⟨before, after, rfl, hnodup, hid⟩, rfl⟩
    exact ⟨before.map (·.id), after.map (·.id), by simp, hnodup, by simp, .inr hid⟩

/-- If two processors have one id, some processor is the first to repeat one. -/
theorem exists_firstRepeating {configs : List Config.Processor}
    (h : ¬ (configs.map (·.id)).Nodup) : ∃ config, FirstRepeating configs config := by
  cases hrepeated : firstRepeated? [] (configs.map (·.id)) with
  | none => exact absurd (firstRepeated?_eq_none_iff.mp hrepeated).1 h
  | some id =>
    obtain ⟨config, hconfig, -⟩ := firstRepeated?_map_id_eq_some_iff.mp hrepeated
    exact ⟨config, hconfig⟩

/-- A processor that compiles. -/
def Compiles (config : Config.Processor) : Prop := ∃ p, Processor.compile config = .ok p

theorem compileAll_eq_error_iff (context : Context) {configs : List Config.Processor}
    {e : Config.Error} :
    (compileAll context configs).1 = .error e ↔
      ∃ i config, configs.FirstFailing Compiles i config ∧ Processor.compile config = .error e := by
  induction configs with
  | nil => simp [compileAll, List.not_firstFailing_nil]
  | cons c configs ih =>
    rw [compileAll]
    cases hc : Processor.compile c with
    | error e' =>
      have hfails : ¬ Compiles c := by simp [Compiles, hc]
      simp [List.firstFailing_cons_of_not hfails, hc]
    | ok p =>
      have hgood : Compiles c := ⟨p, hc⟩
      simp only [List.firstFailing_cons_of hgood, Except.map_eq_error_iff, ih]
      constructor
      · rintro ⟨i, config, hfirst, he⟩
        exact ⟨i + 1, config, ⟨i, rfl, hfirst⟩, he⟩
      · rintro ⟨_, config, ⟨i, rfl, hfirst⟩, he⟩
        exact ⟨i, config, hfirst, he⟩

/-- No pipeline is built of a document where a processor repeats an id, and otherwise where one does
not compile; the first such processor makes the error. -/
theorem build_eq_error_iff {serial : Nat} {config : Config} {e : Config.Error} :
    (build serial config).result = .error e ↔
      (∃ c, FirstRepeating config.processors c ∧ e = .duplicateId c.id) ∨
        ((config.processors.map (·.id)).Nodup ∧
          ∃ i c, config.processors.FirstFailing Compiles i c ∧ Processor.compile c = .error e) := by
  rw [result_build, Except.map_eq_error_iff, compileDistinct]
  have hrepeating := @firstRepeated?_map_id_eq_some_iff config.processors
  have hnodup := @firstRepeated?_eq_none_iff [] (config.processors.map (·.id))
  cases hfound : firstRepeated? [] (config.processors.map (·.id)) with
  | some id =>
    obtain ⟨c, hc, rfl⟩ := hrepeating.mp hfound
    have hrepeats : ¬ (config.processors.map (·.id)).Nodup := by
      simpa [hfound] using hnodup
    simp only [Except.error.injEq, hrepeats, false_and, or_false]
    constructor
    · rintro rfl
      exact ⟨c, hc, rfl⟩
    · rintro ⟨c', hc', rfl⟩
      rw [← Option.some.inj (hfound.symm.trans (hrepeating.mpr ⟨c', hc', rfl⟩))]
  | none =>
    have hdistinct : (config.processors.map (·.id)).Nodup := (hnodup.mp hfound).1
    have hnone : ¬ ∃ c, FirstRepeating config.processors c ∧ e = .duplicateId c.id := by
      rintro ⟨c, hc, -⟩
      simpa [hfound] using hrepeating.mpr ⟨c, hc, rfl⟩
    simp only [hnone, false_or, hdistinct, true_and]
    exact compileAll_eq_error_iff _

end Telemetry.Pipeline
