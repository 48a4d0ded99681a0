import Telemetry.Pipeline.Batch

/-!
# Batches and single records

The records of a batch have nothing to do with one another: each is treated as if it were alone, and
those that are forwarded then stand in the order in which they came (`records_processBatch_split`).
So batches can be put together, and every record that was received is counted once, as forwarded or
as dropped. Main statement: `processBatch_agrees`.
-/

namespace Telemetry.Pipeline

/-! ## Outcomes -/

/-- A record is handed on if it is forwarded, and as the pipeline leaves it. -/
theorem Outcome.forwarded?_eq (outcome : Outcome) :
    outcome.forwarded? = if outcome.disposition = .forward then some outcome.record else none := by
  obtain ⟨record, disposition, log⟩ := outcome
  cases disposition with
  | forward => rfl
  | dropped index => rfl

/-- Whether a pipeline forwards a record. -/
def forwards (pipeline : Pipeline) (record : Record) : Bool :=
  (pipeline.process record).disposition = .forward

theorem forwarded?_process (pipeline : Pipeline) (record : Record) :
    (pipeline.process record).forwarded? =
      if pipeline.forwards record then some (pipeline.process record).record else none := by
  rw [Outcome.forwarded?_eq, forwards]
  simp only [decide_eq_true_eq]

/-! ## Batches -/

/-- The first record of a batch adds what becomes of it alone to what the others come to. -/
theorem records_processBatch_cons (pipeline : Pipeline) (record : Record) (records : List Record) :
    (pipeline.processBatch (record :: records)).records =
      (pipeline.process record).forwarded?.toList ++ (pipeline.processBatch records).records := by
  simp only [processBatch, List.map_cons, List.filterMap_cons]
  cases (pipeline.process record).forwarded? with
  | none => rfl
  | some left => rfl

/-- The batch hands on the records that are forwarded, in order, each as it is left alone. -/
theorem records_processBatch (pipeline : Pipeline) (records : List Record) :
    (pipeline.processBatch records).records =
      (records.filter pipeline.forwards).map (fun record => (pipeline.process record).record) := by
  induction records with
  | nil => rfl
  | cons record records ih =>
    rw [records_processBatch_cons, forwarded?_process, ih]
    by_cases hforwards : pipeline.forwards record = true
    · rw [if_pos hforwards, List.filter_cons_of_pos hforwards]
      rfl
    · rw [if_neg hforwards, List.filter_cons_of_neg hforwards]
      rfl

theorem forwarded_processBatch (pipeline : Pipeline) (records : List Record) :
    (pipeline.processBatch records).forwarded = records.countP pipeline.forwards := by
  have hlength : (pipeline.processBatch records).forwarded =
      (pipeline.processBatch records).records.length := rfl
  rw [hlength, records_processBatch, List.length_map, List.countP_eq_length_filter]

/-- The records that are not forwarded are the dropped ones, so what is taken from the count of the
received ones is never more than it. -/
theorem dropped_processBatch (pipeline : Pipeline) (records : List Record) :
    (pipeline.processBatch records).dropped =
      records.countP (fun record => !pipeline.forwards record) := by
  have hdropped : (pipeline.processBatch records).dropped =
      records.length - (pipeline.processBatch records).forwarded := rfl
  have hlength : records.length = records.countP pipeline.forwards +
      records.countP (fun record => !pipeline.forwards record) := by
    simpa using List.length_eq_countP_add_countP pipeline.forwards (l := records)
  rw [hdropped, forwarded_processBatch]
  omega

/-- What a record comes to in a batch does not depend on the records before it and behind it. -/
theorem records_processBatch_split (pipeline : Pipeline) (before : List Record) (record : Record)
    (after : List Record) :
    (pipeline.processBatch (before ++ record :: after)).records =
      (pipeline.processBatch before).records ++
        (pipeline.process record).forwarded?.toList ++ (pipeline.processBatch after).records := by
  induction before with
  | nil => exact records_processBatch_cons pipeline record after
  | cons first before ih =>
    rw [List.cons_append, records_processBatch_cons, records_processBatch_cons, ih]
    simp only [List.append_assoc]

/-- What a batch of two parts comes to is what its parts come to. -/
theorem processBatch_append (pipeline : Pipeline) (xs ys : List Record) :
    let both := pipeline.processBatch (xs ++ ys)
    let first := pipeline.processBatch xs
    let second := pipeline.processBatch ys
    both.records = first.records ++ second.records ∧
      both.received = first.received + second.received ∧
      both.forwarded = first.forwarded + second.forwarded ∧
      both.dropped = first.dropped + second.dropped := by
  intro both first second
  refine ⟨?_, List.length_append, ?_, ?_⟩
  · simp only [both, first, second, records_processBatch, List.filter_append, List.map_append]
  · simp only [both, first, second, forwarded_processBatch, List.countP_append]
  · simp only [both, first, second, dropped_processBatch, List.countP_append]

/-- A batch agrees with its records taken alone. It hands on what becomes of each record that is not
dropped, in the order of the records; its counts are those of the received, the forwarded and the
dropped records, and add up; batches put together come to what they come to one behind the other;
and whatever stands before and behind a record, the record is handed on if and only if it is
forwarded alone, and as it is left alone. -/
theorem processBatch_agrees (pipeline : Pipeline) (records : List Record) :
    let batch := pipeline.processBatch records
    batch.records.map some =
        (records.filter pipeline.forwards).map (fun r => (pipeline.process r).forwarded?) ∧
      batch.received = records.length ∧
      batch.forwarded = batch.records.length ∧
      batch.dropped = records.countP (fun record => !pipeline.forwards record) ∧
      batch.forwarded ≤ batch.received ∧
      batch.received = batch.forwarded + batch.dropped ∧
      (∀ more,
        let next := pipeline.processBatch more
        let both := pipeline.processBatch (records ++ more)
        both.records = batch.records ++ next.records ∧
          both.received = batch.received + next.received ∧
          both.forwarded = batch.forwarded + next.forwarded ∧
          both.dropped = batch.dropped + next.dropped) ∧
      ∀ before record after,
        (pipeline.processBatch (before ++ record :: after)).records =
            (pipeline.processBatch before).records ++
              (pipeline.process record).forwarded?.toList ++
              (pipeline.processBatch after).records ∧
          (pipeline.process record).forwarded? =
            if (pipeline.process record).disposition = .forward then
              some (pipeline.process record).record
            else none := by
  intro batch
  have hle : batch.forwarded ≤ batch.received := by
    rw [forwarded_processBatch]
    exact List.countP_le_length
  refine ⟨?_, rfl, rfl, dropped_processBatch pipeline records, hle, ?_,
    processBatch_append pipeline records, fun before record after => ⟨?_, ?_⟩⟩
  · rw [records_processBatch, List.map_map]
    refine List.map_congr_left fun record hrecord => ?_
    rw [forwarded?_process, if_pos (List.mem_filter.mp hrecord).2]
    rfl
  · exact (Nat.add_sub_of_le hle).symm
  · exact records_processBatch_split pipeline before record after
  · exact Outcome.forwarded?_eq _

end Telemetry.Pipeline
