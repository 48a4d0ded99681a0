import Telemetry.Pipeline.Basic

/-!
# Batches

The records of a batch go through a pipeline one after another; those that are forwarded keep their
order.
-/

namespace Telemetry.Pipeline

/-- What a pipeline makes of a batch of records. -/
structure BatchOutcome where
  received : Nat
  forwarded : Nat
  dropped : Nat
  /-- The records that are forwarded, in order. -/
  records : List Record
  log : List Entry

/-- Sends the records of a batch through a pipeline. -/
def processBatch (pipeline : Pipeline) (records : List Record) : BatchOutcome :=
  let outcomes := records.map pipeline.process
  let kept := outcomes.filterMap Outcome.forwarded?
  let received := records.length
  let dropped := received - kept.length
  { received, forwarded := kept.length, dropped, records := kept
    log := outcomes.flatMap (·.log) ++
      [⟨pipeline.context, .batchCompleted received kept.length dropped⟩] }

end Telemetry.Pipeline
