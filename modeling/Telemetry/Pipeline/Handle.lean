import Telemetry.Pipeline.Batch

/-!
# Handles

A handle holds the active pipeline. A new pipeline is made completely before it takes the place of
the old one, and an attempt that fails changes nothing. What was taken from a handle before stays as
it was.
-/

namespace Telemetry.Pipeline

/-- A pipeline as it was published: how many were published before it at the same handle. -/
structure Snapshot where
  generation : Nat
  pipeline : Pipeline

/-- A place for the active pipeline. -/
structure Handle where
  current : Snapshot

namespace Handle

/-- A handle with its first pipeline. -/
def new (pipeline : Pipeline) : Handle := ⟨⟨0, pipeline⟩⟩

/-- The active pipeline. -/
def load (handle : Handle) : Snapshot := handle.current

/-- Publishes a pipeline. Gives the handle, the pipeline that was active before, and what is
reported. -/
def swap (handle : Handle) (next : Pipeline) : Handle × Snapshot × List Entry :=
  let old := handle.current
  let oldContext := old.pipeline.context
  (⟨⟨old.generation + 1, next⟩⟩, old,
    [⟨oldContext, .swapped oldContext.pipelineId next.context.pipelineId⟩])

/-- Makes a pipeline of a document and publishes it. Gives the handle, the pipeline that is active
then or the error, and what is reported. -/
def reload (handle : Handle) (serial : Nat) (text : String) :
    Handle × Except Config.Error Snapshot × List Entry :=
  match ofSource serial (.text text) with
  | ⟨.error e, log⟩ => (handle, .error e, log)
  | ⟨.ok next, log⟩ =>
    let (handle, _, swapped) := handle.swap next
    (handle, .ok handle.load, log ++ swapped)

end Handle

end Telemetry.Pipeline
