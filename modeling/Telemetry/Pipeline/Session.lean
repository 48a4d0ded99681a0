import Telemetry.Keyed
import Telemetry.Pipeline.Handle

/-!
# Sessions

A session is a run of steps on one handle: pipelines are published, what is active is put into
slots, and records go through what is active or in a slot. Each pipeline that is made gets a serial
number of its own.
-/

namespace Telemetry.Pipeline

/-- A handle in use. -/
structure Session where
  handle : Handle
  /-- The pipelines taken from the handle, under the names of their slots. -/
  slots : List (String × Snapshot)
  /-- The serial number of the next pipeline that is made. -/
  nextSerial : Nat

namespace Session

/-- A session that starts with a pipeline; the first serial numbers are in use. -/
def start (pipeline : Pipeline) (nextSerial : Nat) : Session := ⟨.new pipeline, [], nextSerial⟩

/-- What is in a slot, or what is active if no slot is given or nothing is in it. -/
def snapshot (session : Session) (slot? : Option String) : Snapshot :=
  (slot?.bind (Keyed.get? · session.slots)).getD session.handle.load

/-- A step of a session. -/
inductive Step where
  /-- Makes a pipeline of a document and publishes it. -/
  | reload (text : String)
  /-- Makes a pipeline, the one without processors if no document is given, and publishes it. -/
  | swap (source? : Option Config.Source)
  /-- Publishes a pipeline that has been made before. -/
  | install (next : Pipeline)
  /-- Puts what is active into a slot. -/
  | load (slot : String)
  /-- Sends a record through what is in a slot. -/
  | process (slot? : Option String) (record : Record)
  /-- Sends records through what is in a slot. -/
  | batch (slot? : Option String) (records : List Record)

/-- What a step gives. -/
inductive Answer where
  /-- What is active after a reload or load. -/
  | loaded (snapshot : Snapshot)
  /-- What was active before a swap. -/
  | replaced (snapshot : Snapshot)
  | failed (error : Config.Error)
  | outcome (outcome : Outcome)
  | batch (outcome : BatchOutcome)

/-- Publishes the pipeline made in an attempt, if it was made. -/
def publish (session : Session) (build : Build) : Session × Answer × List Entry :=
  let session := { session with nextSerial := session.nextSerial + 1 }
  match build with
  | ⟨.error e, log⟩ => (session, .failed e, log)
  | ⟨.ok next, log⟩ =>
    let (handle, old, swapped) := session.handle.swap next
    ({ session with handle }, .replaced old, log ++ swapped)

/-- Takes a step. Gives the session after it, what it gives, and what is reported. -/
def step (session : Session) : Step → Session × Answer × List Entry
  | .reload text =>
    let (handle, result, log) := session.handle.reload session.nextSerial text
    let answer := match result with
      | .error e => Answer.failed e
      | .ok snapshot => .loaded snapshot
    ({ session with handle, nextSerial := session.nextSerial + 1 }, answer, log)
  | .swap (some source) => session.publish (ofSource session.nextSerial source)
  | .swap none => session.publish ⟨.ok (.empty session.nextSerial), []⟩
  | .install next =>
    let (handle, old, log) := session.handle.swap next
    ({ session with handle }, .replaced old, log)
  | .load slot =>
    let snapshot := session.handle.load
    ({ session with slots := Keyed.insert slot snapshot session.slots }, .loaded snapshot, [])
  | .process slot? record =>
    let outcome := (session.snapshot slot?).pipeline.process record
    (session, .outcome outcome, outcome.log)
  | .batch slot? records =>
    let outcome := (session.snapshot slot?).pipeline.processBatch records
    (session, .batch outcome, outcome.log)

end Session

end Telemetry.Pipeline
