import Telemetry.Pipeline.Session
import Telemetry.Proofs.Building

/-!
# Reloading

A handle is in use for long: pipelines are published at it, attempts fail, and what was taken from
it goes on being used. After any run of steps the active pipeline is the one that was published last
(`load_after`), a slot holds what was active when it was filled, and an attempt that fails shows in
its answer only. Main statement: `reload_after_start`.
-/

namespace Telemetry.Pipeline

/-! ## Handles -/

namespace Handle

/-- The handle after an attempt to publish a pipeline: what was made, if something was. -/
def attempt (handle : Handle) (made? : Option Pipeline) : Handle :=
  match made? with
  | some next => (handle.swap next).1
  | none => handle

theorem load_swap (handle : Handle) (next : Pipeline) :
    (handle.swap next).1.load = ⟨handle.load.generation + 1, next⟩ := rfl

/-- A reload publishes what its text makes, and answers with what is active then. -/
theorem reload_of_ok {serial : Nat} {text : String} {next : Pipeline}
    (h : (ofSource serial (.text text)).result = .ok next) (handle : Handle) :
    (handle.reload serial text).1 = (handle.swap next).1 ∧
      (handle.reload serial text).2.1 = .ok (handle.swap next).1.load := by
  unfold reload
  split
  · next heq => simp [heq] at h
  · next heq =>
    obtain rfl : _ = next := by simpa [heq] using h
    exact ⟨rfl, rfl⟩

/-- A reload of a text that makes no pipeline answers with the error and leaves the handle. -/
theorem reload_of_error {serial : Nat} {text : String} {e : Config.Error}
    (h : (ofSource serial (.text text)).result = .error e) (handle : Handle) :
    (handle.reload serial text).1 = handle ∧ (handle.reload serial text).2.1 = .error e := by
  unfold reload
  split
  · next heq =>
    obtain rfl : _ = e := by simpa [heq] using h
    exact ⟨rfl, rfl⟩
  · next heq => simp [heq] at h

end Handle

/-! ## Steps -/

namespace Session

/-- The pipeline that a step publishes, if it publishes one, where the next serial number is the
given one. -/
def Step.published? (serial : Nat) : Step → Option Pipeline
  | .reload text => (ofSource serial (.text text)).result.toOption
  | .swap (some source) => (ofSource serial source).result.toOption
  | .swap none => some (.empty serial)
  | .install next => some next
  | .load _ | .process _ _ | .batch _ _ => none

/-- The next serial number after a step; an attempt to make a pipeline uses one up. -/
def Step.nextSerial (serial : Nat) : Step → Nat
  | .reload _ | .swap _ => serial + 1
  | .install _ | .load _ | .process _ _ | .batch _ _ => serial

/-- What is in slots after a step, with what was active before it; only a load fills one. -/
def Step.slotsAfter (active : Snapshot) (slots : List (String × Snapshot)) :
    Step → List (String × Snapshot)
  | .load slot => Keyed.insert slot active slots
  | .reload _ | .swap _ | .install _ | .process _ _ | .batch _ _ => slots

/-- An attempt publishes what was made and leaves the slots. -/
theorem publish_fst (session : Session) (build : Build) :
    (session.publish build).1 =
      { session with
        handle := session.handle.attempt build.result.toOption
        nextSerial := session.nextSerial + 1 } := by
  obtain ⟨result, log⟩ := build
  cases result with
  | error e => rfl
  | ok next => rfl

/-- All that a step does to a session: an attempt at the handle, if the step is one, and a slot
filled, if the step is a load. -/
theorem step_fst (session : Session) (step : Step) :
    (session.step step).1 =
      { handle := session.handle.attempt (step.published? session.nextSerial)
        slots := step.slotsAfter session.handle.load session.slots
        nextSerial := step.nextSerial session.nextSerial } := by
  cases step with
  | reload text =>
    cases hmade : (ofSource session.nextSerial (.text text)).result with
    | error e =>
      have hhandle := (Handle.reload_of_error hmade session.handle).1
      simp only [Session.step, Step.published?, hmade, hhandle, Except.toOption, Handle.attempt,
        Step.slotsAfter, Step.nextSerial]
    | ok next =>
      have hhandle := (Handle.reload_of_ok hmade session.handle).1
      simp only [Session.step, Step.published?, hmade, hhandle, Except.toOption, Handle.attempt,
        Step.slotsAfter, Step.nextSerial]
  | swap source? =>
    cases source? with
    | none => exact session.publish_fst _
    | some source => exact session.publish_fst _
  | install next => rfl
  | load slot => rfl
  | process slot? record => rfl
  | batch slot? records => rfl

/-- A slot stays as it is but for a load of that slot. -/
theorem Step.get?_slotsAfter_of_ne {step : Step} {slot : String} (h : step ≠ .load slot)
    (active : Snapshot) (slots : List (String × Snapshot)) :
    Keyed.get? slot (step.slotsAfter active slots) = Keyed.get? slot slots := by
  cases step with
  | load other =>
    have hne : slot ≠ other := by
      rintro rfl
      exact h rfl
    exact (Keyed.get?_insert other slot active slots).trans (if_neg hne)
  | reload _ | swap _ | install _ | process _ _ | batch _ _ => rfl

/-! ## Runs -/

/-- The session after some steps. -/
def after (session : Session) (steps : List Step) : Session :=
  steps.foldl (fun session step => (session.step step).1) session

/-- The pipelines that some steps publish, in order; attempts that fail add none. -/
def published : Nat → List Step → List Pipeline
  | _, [] => []
  | serial, step :: steps =>
    (step.published? serial).toList ++ published (step.nextSerial serial) steps

theorem after_cons (session : Session) (step : Step) (steps : List Step) :
    session.after (step :: steps) = (session.step step).1.after steps := rfl

/-- What is active after a run is what was published last in it, or else what was active before;
each publication is a generation of its own. -/
theorem load_after (session : Session) (steps : List Step) :
    (session.after steps).handle.load =
      ⟨session.handle.load.generation + (published session.nextSerial steps).length,
        (published session.nextSerial steps).getLast?.getD session.handle.load.pipeline⟩ := by
  induction steps generalizing session with
  | nil => rfl
  | cons step steps ih =>
    rw [after_cons, ih, step_fst, published]
    cases step.published? session.nextSerial with
    | none => simp only [Handle.attempt, Option.toList_none, List.nil_append]
    | some next =>
      simp only [Handle.attempt, Handle.load_swap, Option.toList_some, List.singleton_append,
        List.length_cons, List.getLast?_cons, Option.getD_some, Snapshot.mk.injEq, and_true]
      omega

/-- A slot stays as it is in a run that does not load it. -/
theorem get?_slots_after {steps : List Step} {slot : String} (h : Step.load slot ∉ steps)
    (session : Session) :
    Keyed.get? slot (session.after steps).slots = Keyed.get? slot session.slots := by
  induction steps generalizing session with
  | nil => rfl
  | cons step steps ih =>
    rw [List.mem_cons, not_or] at h
    obtain ⟨hstep, hsteps⟩ := h
    rw [after_cons, ih hsteps, step_fst, Step.get?_slotsAfter_of_ne (Ne.symm hstep)]

/-- What was put into a slot is found there until the slot is loaded again. -/
theorem snapshot_after_load {later : List Step} {slot : String} (h : Step.load slot ∉ later)
    (session : Session) :
    ((session.step (.load slot)).1.after later).snapshot (some slot) = session.handle.load := by
  have hslot : Keyed.get? slot ((session.step (.load slot)).1.after later).slots =
      some session.handle.load := by
    rw [get?_slots_after h]
    exact (Keyed.get?_insert slot slot _ session.slots).trans (if_pos rfl)
  simp only [snapshot, Option.bind_some, hslot, Option.getD_some]

/-! ## Reloads -/

/-- A reload of a text that makes no pipeline gives the error that the text gives at any time, and
changes neither what is active nor what is in slots. -/
theorem step_reload_of_error {serial : Nat} {text : String} {e : Config.Error}
    (h : (ofSource serial (.text text)).result = .error e) (session : Session) :
    (session.step (.reload text)).2.1 = .failed e ∧
      (session.step (.reload text)).1.handle = session.handle ∧
      (session.step (.reload text)).1.slots = session.slots := by
  have hmap := (processors_ofSource_congr session.nextSerial serial (.text text)).trans
    (Except.map_eq_error_iff.mpr h)
  have hfailed := Except.map_eq_error_iff.mp hmap
  obtain ⟨hhandle, hresult⟩ := Handle.reload_of_error hfailed session.handle
  refine ⟨?_, ?_, rfl⟩
  · simp only [step, hresult]
  · simp only [step, hhandle]

/-- A reload of a text that makes a pipeline answers with what is active then, which has the
processors that the text makes at any time. -/
theorem step_reload_of_ok {serial : Nat} {text : String} {made : Pipeline}
    (h : (ofSource serial (.text text)).result = .ok made) (session : Session) :
    (session.step (.reload text)).2.1 = .loaded (session.step (.reload text)).1.handle.load ∧
      (session.step (.reload text)).1.handle.load.pipeline.processors = made.processors ∧
      (session.step (.reload text)).1.slots = session.slots := by
  have hmap := (processors_ofSource_congr session.nextSerial serial (.text text)).trans
    (Except.map_eq_ok_iff.mpr ⟨made, h, rfl⟩)
  obtain ⟨next, hnext, hprocessors⟩ := Except.map_eq_ok_iff.mp hmap
  obtain ⟨hhandle, hresult⟩ := Handle.reload_of_ok hnext session.handle
  refine ⟨?_, ?_, rfl⟩
  · simp only [step, hresult, hhandle]
  · simp only [step, hhandle, Handle.load_swap, hprocessors]

/-- Whatever has been done at a handle: what is active is what was published last, and what the
handle started with if nothing was; a reload that fails gives its error and changes nothing; a
reload that succeeds gives what is active then, with the processors that its text makes; and what
is put into a slot treats records and batches later as it did then, until the slot is filled
anew. -/
theorem reload_after_start (initial : Pipeline) (serial : Nat) (steps : List Step) :
    let session := (start initial serial).after steps
    session.handle.load =
        ⟨(published serial steps).length, (published serial steps).getLast?.getD initial⟩ ∧
      (∀ text anySerial e, (ofSource anySerial (.text text)).result = .error e →
        (session.step (.reload text)).2.1 = .failed e ∧
          (session.step (.reload text)).1.handle = session.handle ∧
          (session.step (.reload text)).1.slots = session.slots) ∧
      (∀ text anySerial made, (ofSource anySerial (.text text)).result = .ok made →
        (session.step (.reload text)).2.1 =
            .loaded (session.step (.reload text)).1.handle.load ∧
          (session.step (.reload text)).1.handle.load.pipeline.processors = made.processors ∧
          (session.step (.reload text)).1.slots = session.slots) ∧
      ∀ slot later, Step.load slot ∉ later →
        let used := (session.step (.load slot)).1.after later
        (∀ record, (used.step (.process (some slot) record)).2 =
          (session.step (.process none record)).2) ∧
          ∀ records, (used.step (.batch (some slot) records)).2 =
            (session.step (.batch none records)).2 := by
  intro session
  refine ⟨?_, fun text anySerial e h => step_reload_of_error h session,
    fun text anySerial made h => step_reload_of_ok h session, ?_⟩
  · have hactive := load_after (start initial serial) steps
    rw [show (start initial serial).handle.load = ⟨0, initial⟩ from rfl, Nat.zero_add] at hactive
    exact hactive
  · intro slot later hlater used
    have hused : used.snapshot (some slot) = session.snapshot none :=
      snapshot_after_load hlater session
    constructor
    · intro record
      simp only [step, hused]
    · intro records
      simp only [step, hused]

/-- A document with a filter for one metric. -/
def noiseFilter : String :=
  "\x7b\"processors\": [\x7b\"id\": \"filter/noise\", \"type\": \"metric-filter\", " ++
    "\"exclude\": \x7b\"matchType\": \"strict\", \"metricNames\": [\"noise\"]\x7d\x7d]\x7d"

/-- A session in which the filter is published: an empty text leaves it active; the filter that is
put into a slot drops its metric still when a pipeline without processors has been published. -/
theorem reload_after_start_noiseFilter :
    ∃ session made e, session = (start (.empty 0) 1).after [.reload noiseFilter] ∧
      (ofSource 0 (.text noiseFilter)).result = .ok made ∧
      (ofSource 0 (.text "")).result = .error e ∧
      session.handle.load = ⟨(published 1 [.reload noiseFilter]).length,
        (published 1 [.reload noiseFilter]).getLast?.getD (.empty 0)⟩ ∧
      (session.step (.reload "")).2.1 = .failed e ∧
      (session.step (.reload "")).1.handle = session.handle ∧
      (session.step (.reload noiseFilter)).2.1 =
        .loaded (session.step (.reload noiseFilter)).1.handle.load ∧
      (session.step (.reload noiseFilter)).1.handle.load.pipeline.processors = made.processors ∧
      Step.load "filter" ∉ [.reload "", .swap none, .load "none"] ∧
      (((session.step (.load "filter")).1.after [.reload "", .swap none, .load "none"]).step
          (.process (some "filter") (.metric "noise"))).2 =
        (session.step (.process none (.metric "noise"))).2 := by
  have hok : (ofSource 0 (.text noiseFilter)).result.isOk = true := by decide +kernel
  obtain ⟨made, hmade⟩ := Except.exists_of_isOk hok
  have hbad : (ofSource 0 (.text "")).result.isOk = false := by decide +kernel
  obtain ⟨e, hfailed⟩ := Except.exists_error_of_isOk_eq_false hbad
  have hlater : Step.load "filter" ∉ [.reload "", .swap none, .load "none"] := by simp
  obtain ⟨hactive, hfails, hloads, hslots⟩ :=
    reload_after_start (.empty 0) 1 [.reload noiseFilter]
  obtain ⟨hanswer, hhandle, -⟩ := hfails "" 0 e hfailed
  obtain ⟨hloaded, hprocessors, -⟩ := hloads noiseFilter 0 made hmade
  have hprocess := (hslots "filter" _ hlater).1 (.metric "noise")
  exact ⟨_, made, e, rfl, hmade, hfailed, hactive, hanswer, hhandle, hloaded, hprocessors, hlater,
    hprocess⟩

end Session

end Telemetry.Pipeline
