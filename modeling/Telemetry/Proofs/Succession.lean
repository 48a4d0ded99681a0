import Telemetry.Proofs.Reloading

/-!
# The succession at a handle

Every pipeline that is published at a handle takes the place of the one that was active. A swap
gives the replaced pipeline back; a reload does not, though it replaces one as well. Listed in
order, and with what is active in the end behind them, the replaced pipelines are the one that the
handle started with and all that were published: none is lost and none comes twice. Main statement:
`succession_after_start`.
-/

namespace Telemetry.Pipeline

/-! ## Answers -/

namespace Session

/-- A swap of a pipeline that is made for it gives back what was active before and publishes what
was made, or gives the error for which nothing was made and published. -/
theorem answer_swap (session : Session) (source? : Option Config.Source) :
    ((session.step (.swap source?)).2.1 = .replaced session.handle.load ∧
        ∃ made, (Step.swap source?).published? session.nextSerial = some made) ∨
      (∃ e, (session.step (.swap source?)).2.1 = .failed e) ∧
        (Step.swap source?).published? session.nextSerial = none := by
  cases source? with
  | none => exact .inl ⟨rfl, _, rfl⟩
  | some source =>
    simp only [step, Step.published?]
    generalize ofSource session.nextSerial source = build
    obtain ⟨result, log⟩ := build
    cases result with
    | error e => exact .inr ⟨⟨e, rfl⟩, rfl⟩
    | ok made => exact .inl ⟨rfl, made, rfl⟩

/-! ## Replacements -/

/-- The pipeline that a step replaces, if it publishes one: what a swap gives back, and for a reload
that succeeds what is active before it. -/
def Step.replaced? (session : Session) (step : Step) : Option Snapshot :=
  match step, (session.step step).2.1 with
  | .swap _, .replaced old => some old
  | .install _, .replaced old => some old
  | .reload _, .loaded _ => some session.handle.load
  | _, _ => none

/-- What a step replaces is what is active just before it, if the step publishes a pipeline; loads,
records and attempts that fail replace nothing. -/
theorem Step.replaced?_eq (session : Session) (step : Step) :
    step.replaced? session =
      (step.published? session.nextSerial).map (fun _ => session.handle.load) := by
  cases step with
  | reload text =>
    cases hmade : (ofSource session.nextSerial (.text text)).result with
    | error e =>
      have hanswer := (step_reload_of_error hmade session).1
      simp only [replaced?, hanswer, published?, hmade, Except.toOption, Option.map_none]
    | ok made =>
      have hanswer := (step_reload_of_ok hmade session).1
      simp only [replaced?, hanswer, published?, hmade, Except.toOption, Option.map_some]
  | swap source? =>
    rcases session.answer_swap source? with ⟨hanswer, made, hmade⟩ | ⟨⟨e, hanswer⟩, hfailed⟩
    · simp only [replaced?, hanswer, hmade, Option.map_some]
    · simp only [replaced?, hanswer, hfailed, Option.map_none]
  | install next => rfl
  | load slot => rfl
  | process slot? record => rfl
  | batch slot? records => rfl

/-- The pipelines that some steps replace, in order. -/
def replaced : Session → List Step → List Snapshot
  | _, [] => []
  | session, step :: steps =>
    (step.replaced? session).toList ++ replaced (session.step step).1 steps

end Session

/-! ## Successions -/

/-- Pipelines as they are published one behind another, the first one as the given generation. -/
def succession : Nat → List Pipeline → List Snapshot
  | _, [] => []
  | generation, pipeline :: rest => ⟨generation, pipeline⟩ :: succession (generation + 1) rest

theorem map_pipeline_succession (generation : Nat) (pipelines : List Pipeline) :
    (succession generation pipelines).map (·.pipeline) = pipelines := by
  induction pipelines generalizing generation with
  | nil => rfl
  | cons pipeline pipelines ih => rw [succession, List.map_cons, ih]

theorem map_generation_succession (generation : Nat) (pipelines : List Pipeline) :
    (succession generation pipelines).map (·.generation) =
      List.range' generation pipelines.length := by
  induction pipelines generalizing generation with
  | nil => rfl
  | cons pipeline pipelines ih =>
    rw [succession, List.map_cons, ih, List.length_cons, List.range'_succ]

namespace Session

/-- What a run replaces, and behind it what is active then, is what was active before the run and
what the run published. -/
theorem replaced_append_load_after (session : Session) (steps : List Step) :
    replaced session steps ++ [(session.after steps).handle.load] =
      succession session.handle.load.generation
        (session.handle.load.pipeline :: published session.nextSerial steps) := by
  induction steps generalizing session with
  | nil => rfl
  | cons step steps ih =>
    have hnext := ih (session.step step).1
    rw [replaced, after_cons, List.append_assoc, hnext, Step.replaced?_eq, step_fst, published]
    cases step.published? session.nextSerial with
    | none => rfl
    | some next => rfl

/-- No pipeline is lost at a handle, and none comes twice. Whatever steps are taken, the pipelines
that they replace, in order, and what is active in the end are the pipeline that the handle started
with and all that were published, each as a generation of its own. What a step replaces is what was
active just before it: a swap gives exactly that back, or fails and publishes nothing; and a step
that publishes nothing replaces nothing and leaves the handle. -/
theorem succession_after_start (initial : Pipeline) (serial : Nat) (steps : List Step) :
    let used := (start initial serial).after steps
    let all := replaced (start initial serial) steps ++ [used.handle.load]
    all.map (·.pipeline) = initial :: published serial steps ∧
      all.map (·.generation) = List.range ((published serial steps).length + 1) ∧
      (∀ (session : Session) next,
        (session.step (.install next)).2.1 = .replaced session.handle.load) ∧
      (∀ (session : Session) source?,
        ((session.step (.swap source?)).2.1 = .replaced session.handle.load ∧
            ∃ made, (Step.swap source?).published? session.nextSerial = some made) ∨
          (∃ e, (session.step (.swap source?)).2.1 = .failed e) ∧
            (Step.swap source?).published? session.nextSerial = none) ∧
      ∀ (session : Session) (step : Step),
        step.replaced? session =
            (step.published? session.nextSerial).map (fun _ => session.handle.load) ∧
          (session.step step).1.handle =
            session.handle.attempt (step.published? session.nextSerial) := by
  intro used all
  have hall : all = succession 0 (initial :: published serial steps) :=
    replaced_append_load_after (start initial serial) steps
  refine ⟨?_, ?_, fun _ _ => rfl, answer_swap, fun session step => ⟨?_, ?_⟩⟩
  · rw [hall, map_pipeline_succession]
  · rw [hall, map_generation_succession, List.length_cons, ← List.range_eq_range']
  · exact step.replaced?_eq session
  · rw [step_fst]

/-- A reload that fails and a load stand between two swaps and add nothing. -/
example :
    (replaced (start (.empty 0) 1)
      [.swap none, .reload "", .load "kept", .install (.empty 9)]).map (·.generation) = [0, 1] := by
  decide +kernel

end Session

end Telemetry.Pipeline
