import Telemetry.Proofs.Building
import Telemetry.Proofs.Touches

/-!
# Redaction

A key that is deleted stays away as long as nothing creates it again, and only three things create
keys: insertions, the groups of extractions and the groups of rules. Every other step leaves an
absent key absent, whatever it does to the rest of the record (`get?_run_of_not_creates`). Main
statement: `get?_process_of_delete`.
-/

namespace Telemetry

/-! ## Actions -/

namespace Action

/-- An action may make an attribute where there is none. -/
def Creates (action : Action) (key : String) : Prop :=
  match action with
  | .insert k _ => k = key
  | .extract _ pattern => key ∈ pattern.groupNames
  | .update _ _ | .delete _ | .hash _ | .mask _ _ _ => False

theorem creates_iff (action : Action) (key : String) :
    action.Creates key ↔ action.Touches .insert key ∨ action.Touches .capture key := by
  cases action <;> simp [Creates, Touches]

/-- A key that is absent stays absent under actions that do not create it. -/
theorem get?_applyAll_of_not_creates {actions : List Action} {attributes : Attributes}
    {key : String} (hcreates : ∀ action ∈ actions, ¬ action.Creates key)
    (h : attributes.get? key = none) : (applyAll actions attributes).get? key = none := by
  by_contra hsome
  rcases (explained_applyAll actions attributes key).created h hsome with
    ⟨action, haction, hinsert⟩ | ⟨action, haction, hcapture⟩
  · exact hcreates action haction ((creates_iff action key).mpr (.inl hinsert))
  · exact hcreates action haction ((creates_iff action key).mpr (.inr hcapture))

/-- Behind its deletion, a key that nothing creates is absent. -/
theorem get?_applyAll_of_delete {pre post : List Action} {key : String}
    (hcreates : ∀ action ∈ post, ¬ action.Creates key) (attributes : Attributes) :
    (applyAll (pre ++ .delete key :: post) attributes).get? key = none := by
  rw [applyAll, List.foldl_append, List.foldl_cons]
  refine get?_applyAll_of_not_creates hcreates ?_
  rw [apply, Attributes.get?_erase, if_pos rfl]

end Action

/-! ## Pipelines -/

namespace Processor

/-- What a processor does may make an attribute where there is none. -/
def Effect.Creates (effect : Effect) (key : String) : Prop :=
  match effect with
  | .actions steps => ∃ action ∈ steps, action.Creates key
  | .relabel relabeler => ∃ rule ∈ relabeler.rules, key ∈ rule.groupNames
  | .dropExcluded => False

theorem Effect.creates_iff (effect : Effect) (key : String) :
    effect.Creates key ↔ effect.Touches .insert key ∨ effect.Touches .capture key := by
  cases effect with
  | actions steps =>
    simp only [Creates, Touches, Action.creates_iff]
    constructor
    · rintro ⟨action, haction, hinsert | hcapture⟩
      · exact .inl ⟨action, haction, hinsert⟩
      · exact .inr ⟨action, haction, hcapture⟩
    · rintro (⟨action, haction, hinsert⟩ | ⟨action, haction, hcapture⟩)
      · exact ⟨action, haction, .inl hinsert⟩
      · exact ⟨action, haction, .inr hcapture⟩
  | relabel relabeler => simp [Creates, Touches]
  | dropExcluded => simp [Creates, Touches]

end Processor

namespace Pipeline

/-- A key that is absent stays absent in a run of processors that do not create it, whichever of
them the record comes to. -/
theorem get?_run_of_not_creates {processors : List Processor} {record : Record} {key : String}
    (hcreates : ∀ p ∈ processors, p.appliesTo record.kind = true → ¬ p.effect.Creates key)
    (h : record.attributes.get? key = none) (context : Context) (index : Nat) :
    (run context index processors record).record.attributes.get? key = none := by
  by_contra hsome
  rcases (explained_run context index processors record key).created h hsome with
    ⟨p, hp, happlies, hinsert⟩ | ⟨p, hp, happlies, hcapture⟩
  · exact hcreates p hp happlies ((p.effect.creates_iff key).mpr (.inl hinsert))
  · exact hcreates p hp happlies ((p.effect.creates_iff key).mpr (.inr hcapture))

/-- A span or log from which a processor deletes a key leaves the pipeline without it, if no later
action of the processor and no later processor for records of the kind creates it. -/
theorem get?_process_of_delete {serial : Nat} {config : Config} {pipeline : Pipeline}
    (h : (build serial config).result = .ok pipeline) {record : Record}
    (hkind : record.kind = .span ∨ record.kind = .log) {before after : List Processor}
    {processor : Processor} (hsplit : pipeline.processors = before ++ processor :: after)
    (hprocessor : processor.kind = .attribute) {arriving : Record}
    (harriving : (run pipeline.context 0 before record).record = arriving)
    (hincluded : ∀ matcher ∈ processor.included, matcher.isMatch arriving = true)
    (hexcluded : ∀ matcher ∈ processor.excluded, matcher.isMatch arriving = false)
    {pre post : List Action} {key : String}
    (heffect : processor.effect = .actions (pre ++ .delete key :: post))
    (hpost : ∀ action ∈ post, ¬ action.Creates key)
    (hafter : ∀ p ∈ after, p.appliesTo record.kind = true → ¬ p.effect.Creates key) :
    (pipeline.process record).record.attributes.get? key = none := by
  have hmetric : record.kind ≠ .metric := by
    rcases hkind with hkind | hkind <;> simp [hkind]
  have harrivingKind : arriving.kind = record.kind := by
    rw [← harriving, kind_run]
  have happlies : processor.appliesTo arriving.kind = true := by
    rw [Processor.appliesTo, hprocessor, harrivingKind]
    rcases hkind with hkind | hkind <;> rw [hkind] <;> rfl
  have hselects : processor.selects arriving = true :=
    (processor.selects_iff arriving).mpr ⟨hincluded, hexcluded⟩
  have hdeleted : (processor.process arriving).1.attributes.get? key = none := by
    rw [Processor.record_process, if_pos ⟨happlies, hselects⟩, heffect]
    exact Action.get?_applyAll_of_delete hpost arriving.attributes
  rw [process_eq_run_of_split h hmetric hsplit, harriving]
  refine get?_run_of_not_creates (fun p hp hp' => hafter p hp ?_) hdeleted _ _
  rwa [Processor.kind_process, harrivingKind] at hp'

/-- Takes the token from logins, of which the name is then made anew. -/
def tokenRemoval : Config where
  processors := [
    { id := "attributes/token", kind := .attribute
      included := some { matchKind := .strict, spanNames := ["login"] }
      actions := some [
        { kind := .insert, key := "seen", fromAttribute := some "token" },
        { kind := .delete, key := "token" },
        { kind := .update, key := "token", value := some "none" },
        { kind := .hash, key := "token" }] },
    { id := "span/name", kind := .span
      name := some { fromAttributes := some ["token", "user"], separator := some "-" } }]

theorem get?_process_of_delete_tokenRemoval :
    ∃ pipeline, (build 0 tokenRemoval).result = .ok pipeline ∧
      (pipeline.process ((Record.span "login").withAttribute "token" "t0")).record.attributes.get?
        "token" = none := by
  let remover : Processor :=
    { id := "attributes/token", kind := .attribute
      included := some ⟨some (.strict ["login"]), none, none, []⟩
      excluded := none
      effect := .actions [.insert "seen" (.attribute "token"), .delete "token",
        .update "token" (.literal "none"), .hash "token"] }
  let namer : Processor :=
    { id := "span/name", kind := .span, included := none, excluded := none
      effect := .relabel ⟨[], some ⟨["token", "user"], "-"⟩⟩ }
  let pipeline : Pipeline := ⟨.new 0 2, [remover, namer]⟩
  have h : (build 0 tokenRemoval).result = .ok pipeline := rfl
  have hsplit : pipeline.processors = [] ++ remover :: [namer] := rfl
  have heffect : remover.effect = .actions ([.insert "seen" (.attribute "token")] ++
      .delete "token" :: [.update "token" (.literal "none"), .hash "token"]) := rfl
  refine ⟨pipeline, h, get?_process_of_delete h (.inl rfl) hsplit rfl rfl ?_ ?_ heffect ?_ ?_⟩
  · rintro _ ⟨⟩
    decide
  · rintro _ ⟨⟩
  · simp [Action.Creates]
  · simp [namer, Processor.Effect.Creates]

end Pipeline

end Telemetry
