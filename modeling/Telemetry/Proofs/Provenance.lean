import Telemetry.Proofs.Anchoring
import Telemetry.Proofs.Building
import Telemetry.Proofs.Touches

/-!
# Where attributes come from

What a document says about a key bounds what a pipeline built from it can do to the attribute under
that key: the compiled steps touch nothing that the configured ones do not name
(`Processor.touches_of_compile`), and the touches of the steps account for all that a run does. Main
statement: `explained_process_of_build`.
-/

namespace Telemetry

/-! ## What a document names -/

namespace Config

/-- A pattern has a named group of the name. -/
def NamesGroup (source name : String) : Prop :=
  ∃ pattern, Pattern.compile .search source = .ok pattern ∧ name ∈ pattern.groupNames

/-- How an action can touch the attribute under a key, as it is configured. -/
def Action.Touches (action : Action) (touch : Touch) (key : String) : Prop :=
  match touch, action.kind with
  | .insert, .insert | .delete, .delete | .rewrite, .update | .rewrite, .hash
  | .rewrite, .mask => action.key = key
  | .capture, .extract => ∃ source ∈ action.pattern, NamesGroup source key
  | _, _ => False

/-- A rule of a relabeling has a group of the name. -/
def Relabeling.Captures (relabeling : Relabeling) (name : String) : Prop :=
  ∃ rules ∈ relabeling.toAttributes, ∃ source ∈ rules.rules, NamesGroup source name

/-- How a processor can touch the attribute under a key in records of a kind, as it is
configured. -/
def Processor.Touches (config : Processor) (kind : Record.Kind) (touch : Touch) (key : String) :
    Prop :=
  config.kind.appliesTo kind = true ∧
    ((∃ actions ∈ config.actions, ∃ action ∈ actions, action.Touches touch key) ∨
      touch = .capture ∧ ((∃ name ∈ config.name, name.Captures key) ∨
        ∃ body ∈ config.body, body.Captures key))

end Config

/-- How a document can touch the attribute under a key in records of a kind. -/
def Config.Touches (config : Config) (kind : Record.Kind) (touch : Touch) (key : String) : Prop :=
  ∃ p ∈ config.processors, p.Touches kind touch key

/-! ## Compiled steps -/

/-- An anchored pattern has the groups that the text of it names. -/
theorem Pattern.mem_groupNames_iff_of_full {source name : String} {full : Pattern}
    (h : compile .full source = .ok full) :
    name ∈ full.groupNames ↔ Config.NamesGroup source name := by
  obtain ⟨n, halone, rfl⟩ := compile_full h
  rw [groupNames_anchored]
  constructor
  · intro hname
    exact ⟨_, halone, hname⟩
  · rintro ⟨alone, halone', hname⟩
    obtain rfl := Except.ok.inj (halone.symm.trans halone')
    exact hname

/-- A compiled action touches what the configured one names. -/
theorem Action.touches_iff_of_compile {field : Config.Field} {config : Config.Action}
    {action : Action} (h : compile field config = .ok action) (touch : Touch) (key : String) :
    action.Touches touch key ↔ config.Touches touch key := by
  obtain ⟨-, -, hkind⟩ := compile_eq_ok_iff.mp h
  unfold Config.Action.Touches
  cases hconfig : config.kind with
  | insert =>
    rw [hconfig] at hkind
    obtain ⟨source, -, rfl⟩ := hkind
    cases touch <;> rfl
  | update =>
    rw [hconfig] at hkind
    obtain ⟨source, -, rfl⟩ := hkind
    cases touch <;> rfl
  | delete =>
    rw [hconfig] at hkind
    obtain rfl := hkind
    cases touch <;> rfl
  | hash =>
    rw [hconfig] at hkind
    obtain rfl := hkind
    cases touch <;> rfl
  | extract =>
    rw [hconfig] at hkind
    obtain ⟨pattern, hpattern, -, rfl⟩ := hkind
    obtain ⟨source, hsource, hcompile, -⟩ := compilePattern_eq_ok_iff.mp hpattern
    cases touch with
    | capture => simp [Touches, hsource, Pattern.mem_groupNames_iff_of_full hcompile]
    | insert | delete | rewrite => rfl
  | mask =>
    rw [hconfig] at hkind
    obtain ⟨pattern, -, template, -, rfl⟩ := hkind
    cases touch <;> rfl

/-- The groups of a compiled rule are named in the section. -/
theorem Relabeler.captures_of_compile {field : Config.Field} {config : Config.Relabeling}
    {relabeler : Relabeler} (h : compile field config = .ok relabeler) {rule : Pattern}
    (hrule : rule ∈ relabeler.rules) {name : String} (hname : name ∈ rule.groupNames) :
    config.Captures name := by
  obtain ⟨-, -, hrules⟩ := compile_eq_ok_iff.mp h
  have hcompiled := compileRules_eq_ok_iff.mp hrules
  cases hsection : config.toAttributes with
  | none =>
    rw [hsection] at hcompiled
    rw [show relabeler.rules = [] from hcompiled] at hrule
    simp at hrule
  | some rules =>
    rw [hsection] at hcompiled
    obtain ⟨source, hsource, place, hplace⟩ :=
      Config.Field.exists_of_mem_compileItems hcompiled.2 hrule
    have halone := (compileRule_eq_ok_iff.mp hplace).1
    exact ⟨rules, hsection, source, hsource, rule, halone, hname⟩

/-- A compiled processor touches only what the configured one names. -/
theorem Processor.touches_of_compile {config : Config.Processor} {processor : Processor}
    (h : compile config = .ok processor) {kind : Record.Kind} {touch : Touch} {key : String}
    (htouches : processor.Touches kind touch key) : config.Touches kind touch key := by
  obtain ⟨-, -, -, -, -, -, heffect, -, hkind⟩ := compile_eq_ok_iff.mp h
  obtain ⟨happlies, htouches⟩ := htouches
  rw [appliesTo, hkind] at happlies
  refine ⟨happlies, ?_⟩
  have hcompiled := compileEffect_eq_ok_iff.mp heffect
  rcases hconfig : config.kind with _ | _ | _ | _ <;> rw [hconfig] at hcompiled
  · -- attribute processors
    obtain ⟨actions, steps, hactions, -, hsteps, heq⟩ := hcompiled
    rw [heq] at htouches
    obtain ⟨action, haction, htouch⟩ := htouches
    obtain ⟨a, ha, place, hplace⟩ := Config.Field.exists_of_mem_compileItems hsteps haction
    have hnamed := (Action.touches_iff_of_compile hplace touch key).mp htouch
    exact .inl ⟨actions, hactions, a, ha, hnamed⟩
  · -- processors of logs
    obtain ⟨body, relabeler, hbody, hrelabeler, heq⟩ := hcompiled
    rw [heq] at htouches
    obtain ⟨htouch, rule, hrule, hname⟩ := htouches
    exact .inr ⟨htouch, .inr ⟨body, hbody, Relabeler.captures_of_compile hrelabeler hrule hname⟩⟩
  · -- processors of spans
    obtain ⟨name, relabeler, hsection, hrelabeler, heq⟩ := hcompiled
    rw [heq] at htouches
    obtain ⟨htouch, rule, hrule, hname⟩ := htouches
    exact .inr ⟨htouch, .inl ⟨name, hsection, Relabeler.captures_of_compile hrelabeler hrule hname⟩⟩
  · -- metric filters
    rw [show processor.effect = .dropExcluded from hcompiled] at htouches
    exact htouches.elim

/-! ## Pipelines -/

namespace Pipeline

/-- What a pipeline does to the attribute under a key is accounted for by what its document names:
an attribute comes to be by an insertion or a group, goes by a deletion, and changes by an update, a
hash, a mask or a group, or else by a deletion and an insertion together. What the document does not
name stays as it is. -/
theorem explained_process_of_build {serial : Nat} {config : Config} {pipeline : Pipeline}
    (h : (build serial config).result = .ok pipeline) (record : Record) (key : String) :
    Explained (config.Touches record.kind · key) (record.attributes.get? key)
        ((pipeline.process record).record.attributes.get? key) ∧
      ((∀ touch, ¬ config.Touches record.kind touch key) →
        (pipeline.process record).record.attributes.get? key = record.attributes.get? key) := by
  have hrun := explained_run pipeline.context 0 pipeline.processors record key
  have hexplained : Explained (config.Touches record.kind · key) (record.attributes.get? key)
      ((pipeline.process record).record.attributes.get? key) := by
    refine hrun.mono ?_
    rintro touch ⟨p, hp, htouch⟩
    obtain ⟨c, hc, hcompile⟩ := exists_compile_of_build h p hp
    exact ⟨c, hc, Processor.touches_of_compile hcompile htouch⟩
  exact ⟨hexplained, hexplained.eq_of_not_touches⟩

/-- Gives spans and logs the region of the exporter, whatever they say themselves. -/
def regionReset : Config where
  processors := [
    { id := "attributes/region", kind := .attribute
      actions := some [
        { kind := .delete, key := "region" },
        { kind := .insert, key := "region", value := some "eu" }] }]

/-- A span of another region. -/
def remoteLogin : Record :=
  ((Record.span "login").withAttribute "region" "us").withAttribute "user" "u0"

/-- The region changes, though neither the deletion nor the insertion changes a value by itself; the
user is touched by neither. -/
theorem explained_process_of_build_regionReset :
    ∃ pipeline, (build 0 regionReset).result = .ok pipeline ∧
      remoteLogin.attributes.get? "region" = some "us" ∧
      (pipeline.process remoteLogin).record.attributes.get? "region" = some "eu" ∧
      (regionReset.Touches .span .rewrite "region" ∨ regionReset.Touches .span .capture "region" ∨
        (regionReset.Touches .span .delete "region" ∧ regionReset.Touches .span .insert "region")) ∧
      (∀ touch, ¬ regionReset.Touches .span touch "user") ∧
      (pipeline.process remoteLogin).record.attributes.get? "user" =
        remoteLogin.attributes.get? "user" := by
  let resetter : Processor :=
    { id := "attributes/region", kind := .attribute, included := none, excluded := none
      effect := .actions [.delete "region", .insert "region" (.literal "eu")] }
  let pipeline : Pipeline := ⟨.new 0 1, [resetter]⟩
  have h : (build 0 regionReset).result = .ok pipeline := rfl
  have hbefore : remoteLogin.attributes.get? "region" = some "us" := by decide
  have hafter : (pipeline.process remoteLogin).record.attributes.get? "region" = some "eu" := by
    decide
  have hregion := (explained_process_of_build h remoteLogin "region").1
  have huser : ∀ touch, ¬ regionReset.Touches .span touch "user" := by
    intro touch
    cases touch <;> simp [Config.Touches, Config.Processor.Touches, Config.Action.Touches,
      regionReset]
  have hkept := (explained_process_of_build h remoteLogin "user").2 huser
  exact ⟨pipeline, h, hbefore, hafter, hregion.altered "us" "eu" hbefore hafter (by decide), huser,
    hkept⟩

end Pipeline

end Telemetry
