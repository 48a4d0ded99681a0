import Telemetry.Proofs.Acceptance.Basic

/-!
# Compiling accepts what the rules accept

Each check that compiling a processor makes gives a value exactly for the configurations that keep
one of the rules of `Telemetry.Proofs.Acceptance.Basic`. Main statement: `compile_iff_accepted`.
-/

namespace Telemetry

open Config (Flaw Field ActionKind ProcessorKind Selection MatchKind Criterion)

/-! ## Sections and lists -/

namespace Processor

theorem checkSections_eq_ok_iff (config : Config.Processor) :
    checkSections config = .ok () ↔ config.SectionsFit := by
  have parts : config.SectionsFit ↔ (config.actions.isSome → config.kind = .attribute) ∧
      (config.body.isSome → config.kind = .log) ∧ (config.name.isSome → config.kind = .span) ∧
      (config.kind = .metricFilter → config.included = none ∧ config.excluded.isSome) :=
    ⟨fun h => ⟨h.actions, h.body, h.name, h.filter⟩, fun h => ⟨h.1, h.2.1, h.2.2.1, h.2.2.2⟩⟩
  rw [parts]
  obtain ⟨id, kind, included, excluded, actions, body, name⟩ := config
  unfold checkSections
  -- which section is misplaced depends on the kind alone, so all combinations are gone through
  cases actions <;> cases body <;> cases name <;> cases kind <;>
    simp [sections, Except.error_bind, Except.pure_eq_ok_iff]
  cases included <;> cases excluded <;> simp [Except.pure_eq_ok_iff]

theorem checkSelection_eq_ok_iff (kind : ProcessorKind) (field : Field)
    (selection? : Option Selection) :
    checkSelection kind field selection? = .ok () ↔
      ∀ selection ∈ selection?, selection.Fits kind := by
  cases selection? with
  | none => simp [checkSelection]
  | some selection =>
    obtain ⟨matchKind, spanNames, logBodies, metricNames, attributes⟩ := selection
    unfold checkSelection
    cases kind <;> cases spanNames <;> cases logBodies <;> cases metricNames <;>
      cases attributes <;>
      simp [dimensions, Selection.Fits, Config.ProcessorKind.appliesTo,
        Config.ProcessorKind.mayListAttributes, Except.error_bind, Except.pure_eq_ok_iff]

end Processor

/-! ## Selections -/

/-- The patterns of a list compile together if each of them does and the limit is not reached. -/
theorem PatternSet.exists_compile_eq_ok_iff {anchoring : Anchoring} {sources : List String}
    (hlimit : PatternSet.WithinLimit anchoring sources) :
    (∃ set, PatternSet.compile anchoring sources = .ok set) ↔
      ∀ source ∈ sources, Pattern.Compiles anchoring source := by
  simp only [PatternSet.compile_eq_ok_iff]
  constructor
  · rintro ⟨_, patterns, hpatterns, -⟩ source hsource
    obtain ⟨pattern, -, hpattern⟩ := hpatterns.exists_of_mem_left hsource
    exact ⟨pattern, hpattern⟩
  · intro h
    obtain ⟨patterns, hpatterns⟩ := List.Forall₂.exists_of_forall_exists h
    exact ⟨_, patterns, hpatterns, hlimit patterns hpatterns, rfl⟩

/-- A list that compiles as a set is within the limit: its patterns are no others than those. -/
theorem PatternSet.withinLimit_of_isOk {anchoring : Anchoring} {sources : List String}
    (h : (PatternSet.compile anchoring sources).isOk = true) :
    PatternSet.WithinLimit anchoring sources := by
  obtain ⟨set, hset⟩ := Except.exists_of_isOk h
  obtain ⟨patterns, hpatterns, hweight, -⟩ := PatternSet.compile_eq_ok_iff.mp hset
  intro patterns' h'
  have unique : patterns' = patterns :=
    List.right_unique_forall₂' (fun _ _ _ h₁ h₂ => Except.ok.inj (h₁.symm.trans h₂)) h' hpatterns
  exact unique ▸ hweight

namespace Matcher

theorem Names.exists_compile_eq_ok_iff (field : Field) {kind : MatchKind} {names : List String}
    (hlimit : kind = .regexp → PatternSet.WithinLimit .full names) :
    (∃ result, Names.compile field kind names = .ok result) ↔
      (kind = .regexp → ∀ source ∈ names, Pattern.Compiles .full source) := by
  unfold Names.compile
  cases names with
  | nil => simp
  | cons name names =>
    cases kind with
    | strict => simp
    | regexp =>
      simp only [List.isEmpty_cons, Bool.false_eq_true, if_false, forall_const,
        Except.exists_map_eq_ok_iff, Field.compilePatternSet_eq_ok_iff]
      exact PatternSet.exists_compile_eq_ok_iff (hlimit rfl)

theorem Test.exists_compile_eq_ok_iff (kind : MatchKind) (field : Field) (criterion : Criterion) :
    (∃ test, Test.compile kind field criterion = .ok test) ↔
      criterion.key ≠ "" ∧
        (kind = .regexp → ∀ source ∈ criterion.value, Pattern.Compiles .full source) := by
  obtain ⟨key, value⟩ := criterion
  unfold Test.compile
  by_cases hkey : key = ""
  · simp [hkey]
  · cases value with
    | none => simp [hkey]
    | some text =>
      cases kind with
      | strict => simp [hkey]
      | regexp =>
        simp only [hkey, if_false, Except.exists_map_eq_ok_iff, Field.compilePattern_eq_ok_iff]
        simp [hkey, Pattern.Compiles]

theorem compile_eq_ok_iff {field : Field} {selection : Selection} {matcher : Matcher} :
    compile field selection = .ok matcher ↔
      Names.compile (field.member "spanNames") selection.matchKind selection.spanNames =
          .ok matcher.spanNames ∧
        Names.compile (field.member "logBodies") selection.matchKind selection.logBodies =
          .ok matcher.logBodies ∧
        Names.compile (field.member "metricNames") selection.matchKind selection.metricNames =
          .ok matcher.metricNames ∧
        (field.member "attributes").compileItems (Test.compile selection.matchKind) 0
          selection.attributes = .ok matcher.attributes := by
  obtain ⟨spanNames, logBodies, metricNames, attributes⟩ := matcher
  simp only [compile, Except.bind_eq_ok_iff, Except.pure_eq_ok_iff, Matcher.mk.injEq]
  constructor
  · rintro ⟨_, hs, _, hl, _, hm, _, ha, rfl, rfl, rfl, rfl⟩
    exact ⟨hs, hl, hm, ha⟩
  · rintro ⟨hs, hl, hm, ha⟩
    exact ⟨_, hs, _, hl, _, hm, _, ha, rfl, rfl, rfl, rfl⟩

/-- A selection compiles if its keys and patterns are as they have to be. -/
theorem exists_compile_eq_ok_iff (field : Field) {selection : Selection}
    (hlimit : selection.WithinLimit) :
    (∃ matcher, compile field selection = .ok matcher) ↔ selection.Compiles := by
  have limit (names : List String)
      (h : names ∈ [selection.spanNames, selection.logBodies, selection.metricNames]) :
      selection.matchKind = .regexp → PatternSet.WithinLimit .full names :=
    fun hkind => hlimit hkind names h
  have spanNames := Names.exists_compile_eq_ok_iff (field.member "spanNames")
    (limit selection.spanNames (by simp))
  have logBodies := Names.exists_compile_eq_ok_iff (field.member "logBodies")
    (limit selection.logBodies (by simp))
  have metricNames := Names.exists_compile_eq_ok_iff (field.member "metricNames")
    (limit selection.metricNames (by simp))
  have attributes := Field.compileItems_iff (Test.exists_compile_eq_ok_iff selection.matchKind)
    (field.member "attributes") 0 selection.attributes
  constructor
  · rintro ⟨matcher, h⟩
    obtain ⟨hs, hl, hm, ha⟩ := compile_eq_ok_iff.mp h
    have hattributes := attributes.mp ⟨_, ha⟩
    refine ⟨fun c hc => (hattributes c hc).1, fun hkind source hsource => ?_,
      fun hkind c hc => (hattributes c hc).2 hkind⟩
    rcases List.mem_append.mp hsource with hsource | hsource
    · rcases List.mem_append.mp hsource with hsource | hsource
      · exact spanNames.mp ⟨_, hs⟩ hkind source hsource
      · exact logBodies.mp ⟨_, hl⟩ hkind source hsource
    · exact metricNames.mp ⟨_, hm⟩ hkind source hsource
  · intro h
    obtain ⟨s, hs⟩ := spanNames.mpr (fun hkind p hp => h.names hkind p (by simp [hp]))
    obtain ⟨l, hl⟩ := logBodies.mpr (fun hkind p hp => h.names hkind p (by simp [hp]))
    obtain ⟨m, hm⟩ := metricNames.mpr (fun hkind p hp => h.names hkind p (by simp [hp]))
    obtain ⟨a, ha⟩ := attributes.mpr (fun c hc => ⟨h.keys c hc, fun hkind => h.values hkind c hc⟩)
    exact ⟨⟨s, l, m, a⟩, compile_eq_ok_iff.mpr ⟨hs, hl, hm, ha⟩⟩

end Matcher

/-! ## Actions -/

namespace Action

/-- An option that is not for actions of the kind is refused. -/
theorem unused?_eq_none_iff (config : Config.Action) :
    config.unused? = none ↔
      (config.value.isSome → "value" ∈ config.kind.options) ∧
        (config.fromAttribute.isSome → "fromAttribute" ∈ config.kind.options) ∧
        (config.pattern.isSome → "pattern" ∈ config.kind.options) ∧
        (config.groupNames.isSome → "groupNames" ∈ config.kind.options) ∧
        (config.replace.isSome → "replace" ∈ config.kind.options) := by
  rw [Config.Action.unused?, List.find?_eq_none]
  simp [Config.Action.given, or_imp, forall_and]

theorem Source.exists_compile_eq_ok_iff (field : Field) (config : Config.Action) :
    (∃ source, Source.compile field config = .ok source) ↔
      (config.value.isSome ↔ config.fromAttribute = none) := by
  unfold Source.compile
  cases config.value <;> cases config.fromAttribute <;> simp

theorem compilePattern_eq_ok_iff {field : Field} {anchoring : Anchoring} {config : Config.Action}
    {pattern : Pattern} :
    compilePattern field anchoring config = .ok pattern ↔
      ∃ source, config.pattern = some source ∧ Pattern.compile anchoring source = .ok pattern ∧
        config.GroupsAgree pattern := by
  unfold compilePattern
  cases config.pattern with
  | none => simp
  | some source =>
    simp only [Except.bind_eq_ok_iff, Field.compilePattern_eq_ok_iff, Field.checkGroups_eq_ok_iff,
      Option.some.injEq, exists_eq_left']
    constructor
    · rintro ⟨_, h, rfl, hgroups⟩
      exact ⟨h, hgroups⟩
    · rintro ⟨h, hgroups⟩
      exact ⟨pattern, h, rfl, hgroups⟩

theorem compileTemplate_eq_ok_iff {field : Field} {pattern : Pattern} {config : Config.Action}
    {template : Template} :
    compileTemplate field pattern config = .ok template ↔
      ∃ text, config.replace = some text ∧ template = Template.parse text ∧
        ∀ name ∈ template.placeholders, name ∈ pattern.groupNames := by
  unfold compileTemplate
  cases config.replace with
  | none => simp
  | some text =>
    simp only [Option.some.injEq, exists_eq_left']
    have unknown : (((Template.parse text).placeholders.filter
        (fun name => !pattern.groupNames.contains name)).isEmpty = true) ↔
        ∀ name ∈ (Template.parse text).placeholders, name ∈ pattern.groupNames := by
      simp [List.filter_eq_nil_iff]
    by_cases h : ∀ name ∈ (Template.parse text).placeholders, name ∈ pattern.groupNames
    · rw [if_pos (unknown.mpr h), Except.ok.injEq]
      exact ⟨fun heq => ⟨heq.symm, heq ▸ h⟩, fun heq => heq.1.symm⟩
    · rw [if_neg (fun hempty => h (unknown.mp hempty))]
      simp only [reduceCtorEq, false_iff, not_and]
      rintro rfl
      exact h

/-- What an action compiles to: what its kind says, if it has a key and no option that is not for
it. -/
theorem compile_eq_ok_iff {field : Field} {config : Config.Action} {action : Action} :
    compile field config = .ok action ↔
      config.key ≠ "" ∧ config.unused? = none ∧
        match config.kind with
        | .insert =>
          ∃ source, Source.compile field config = .ok source ∧ .insert config.key source = action
        | .update =>
          ∃ source, Source.compile field config = .ok source ∧ .update config.key source = action
        | .delete => .delete config.key = action
        | .hash => .hash config.key = action
        | .extract =>
          ∃ pattern, compilePattern field .full config = .ok pattern ∧
            pattern.groupNames ≠ [] ∧ .extract config.key pattern = action
        | .mask =>
          ∃ pattern, compilePattern field .search config = .ok pattern ∧
            ∃ template, compileTemplate field pattern config = .ok template ∧
              .mask config.key pattern template = action := by
  unfold compile
  by_cases hkey : config.key = ""
  · simp [hkey, Except.error_bind]
  · cases hunused : config.unused? with
    | some name => simp [hkey, Except.error_bind]
    | none =>
      simp only [hkey, if_false, ne_eq, not_false_eq_true, true_and]
      cases config.kind with
      | insert | update => simp only [Except.bind_eq_ok_iff, Except.pure_eq_ok_iff]
      | delete | hash => simp only [Except.pure_eq_ok_iff]
      | extract =>
        simp only [Except.bind_eq_ok_iff, Except.pure_eq_ok_iff, Field.requireGroups_eq_ok_iff]
        simp only [and_assoc, exists_eq_left, ne_eq]
      | mask => simp only [Except.bind_eq_ok_iff, Except.pure_eq_ok_iff]

/-- An action compiles if it keeps the rules. -/
theorem exists_compile_eq_ok_iff (field : Field) (config : Config.Action) :
    (∃ action, compile field config = .ok action) ↔ config.Accepted := by
  have accepted : config.Accepted ↔ config.key ≠ "" ∧ config.OptionsFit :=
    ⟨fun h => ⟨h.key, h.options⟩, fun h => ⟨h.1, h.2⟩⟩
  rw [accepted]
  simp only [compile_eq_ok_iff, exists_and_left, unused?_eq_none_iff]
  refine and_congr_right fun _ => ?_
  have source := Source.exists_compile_eq_ok_iff field config
  unfold Config.Action.OptionsFit
  cases config.kind with
  | insert | update => simp [Config.ActionKind.options, source, and_comm]
  | delete | hash => simp [Config.ActionKind.options]
  | extract =>
    simp only [Config.ActionKind.options, compilePattern_eq_ok_iff]
    constructor
    · rintro ⟨unused, _, pattern, ⟨text, htext, hpattern, hgroups⟩, hnames, rfl⟩
      obtain ⟨hv, hf, hr⟩ : config.value = none ∧ config.fromAttribute = none ∧
          config.replace = none := by simpa using unused
      exact ⟨hv, hf, hr, text, pattern, htext, hpattern, hgroups, hnames⟩
    · rintro ⟨hv, hf, hr, text, pattern, htext, hpattern, hgroups, hnames⟩
      exact ⟨by simp [hv, hf, hr], _, pattern, ⟨text, htext, hpattern, hgroups⟩, hnames, rfl⟩
  | mask =>
    simp only [Config.ActionKind.options, compilePattern_eq_ok_iff, compileTemplate_eq_ok_iff]
    constructor
    · rintro ⟨unused, _, pattern, ⟨text, htext, hpattern, hgroups⟩, _,
        ⟨replace, hreplace, rfl, hnames⟩, rfl⟩
      obtain ⟨hv, hf⟩ : config.value = none ∧ config.fromAttribute = none := by
        simpa using unused
      exact ⟨hv, hf, text, pattern, replace, htext, hpattern, hgroups, hreplace, hnames⟩
    · rintro ⟨hv, hf, text, pattern, replace, htext, hpattern, hgroups, hreplace, hnames⟩
      exact ⟨by simp [hv, hf], _, pattern, ⟨text, htext, hpattern, hgroups⟩, _,
        ⟨replace, hreplace, rfl, hnames⟩, rfl⟩

end Action

/-! ## Relabelings -/

namespace Relabeler

theorem compileRule_eq_ok_iff {field : Field} {source : String} {pattern : Pattern} :
    compileRule field source = .ok pattern ↔
      Pattern.compile .search source = .ok pattern ∧ pattern.groupNames ≠ [] := by
  simp only [compileRule, Except.bind_eq_ok_iff, Field.compilePattern_eq_ok_iff,
    Field.requireGroups_eq_ok_iff]
  constructor
  · rintro ⟨_, h, rfl, hnames⟩
    exact ⟨h, hnames⟩
  · rintro ⟨h, hnames⟩
    exact ⟨pattern, h, rfl, hnames⟩

theorem exists_compileRule_eq_ok_iff (field : Field) (source : String) :
    (∃ pattern, compileRule field source = .ok pattern) ↔
      Config.Relabeling.RuleAccepted source := by
  simp only [compileRule_eq_ok_iff, Config.Relabeling.RuleAccepted]

theorem Join.exists_compile_eq_ok_iff (field : Field) (config : Config.Relabeling) :
    (∃ join, Join.compile field config = .ok join) ↔
      config.fromAttributes ≠ some [] ∧
        (config.separator.isSome → config.fromAttributes.isSome) := by
  unfold Join.compile
  cases config.fromAttributes with
  | none => cases config.separator <;> simp
  | some keys => cases keys <;> simp

theorem compileRules_eq_ok_iff {field : Field} {config : Config.Relabeling}
    {patterns : List Pattern} :
    compileRules field config = .ok patterns ↔
      match config.toAttributes with
      | none => patterns = []
      | some rules =>
        rules.rules ≠ [] ∧
          ((field.member "toAttributes").member "rules").compileItems compileRule 0 rules.rules =
            .ok patterns := by
  unfold compileRules
  cases config.toAttributes with
  | none => simp [eq_comm]
  | some rules =>
    by_cases hempty : rules.rules = []
    · simp [hempty]
    · simp only [List.isEmpty_iff, hempty, if_false, ne_eq, not_false_eq_true, true_and]

theorem exists_compileRules_eq_ok_iff (field : Field) (config : Config.Relabeling) :
    (∃ rules, compileRules field config = .ok rules) ↔
      ∀ rules ∈ config.toAttributes,
        rules.rules ≠ [] ∧ ∀ source ∈ rules.rules, Config.Relabeling.RuleAccepted source := by
  simp only [compileRules_eq_ok_iff]
  cases config.toAttributes with
  | none => simp
  | some rules =>
    simp only [exists_and_left, Option.mem_def, Option.some.injEq, forall_eq']
    refine and_congr_right fun _ => ?_
    exact Field.compileItems_iff exists_compileRule_eq_ok_iff _ 0 rules.rules

theorem compile_eq_ok_iff {field : Field} {config : Config.Relabeling} {relabeler : Relabeler} :
    compile field config = .ok relabeler ↔
      (config.fromAttributes.isSome ∨ config.toAttributes.isSome) ∧
        Join.compile field config = .ok relabeler.join ∧
        compileRules field config = .ok relabeler.rules := by
  obtain ⟨rules, join⟩ := relabeler
  have steps : (do
      let join ← Join.compile field config
      let rules ← compileRules field config
      return ({ rules, join } : Relabeler)) = Except.ok ⟨rules, join⟩ ↔
        Join.compile field config = .ok join ∧ compileRules field config = .ok rules := by
    simp only [Except.bind_eq_ok_iff, Except.pure_eq_ok_iff, Relabeler.mk.injEq]
    constructor
    · rintro ⟨_, hjoin, _, hrules, rfl, rfl⟩
      exact ⟨hjoin, hrules⟩
    · rintro ⟨hjoin, hrules⟩
      exact ⟨_, hjoin, _, hrules, rfl, rfl⟩
  unfold compile
  by_cases hnone : (config.fromAttributes.isNone && config.toAttributes.isNone) = true
  · have hsome : ¬(config.fromAttributes.isSome ∨ config.toAttributes.isSome) := by
      simpa [Bool.and_eq_true] using hnone
    simp only [hnone, if_true, Except.error_bind, reduceCtorEq, hsome, false_and]
  · have hsome : config.fromAttributes.isSome ∨ config.toAttributes.isSome := by
      rw [Bool.and_eq_true, not_and_or] at hnone
      simpa [Option.isSome_iff_ne_none] using hnone
    simp only [hnone, hsome, true_and]
    exact steps

/-- A relabeling compiles if it keeps the rules. -/
theorem exists_compile_eq_ok_iff (field : Field) (config : Config.Relabeling) :
    (∃ relabeler, compile field config = .ok relabeler) ↔ config.Accepted := by
  have join := Join.exists_compile_eq_ok_iff field config
  have rules := exists_compileRules_eq_ok_iff field config
  simp only [compile_eq_ok_iff]
  constructor
  · rintro ⟨relabeler, hsome, hjoin, hrules⟩
    obtain ⟨hkeys, hseparator⟩ := join.mp ⟨_, hjoin⟩
    exact ⟨hsome, hkeys, hseparator, rules.mp ⟨_, hrules⟩⟩
  · intro h
    obtain ⟨j, hj⟩ := join.mpr ⟨h.keys, h.separator⟩
    obtain ⟨rs, hrs⟩ := rules.mpr h.rules
    exact ⟨⟨rs, j⟩, h.some_step, hj, hrs⟩

end Relabeler

/-! ## Processors -/

namespace Processor

theorem exists_compileSelection_eq_ok_iff (field : Field) {selection? : Option Selection}
    (hlimit : ∀ selection ∈ selection?, selection.WithinLimit) :
    (∃ matcher, compileSelection field selection? = .ok matcher) ↔
      ∀ selection ∈ selection?, selection.Compiles := by
  unfold compileSelection
  cases selection? with
  | none => simp
  | some selection =>
    simp only [Except.exists_map_eq_ok_iff, Option.mem_def, Option.some.injEq, forall_eq']
    exact Matcher.exists_compile_eq_ok_iff field (hlimit selection rfl)

theorem compileRelabel_eq_ok_iff {field : Field} {section? : Option Config.Relabeling}
    {effect : Effect} :
    compileRelabel field section? = .ok effect ↔
      ∃ config relabeler, section? = some config ∧
        Relabeler.compile field config = .ok relabeler ∧ effect = .relabel relabeler := by
  cases section? with
  | none => simp [compileRelabel]
  | some config =>
    rw [compileRelabel, Except.map_eq_ok_iff]
    constructor
    · rintro ⟨relabeler, h, rfl⟩
      exact ⟨config, relabeler, rfl, h, rfl⟩
    · rintro ⟨_, relabeler, ⟨⟩, h, rfl⟩
      exact ⟨relabeler, h, rfl⟩

theorem exists_compileRelabel_eq_ok_iff (field : Field) (section? : Option Config.Relabeling) :
    (∃ effect, compileRelabel field section? = .ok effect) ↔
      ∃ relabeling, section? = some relabeling ∧ relabeling.Accepted := by
  simp only [compileRelabel_eq_ok_iff, ← Relabeler.exists_compile_eq_ok_iff field]
  constructor
  · rintro ⟨_, relabeling, relabeler, hsection, h, rfl⟩
    exact ⟨relabeling, hsection, relabeler, h⟩
  · rintro ⟨relabeling, hsection, relabeler, h⟩
    exact ⟨_, relabeling, relabeler, hsection, h, rfl⟩

/-- What the section of each kind of processors compiles to. -/
theorem compileEffect_eq_ok_iff {config : Config.Processor} {effect : Effect} :
    compileEffect config = .ok effect ↔
      match config.kind with
      | .attribute =>
        ∃ actions steps, config.actions = some actions ∧ actions ≠ [] ∧
          (Field.named "actions").compileItems Action.compile 0 actions = .ok steps ∧
          effect = .actions steps
      | .log =>
        ∃ body relabeler, config.body = some body ∧
          Relabeler.compile (.named "body") body = .ok relabeler ∧ effect = .relabel relabeler
      | .span =>
        ∃ name relabeler, config.name = some name ∧
          Relabeler.compile (.named "name") name = .ok relabeler ∧ effect = .relabel relabeler
      | .metricFilter => effect = .dropExcluded := by
  unfold compileEffect
  rcases config.kind with _ | _ | _ | _
  · -- attribute processors
    cases config.actions with
    | none => simp
    | some actions =>
      by_cases hempty : actions = []
      · simp [hempty]
      · simp only [List.isEmpty_iff, hempty, if_false, Except.map_eq_ok_iff]
        constructor
        · rintro ⟨steps, h, rfl⟩
          exact ⟨actions, steps, rfl, hempty, h, rfl⟩
        · rintro ⟨_, steps, ⟨⟩, -, h, rfl⟩
          exact ⟨steps, h, rfl⟩
  · exact compileRelabel_eq_ok_iff
  · exact compileRelabel_eq_ok_iff
  · simp [eq_comm]

theorem exists_compileEffect_eq_ok_iff (config : Config.Processor) :
    (∃ effect, compileEffect config = .ok effect) ↔ config.EffectAccepted := by
  unfold Config.Processor.EffectAccepted
  rcases hkind : config.kind with _ | _ | _ | _
  · -- attribute processors
    have steps := Field.compileItems_iff Action.exists_compile_eq_ok_iff (.named "actions") 0
    simp only [compileEffect_eq_ok_iff, hkind]
    constructor
    · rintro ⟨_, actions, compiled, hsection, hsome, h, rfl⟩
      exact ⟨actions, hsection, hsome, (steps actions).mp ⟨compiled, h⟩⟩
    · rintro ⟨actions, hsection, hsome, h⟩
      obtain ⟨compiled, hcompiled⟩ := (steps actions).mpr h
      exact ⟨_, actions, compiled, hsection, hsome, hcompiled, rfl⟩
  · rw [compileEffect, hkind]
    exact exists_compileRelabel_eq_ok_iff (.named "body") config.body
  · rw [compileEffect, hkind]
    exact exists_compileRelabel_eq_ok_iff (.named "name") config.name
  · -- metric filters
    simp [compileEffect_eq_ok_iff, hkind]

/-- What a processor compiles to, and what has to pass for it. -/
theorem compile_eq_ok_iff {config : Config.Processor} {processor : Processor} :
    compile config = .ok processor ↔
      config.id ≠ "" ∧ checkSections config = .ok () ∧
        checkSelection config.kind (.named "include") config.included = .ok () ∧
        checkSelection config.kind (.named "exclude") config.excluded = .ok () ∧
        compileSelection (.named "include") config.included = .ok processor.included ∧
        compileSelection (.named "exclude") config.excluded = .ok processor.excluded ∧
        compileEffect config = .ok processor.effect ∧
        processor.id = config.id ∧ processor.kind = config.kind := by
  obtain ⟨id, kind, included, excluded, effect⟩ := processor
  unfold compile
  by_cases hid : config.id = ""
  · simp [hid]
  · simp only [hid, if_false, Except.mapError_eq_ok_iff, compileNamed, Except.bind_eq_ok_iff,
      Except.pure_eq_ok_iff, Processor.mk.injEq, ne_eq, not_false_eq_true, true_and]
    constructor
    · rintro ⟨_, hsections, _, hincl, _, hexcl, _, hi, _, he, _, heffect, rfl, rfl, rfl, rfl, rfl⟩
      exact ⟨hsections, hincl, hexcl, hi, he, heffect, rfl, rfl⟩
    · rintro ⟨hsections, hincl, hexcl, hi, he, heffect, rfl, rfl⟩
      exact ⟨_, hsections, _, hincl, _, hexcl, _, hi, _, he, _, heffect, rfl, rfl, rfl, rfl, rfl⟩

/-- A processor compiles if it keeps the rules: no check asks for more, and none for less. -/
theorem compile_iff_accepted (config : Config.Processor) (hlimit : config.WithinLimit) :
    (∃ processor, compile config = .ok processor) ↔ config.Accepted := by
  have included := exists_compileSelection_eq_ok_iff (.named "include") hlimit.included
  have excluded := exists_compileSelection_eq_ok_iff (.named "exclude") hlimit.excluded
  have effect := exists_compileEffect_eq_ok_iff config
  simp only [compile_eq_ok_iff, checkSections_eq_ok_iff, checkSelection_eq_ok_iff]
  constructor
  · rintro ⟨processor, hid, hsections, hincl, hexcl, hi, he, heffect, -, -⟩
    exact ⟨hid, hsections, fun s hs => ⟨hincl s hs, included.mp ⟨_, hi⟩ s hs⟩,
      fun s hs => ⟨hexcl s hs, excluded.mp ⟨_, he⟩ s hs⟩, effect.mp ⟨_, heffect⟩⟩
  · intro h
    obtain ⟨i, hi⟩ := included.mpr (fun s hs => (h.included s hs).2)
    obtain ⟨e, he⟩ := excluded.mpr (fun s hs => (h.excluded s hs).2)
    obtain ⟨f, hf⟩ := effect.mpr h.effect
    exact ⟨⟨config.id, config.kind, i, e, f⟩, h.id, h.sections, fun s hs => (h.included s hs).1,
      fun s hs => (h.excluded s hs).1, hi, he, hf, rfl, rfl⟩

/-- A processor for spans of two services that hides the number of a card and drops a copy of it. -/
def cardMasking : Config.Processor where
  id := "attributes/cards"
  kind := .attribute
  included := some ⟨.regexp, ["svc-(a|b)", "gateway"], [], [], [⟨"env", some "prod|test"⟩]⟩
  actions := some [
    { kind := .mask, key := "card", pattern := some "(?<first>[0-9]{4})[0-9]+",
      replace := some "$\x7Bfirst\x7D****" },
    { kind := .delete, key := "card_copy" }]

/-- The names of a selection compile together, and so the rules decide whether it is accepted. -/
theorem compile_iff_accepted_cardMasking :
    cardMasking.WithinLimit ∧ (∃ processor, compile cardMasking = .ok processor) ∧
      cardMasking.Accepted := by
  have hlimit : cardMasking.WithinLimit := by
    refine ⟨?_, by simp [cardMasking]⟩
    rintro _ ⟨⟩ - names hnames
    simp only [List.mem_cons, List.not_mem_nil, or_false] at hnames
    rcases hnames with rfl | rfl | rfl <;> exact PatternSet.withinLimit_of_isOk (by decide +kernel)
  have hok : ∃ processor, compile cardMasking = .ok processor :=
    Except.exists_of_isOk (by decide +kernel)
  exact ⟨hlimit, hok, (compile_iff_accepted cardMasking hlimit).mp hok⟩

end Processor

end Telemetry
