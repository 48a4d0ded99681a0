import Telemetry.Proofs.Acceptance
import Telemetry.Proofs.Anchoring
import Telemetry.Proofs.PatternSets

/-!
# What a selection selects

A configured selection as a condition on a record, in words that do without compiled names and
patterns: what each list of names and each criterion asks for. The matcher that a selection compiles
to decides that condition (`Matcher.isMatch_iff`), and so do two of them together, of which one says
what is included and the other what is excluded. Main statement: `Matcher.selects_iff_satisfied`.
-/

namespace Telemetry

open Config (Field MatchKind Criterion Selection)

/-! ## Names -/

/-- A subject is one of some names, or the whole of it is matched by one of them as a pattern. -/
def Config.MatchKind.Selects (kind : MatchKind) (names : List String) (subject : String) : Prop :=
  match kind with
  | .strict => subject ∈ names
  | .regexp =>
    ∃ source ∈ names, ∃ pattern, Pattern.compile .search source = .ok pattern ∧
      pattern.MatchesWhole subject

/-- Only which names are listed matters to what they select. -/
theorem Config.MatchKind.Selects.of_subset {matchKind : MatchKind} {names names' : List String}
    {subject : String} (h : matchKind.Selects names subject) (hsubset : names ⊆ names') :
    matchKind.Selects names' subject := by
  cases matchKind with
  | strict => exact hsubset h
  | regexp =>
    obtain ⟨source, hsource, hmatch⟩ := h
    exact ⟨source, hsubset hsource, hmatch⟩

/-- Patterns that compile together match what one of them can match from end to end. -/
theorem PatternSet.isMatch_iff {sources : List String} {set : PatternSet}
    (h : compile .full sources = .ok set) (subject : String) :
    set.isMatch subject = true ↔ MatchKind.regexp.Selects sources subject := by
  have hagrees := agreesWith_of_compile h
  rw [hagrees.isMatch]
  constructor
  · rintro ⟨source, hsource, full, hfull, hmatch⟩
    obtain ⟨n, halone, rfl⟩ := Pattern.compile_full hfull
    exact ⟨source, hsource, _, halone, (Pattern.isMatch_anchored source n subject).mp hmatch⟩
  · rintro ⟨source, hsource, pattern, halone', hmatch⟩
    obtain ⟨full, hfull⟩ := hagrees.compiles source hsource
    obtain ⟨n, halone, rfl⟩ := Pattern.compile_full hfull
    obtain rfl := Except.ok.inj (halone.symm.trans halone')
    exact ⟨source, hsource, _, hfull, (Pattern.isMatch_anchored source n subject).mpr hmatch⟩

/-- A list of names that is not empty compiles to what selects the same subjects. -/
theorem Matcher.Names.isMatch_iff {field : Field} {kind : MatchKind} {names : List String}
    {result : Option Names} (h : compile field kind names = .ok result) (hne : names ≠ []) :
    ∃ compiled, result = some compiled ∧
      ∀ subject, compiled.isMatch subject = true ↔ kind.Selects names subject := by
  unfold compile at h
  rw [if_neg (by simpa using hne)] at h
  cases kind with
  | strict =>
    obtain rfl := Except.ok.inj h
    exact ⟨_, rfl, fun subject => by simp [isMatch, MatchKind.Selects]⟩
  | regexp =>
    obtain ⟨set, hset, rfl⟩ := Except.map_eq_ok_iff.mp h
    exact ⟨_, rfl, PatternSet.isMatch_iff (Field.compilePatternSet_eq_ok_iff.mp hset)⟩

theorem Matcher.Names.compile_nil (field : Field) (kind : MatchKind) :
    compile field kind [] = .ok none := rfl

/-- Where there are names, the record is of the kind that they are for and its subject is
selected. -/
def Config.MatchKind.Admits (matchKind : MatchKind) (names : List String) (kind : Record.Kind)
    (record : Record) : Prop :=
  names ≠ [] → kind = record.kind ∧ matchKind.Selects names record.subject

/-- A list of names compiles to what admits the same records. -/
theorem Matcher.admits_iff {field : Field} {matchKind : MatchKind} {names : List String}
    {result : Option Names} (h : Names.compile field matchKind names = .ok result)
    (kind : Record.Kind) (record : Record) :
    admits result kind record = true ↔ matchKind.Admits names kind record := by
  by_cases hne : names = []
  · subst hne
    obtain rfl := Except.ok.inj h
    simp [admits, MatchKind.Admits]
  · obtain ⟨compiled, rfl, hiff⟩ := Names.isMatch_iff h hne
    simp [admits, MatchKind.Admits, hne, hiff]

/-! ## Criteria -/

/-- The attribute is there, and its value is the one that is asked for, if one is. -/
def Config.Criterion.MetBy (criterion : Criterion) (matchKind : MatchKind)
    (attributes : Attributes) : Prop :=
  ∃ actual, attributes.get? criterion.key = some actual ∧
    ∀ value ∈ criterion.value, matchKind.Selects [value] actual

namespace Matcher

/-- A criterion compiles to a test of the value under its key, for what is asked of that value. -/
theorem Test.value_isMatch_iff {field : Field} {matchKind : MatchKind} {criterion : Criterion}
    {test : Test} (h : Test.compile matchKind field criterion = .ok test) :
    test.key = criterion.key ∧
      ∀ actual, test.value.isMatch actual = true ↔
        ∀ value ∈ criterion.value, matchKind.Selects [value] actual := by
  obtain ⟨key, value⟩ := criterion
  unfold Test.compile at h
  by_cases hkey : key = ""
  · simp [hkey] at h
  · rw [if_neg hkey] at h
    cases value with
    | none =>
      obtain rfl := Except.ok.inj h
      exact ⟨rfl, fun actual => by simp [Value.isMatch]⟩
    | some text =>
      cases matchKind with
      | strict =>
        obtain rfl := Except.ok.inj h
        exact ⟨rfl, fun actual => by simp [Value.isMatch, MatchKind.Selects]⟩
      | regexp =>
        obtain ⟨full, hfull, rfl⟩ := Except.map_eq_ok_iff.mp h
        obtain ⟨n, halone, rfl⟩ := Pattern.compile_full (Field.compilePattern_eq_ok_iff.mp hfull)
        refine ⟨rfl, fun actual => (Pattern.isMatch_anchored text n actual).trans ?_⟩
        simp [MatchKind.Selects, halone]

/-- A criterion is met by the attributes that pass the test that it compiles to. -/
theorem Test.isMatch_iff {field : Field} {matchKind : MatchKind} {criterion : Criterion}
    {test : Test} (h : Test.compile matchKind field criterion = .ok test)
    (attributes : Attributes) :
    test.isMatch attributes = true ↔ criterion.MetBy matchKind attributes := by
  obtain ⟨hkey, hvalue⟩ := Test.value_isMatch_iff h
  rw [isMatch, Option.any_eq_true, hkey]
  exact exists_congr fun actual => and_congr_right fun _ => hvalue actual

theorem all_isMatch_iff {field : Field} {matchKind : MatchKind} {index : Nat}
    {criteria : List Criterion} {tests : List Test}
    (h : field.compileItems (Test.compile matchKind) index criteria = .ok tests)
    (attributes : Attributes) :
    tests.all (·.isMatch attributes) = true ↔ ∀ c ∈ criteria, c.MetBy matchKind attributes := by
  induction criteria generalizing index tests with
  | nil =>
    obtain rfl := Except.ok.inj h
    simp
  | cons criterion criteria ih =>
    obtain ⟨test, tests, htest, htests, rfl⟩ := Field.compileItems_cons_eq_ok_iff.mp h
    rw [List.all_cons, Bool.and_eq_true, Test.isMatch_iff htest, ih htests, List.forall_mem_cons]

end Matcher

/-! ## Selections -/

/-- What a selection asks of a record. -/
structure Config.Selection.SatisfiedBy (selection : Selection) (record : Record) : Prop where
  spanNames : selection.matchKind.Admits selection.spanNames .span record
  logBodies : selection.matchKind.Admits selection.logBodies .log record
  metricNames : selection.matchKind.Admits selection.metricNames .metric record
  attributes : ∀ criterion ∈ selection.attributes,
    criterion.MetBy selection.matchKind record.attributes

/-- A selection compiles to a matcher that selects the records it is satisfied by. -/
theorem Matcher.isMatch_iff {field : Field} {selection : Selection} {matcher : Matcher}
    (h : compile field selection = .ok matcher) (record : Record) :
    matcher.isMatch record = true ↔ selection.SatisfiedBy record := by
  obtain ⟨hspan, hlog, hmetric, hattributes⟩ := compile_eq_ok_iff.mp h
  simp only [isMatch, Bool.and_eq_true, admits_iff hspan, admits_iff hlog, admits_iff hmetric,
    all_isMatch_iff hattributes]
  exact ⟨fun ⟨⟨⟨s, l⟩, m⟩, a⟩ => ⟨s, l, m, a⟩, fun ⟨s, l, m, a⟩ => ⟨⟨⟨s, l⟩, m⟩, a⟩⟩

/-! ## Two selections -/

namespace Config.Selection

/-- The names that a selection lists for records of a kind. -/
def namesOf (selection : Selection) : Record.Kind → List String
  | .span => selection.spanNames
  | .log => selection.logBodies
  | .metric => selection.metricNames

/-- What a selection asks of a record, for all lists of names at once. -/
theorem satisfiedBy_iff (selection : Selection) (record : Record) :
    selection.SatisfiedBy record ↔
      (∀ kind, selection.matchKind.Admits (selection.namesOf kind) kind record) ∧
        ∀ criterion ∈ selection.attributes,
          criterion.MetBy selection.matchKind record.attributes := by
  constructor
  · intro h
    refine ⟨fun kind => ?_, h.attributes⟩
    cases kind with
    | span => exact h.spanNames
    | log => exact h.logBodies
    | metric => exact h.metricNames
  · rintro ⟨hnames, hattributes⟩
    exact ⟨hnames .span, hnames .log, hnames .metric, hattributes⟩

/-- No record is of two kinds, so names for two kinds leave no record. -/
theorem not_satisfiedBy_of_two_kinds {selection : Selection} {kind kind' : Record.Kind}
    (hne : kind ≠ kind') (h : selection.namesOf kind ≠ []) (h' : selection.namesOf kind' ≠ [])
    (record : Record) : ¬ selection.SatisfiedBy record := by
  rw [satisfiedBy_iff]
  rintro ⟨hnames, -⟩
  have hkind : kind = record.kind := (hnames kind h).1
  have hkind' : kind' = record.kind := (hnames kind' h').1
  exact hne (hkind.trans hkind'.symm)

theorem satisfiedBy_of_empty {selection : Selection} (hnames : ∀ kind, selection.namesOf kind = [])
    (hattributes : selection.attributes = []) (record : Record) :
    selection.SatisfiedBy record := by
  rw [satisfiedBy_iff]
  refine ⟨fun kind hne => absurd (hnames kind) hne, fun criterion hcriterion => ?_⟩
  rw [hattributes] at hcriterion
  exact absurd hcriterion List.not_mem_nil

/-- Two selections list the same names and criteria, whatever the order and however often, and
compare them in the same way. -/
structure ListsSame (selection other : Selection) : Prop where
  matchKind : selection.matchKind = other.matchKind
  names : ∀ kind name, name ∈ selection.namesOf kind ↔ name ∈ other.namesOf kind
  attributes : ∀ criterion, criterion ∈ selection.attributes ↔ criterion ∈ other.attributes

theorem ListsSame.symm {selection other : Selection} (h : selection.ListsSame other) :
    other.ListsSame selection where
  matchKind := h.matchKind.symm
  names := fun kind name => (h.names kind name).symm
  attributes := fun criterion => (h.attributes criterion).symm

theorem ListsSame.satisfiedBy {selection other : Selection} {record : Record}
    (hsame : selection.ListsSame other) (h : selection.SatisfiedBy record) :
    other.SatisfiedBy record := by
  rw [satisfiedBy_iff] at h ⊢
  obtain ⟨hnames, hattributes⟩ := h
  rw [← hsame.matchKind]
  constructor
  · intro kind hne
    obtain ⟨name, hname⟩ := List.exists_mem_of_ne_nil _ hne
    have hlisted : selection.namesOf kind ≠ [] :=
      List.ne_nil_of_mem ((hsame.names kind name).mpr hname)
    obtain ⟨hkind, hselects⟩ := hnames kind hlisted
    exact ⟨hkind, hselects.of_subset fun name hname => (hsame.names kind name).mp hname⟩
  · intro criterion hcriterion
    exact hattributes criterion ((hsame.attributes criterion).mpr hcriterion)

/-- Neither the order of names and criteria nor repeating them matters. -/
theorem ListsSame.satisfiedBy_iff {selection other : Selection} (h : selection.ListsSame other)
    (record : Record) : selection.SatisfiedBy record ↔ other.SatisfiedBy record :=
  ⟨h.satisfiedBy, h.symm.satisfiedBy⟩

/-- What is asked about a selection that may be absent is asked about one that lists the same. -/
theorem forall_mem_congr_of_listsSame {selection? other? : Option Selection}
    (h : selection?.Rel ListsSame other?) (P : Prop → Prop) (record : Record) :
    (∀ selection ∈ selection?, P (selection.SatisfiedBy record)) ↔
      ∀ other ∈ other?, P (other.SatisfiedBy record) := by
  cases h with
  | none => simp
  | some h => simp [h.satisfiedBy_iff]

end Config.Selection

namespace Matcher

open Processor (compileSelection)

/-- A selection that may be absent compiles to a matcher that is absent with it. -/
theorem compileSelection_cases {place : Field} {selection? : Option Selection}
    {matcher? : Option Matcher} (h : compileSelection place selection? = .ok matcher?) :
    (selection? = none ∧ matcher? = none) ∨
      ∃ selection matcher, selection? = some selection ∧ matcher? = some matcher ∧
        ∀ record, matcher.isMatch record = true ↔ selection.SatisfiedBy record := by
  cases selection? with
  | none =>
    obtain rfl := Except.ok.inj h
    exact .inl ⟨rfl, rfl⟩
  | some selection =>
    obtain ⟨matcher, hmatcher, rfl⟩ := Except.map_eq_ok_iff.mp h
    exact .inr ⟨selection, matcher, rfl, rfl, isMatch_iff hmatcher⟩

/-- What is included has to be satisfied and what is excluded must not be, where there is
something. -/
theorem selects_iff_of_compile {place place' : Field} {included excluded : Option Selection}
    {i e : Option Matcher} (hi : compileSelection place included = .ok i)
    (he : compileSelection place' excluded = .ok e) (record : Record) :
    selects i e record = true ↔
      (∀ selection ∈ included, selection.SatisfiedBy record) ∧
        ∀ selection ∈ excluded, ¬ selection.SatisfiedBy record := by
  have hincluded : i.all (·.isMatch record) = true ↔
      ∀ selection ∈ included, selection.SatisfiedBy record := by
    rcases compileSelection_cases hi with ⟨rfl, rfl⟩ | ⟨selection, matcher, rfl, rfl, hiff⟩
    · simp
    · simp [hiff]
  have hexcluded : e.any (·.isMatch record) = false ↔
      ∀ selection ∈ excluded, ¬ selection.SatisfiedBy record := by
    rcases compileSelection_cases he with ⟨rfl, rfl⟩ | ⟨selection, matcher, rfl, rfl, hiff⟩
    · simp
    · simp [← hiff]
  rw [selects, Bool.and_eq_true, Bool.not_eq_true', hincluded, hexcluded]

/-- A record is selected exactly if it satisfies what is included, where there is something to
include, and does not satisfy what is excluded. A selection that lists names for two kinds is
satisfied by no record, one that lists nothing by every record, and only which names and criteria
are listed matters, not in which order or how often. -/
theorem selects_iff_satisfied {place place' : Field} {included excluded : Option Selection}
    {i e : Option Matcher} (hi : compileSelection place included = .ok i)
    (he : compileSelection place' excluded = .ok e) :
    (∀ record, selects i e record = true ↔
      (∀ selection ∈ included, selection.SatisfiedBy record) ∧
        ∀ selection ∈ excluded, ¬ selection.SatisfiedBy record) ∧
    (∀ (selection : Selection) (kind kind' : Record.Kind), kind ≠ kind' →
      selection.namesOf kind ≠ [] → selection.namesOf kind' ≠ [] →
        ∀ record, ¬ selection.SatisfiedBy record) ∧
    (∀ selection : Selection, (∀ kind, selection.namesOf kind = []) →
      selection.attributes = [] → ∀ record, selection.SatisfiedBy record) ∧
    ∀ (other other' : Option Selection) (i' e' : Option Matcher),
      compileSelection place other = .ok i' → compileSelection place' other' = .ok e' →
        included.Rel Selection.ListsSame other → excluded.Rel Selection.ListsSame other' →
          ∀ record, selects i' e' record = selects i e record := by
  refine ⟨selects_iff_of_compile hi he, fun _ _ _ hne h h' => ?_, fun _ hnames hattributes => ?_,
    fun other other' i' e' hi' he' hsame hsame' record => ?_⟩
  · exact Selection.not_satisfiedBy_of_two_kinds hne h h'
  · exact Selection.satisfiedBy_of_empty hnames hattributes
  · have hincluded := Selection.forall_mem_congr_of_listsSame hsame id record
    have hexcluded := Selection.forall_mem_congr_of_listsSame hsame' Not record
    rw [Bool.eq_iff_iff, selects_iff_of_compile hi' he', selects_iff_of_compile hi he]
    exact (and_congr hincluded hexcluded).symm

/-- Spans of two services are included by pattern, those that are not to be touched excluded. -/
theorem selects_iff_satisfied_twoServices :
    ∃ i e,
      compileSelection (.named "include")
          (some { matchKind := .regexp, spanNames := ["checkout/.*", "pay"] }) = .ok i ∧
        compileSelection (.named "exclude")
          (some { matchKind := .strict, attributes := [⟨"redact", some "false"⟩] }) = .ok e ∧
        ∀ record, selects i e record = true ↔
          ({ matchKind := .regexp, spanNames := ["checkout/.*", "pay"] } : Selection).SatisfiedBy
              record ∧
            ¬ ({ matchKind := .strict, attributes := [⟨"redact", some "false"⟩] } :
              Selection).SatisfiedBy record := by
  obtain ⟨i, hi⟩ := Except.exists_of_isOk (x := compileSelection (.named "include")
    (some { matchKind := .regexp, spanNames := ["checkout/.*", "pay"] })) (by decide +kernel)
  obtain ⟨e, he⟩ := Except.exists_of_isOk (x := compileSelection (.named "exclude")
    (some { matchKind := .strict, attributes := [⟨"redact", some "false"⟩] })) (by decide +kernel)
  refine ⟨i, e, hi, he, fun record => ?_⟩
  simpa using (selects_iff_satisfied hi he).1 record

end Matcher

end Telemetry
