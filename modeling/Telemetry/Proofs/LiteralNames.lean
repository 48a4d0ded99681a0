import Telemetry.Proofs.Regex.Literal
import Telemetry.Proofs.Selecting

/-!
# Literal names

Names and values without metacharacters may be compared in either way, as texts that have to be
equal or as patterns that have to match a whole text: both ways compile, and they select the same
records. Main statement: `Matcher.exists_agreeing_comparedBy`.
-/

namespace Telemetry

open Config (Field MatchKind Criterion Selection)

/-- A pattern without metacharacters that is not too long. -/
structure Pattern.IsLiteral (source : String) : Prop where
  chars : Regex.IsLiteral source.toList
  length : source.utf8ByteSize ≤ maxBytes

instance (source : String) : Decidable (Pattern.IsLiteral source) :=
  decidable_of_iff (Regex.IsLiteral source.toList ∧ source.utf8ByteSize ≤ Pattern.maxBytes)
    ⟨fun h => ⟨h.1, h.2⟩, fun h => ⟨h.chars, h.length⟩⟩

theorem Pattern.IsLiteral.compiles {source : String} (h : IsLiteral source) :
    Compiles .full source :=
  ⟨_, (compile_literal h.chars h.length).2⟩

namespace Config

/-- Literal names select the subjects that are among them, however they are compared. -/
theorem MatchKind.selects_iff_mem {names : List String} (h : ∀ name ∈ names, Pattern.IsLiteral name)
    (matchKind : MatchKind) (subject : String) :
    matchKind.Selects names subject ↔ subject ∈ names := by
  cases matchKind with
  | strict => rfl
  | regexp =>
    have hcompile {source : String} (hsource : source ∈ names) :=
      (Pattern.compile_literal (h source hsource).chars (h source hsource).length).1
    constructor
    · rintro ⟨source, hsource, pattern, hpattern, hwhole⟩
      obtain rfl := Except.ok.inj ((hcompile hsource).symm.trans hpattern)
      obtain rfl := Pattern.matchesWhole_ofChars_iff.mp hwhole
      exact hsource
    · intro hsubject
      exact ⟨subject, hsubject, _, hcompile hsubject, Pattern.matchesWhole_ofChars_iff.mpr rfl⟩

theorem MatchKind.admits_iff_mem {names : List String} (h : ∀ name ∈ names, Pattern.IsLiteral name)
    (matchKind : MatchKind) (kind : Record.Kind) (record : Record) :
    matchKind.Admits names kind record ↔
      (names ≠ [] → kind = record.kind ∧ record.subject ∈ names) := by
  rw [Admits, selects_iff_mem h]

theorem Criterion.metBy_iff_eq {criterion : Criterion}
    (h : ∀ value ∈ criterion.value, Pattern.IsLiteral value) (matchKind : MatchKind)
    (attributes : Attributes) :
    criterion.MetBy matchKind attributes ↔
      ∃ actual, attributes.get? criterion.key = some actual ∧
        ∀ value ∈ criterion.value, actual = value := by
  refine exists_congr fun actual => and_congr_right fun _ => forall₂_congr fun value hvalue => ?_
  rw [MatchKind.selects_iff_mem (by simpa using h value hvalue), List.mem_singleton]

namespace Selection

/-- The selection with what it lists compared in the given way. -/
def comparedBy (selection : Selection) (matchKind : MatchKind) : Selection :=
  { selection with matchKind }

/-- Every criterion has a key, and all that has to be compared is literal. -/
structure IsLiteral (selection : Selection) : Prop where
  keys : ∀ criterion ∈ selection.attributes, criterion.key ≠ ""
  names : ∀ name ∈ selection.spanNames ++ selection.logBodies ++ selection.metricNames,
    Pattern.IsLiteral name
  values : ∀ criterion ∈ selection.attributes, ∀ value ∈ criterion.value, Pattern.IsLiteral value

namespace IsLiteral

variable {selection : Selection}

theorem compiles (h : selection.IsLiteral) (matchKind : MatchKind) :
    (selection.comparedBy matchKind).Compiles where
  keys := h.keys
  names _ name hname := (h.names name hname).compiles
  values _ criterion hcriterion value hvalue := (h.values criterion hcriterion value hvalue).compiles

/-- What a literal selection asks for does not depend on how its names and values are compared. -/
theorem satisfiedBy (h : selection.IsLiteral) {matchKind : MatchKind} {record : Record}
    (hs : (selection.comparedBy matchKind).SatisfiedBy record) (matchKind' : MatchKind) :
    (selection.comparedBy matchKind').SatisfiedBy record := by
  have hadmits {names : List String} {kind : Record.Kind}
      (hsub : names ⊆ selection.spanNames ++ selection.logBodies ++ selection.metricNames)
      (hs : matchKind.Admits names kind record) : matchKind'.Admits names kind record := by
    have hnames : ∀ name ∈ names, Pattern.IsLiteral name := fun n hn => h.names n (hsub hn)
    rw [MatchKind.admits_iff_mem hnames] at hs ⊢
    exact hs
  constructor
  · exact hadmits (by simp [comparedBy]) hs.spanNames
  · exact hadmits (by simp [comparedBy]) hs.logBodies
  · exact hadmits (by simp [comparedBy]) hs.metricNames
  · intro criterion hcriterion
    have hmet := hs.attributes criterion hcriterion
    have hvalues := h.values criterion hcriterion
    exact (Criterion.metBy_iff_eq hvalues _ _).mpr ((Criterion.metBy_iff_eq hvalues _ _).mp hmet)

end IsLiteral

end Selection

end Config

/-- A literal selection compiles with its names and values as texts and with them as patterns, and
both matchers select the same records. -/
theorem Matcher.exists_agreeing_comparedBy (field : Field) {selection : Selection}
    (h : selection.IsLiteral) (hlimit : (selection.comparedBy .regexp).WithinLimit) :
    ∃ strict regexp, compile field (selection.comparedBy .strict) = .ok strict ∧
      compile field (selection.comparedBy .regexp) = .ok regexp ∧
      ∀ record, strict.isMatch record = regexp.isMatch record := by
  have hlimit' : (selection.comparedBy .strict).WithinLimit := nofun
  obtain ⟨strict, hstrict⟩ := (exists_compile_eq_ok_iff field hlimit').mpr (h.compiles _)
  obtain ⟨regexp, hregexp⟩ := (exists_compile_eq_ok_iff field hlimit).mpr (h.compiles _)
  refine ⟨strict, regexp, hstrict, hregexp, fun record => Bool.eq_iff_iff.mpr ?_⟩
  rw [isMatch_iff hstrict, isMatch_iff hregexp]
  exact ⟨fun hs => h.satisfiedBy hs _, fun hs => h.satisfiedBy hs _⟩

/-- Logs from a café, in one tier or with no tier named, that have a trace. -/
def cafeLogs : Selection where
  matchKind := .strict
  logBodies := ["café", ""]
  attributes := [⟨"tier", some "a b"⟩, ⟨"trace", none⟩]

theorem Matcher.exists_agreeing_comparedBy_cafeLogs :
    cafeLogs.IsLiteral ∧ (cafeLogs.comparedBy .regexp).WithinLimit ∧
      ∃ strict regexp,
        compile (.named "include") (cafeLogs.comparedBy .strict) = .ok strict ∧
          compile (.named "include") (cafeLogs.comparedBy .regexp) = .ok regexp ∧
          ∀ record, strict.isMatch record = regexp.isMatch record := by
  have hliteral : cafeLogs.IsLiteral := ⟨by decide, by decide +kernel, by decide +kernel⟩
  have hlimit : (cafeLogs.comparedBy .regexp).WithinLimit := by
    intro _ names hnames
    simp only [List.mem_cons, List.not_mem_nil, or_false] at hnames
    rcases hnames with rfl | rfl | rfl <;> exact PatternSet.withinLimit_of_isOk (by decide +kernel)
  exact ⟨hliteral, hlimit, exists_agreeing_comparedBy _ hliteral hlimit⟩

end Telemetry
