import Telemetry.Proofs.Extracting
import Telemetry.Proofs.Failing
import Telemetry.Proofs.Templating

/-!
# What a relabeling makes of a record

A relabeling goes in two steps. Of its rules only the first counts that occurs in the subject of the
record: what its groups capture is written to the attributes, and the subject becomes the templated
one. If a new subject is to be made of attributes, it is made of what the first step left. Main
statement: `apply_of_compile`.
-/

namespace Telemetry

open Config (Field)

/-! ## The rule that counts -/

namespace Config.Relabeling

/-- A rule, as it is configured, does not occur in a subject. -/
def AbsentFrom (subject source : String) : Prop :=
  ∀ rule, Pattern.compile .search source = .ok rule → ¬ rule.OccursIn subject

/-- The rules as they are configured, in order. -/
def sources (config : Relabeling) : List String :=
  match config.toAttributes with
  | none => []
  | some rules => rules.rules

/-- Of the configured rules, this is the first that occurs in a subject. -/
def FirstOccurring (config : Relabeling) (subject source : String) : Prop :=
  ∃ i, config.sources.FirstFailing (AbsentFrom subject) i source

/-- Whether a rule occurs is what a search for it tells. -/
theorem absentFrom_iff {source : String} {rule : Pattern}
    (h : Pattern.compile .search source = .ok rule) (subject : String) :
    AbsentFrom subject source ↔ rule.isMatch subject = false := by
  rw [← Bool.not_eq_true, Pattern.isMatch_search_iff h]
  simp [AbsentFrom, h]

end Config.Relabeling

open Config.Relabeling (AbsentFrom absentFrom_iff)

namespace Relabeler

variable {field : Field} {config : Config.Relabeling} {relabeler : Relabeler}

theorem applyRule_eq_none_iff {source : String} {rule : Pattern}
    (h : Pattern.compile .search source = .ok rule) (subject : String) :
    applyRule rule subject = none ↔ AbsentFrom subject source := by
  simp [absentFrom_iff h, applyRule, Pattern.isMatch, Regex.isMatch]

/-- The rules of a compiled relabeling are the configured ones. -/
theorem forall₂_of_compile (h : compile field config = .ok relabeler) :
    List.Forall₂ (fun source rule => Pattern.compile .search source = .ok rule) config.sources
      relabeler.rules := by
  obtain ⟨-, -, hrules⟩ := compile_eq_ok_iff.mp h
  have hcompiled := compileRules_eq_ok_iff.mp hrules
  rw [Config.Relabeling.sources]
  cases hsection : config.toAttributes with
  | none =>
    rw [hsection] at hcompiled
    rw [hcompiled]
    exact .nil
  | some rules =>
    rw [hsection] at hcompiled
    refine (Field.forall₂_of_compileItems hcompiled.2).imp fun source rule hplace => ?_
    obtain ⟨place, hrule⟩ := hplace
    exact (compileRule_eq_ok_iff.mp hrule).1

section Search

variable {sources : List String} {rules : List Pattern} {subject : String}

/-- If no rule occurs, none is applied. -/
theorem findSome?_eq_none_of_absent
    (hrules : List.Forall₂ (fun s r => Pattern.compile .search s = .ok r) sources rules)
    (h : ∀ source ∈ sources, AbsentFrom subject source) :
    rules.findSome? (applyRule · subject) = none := by
  refine List.findSome?_eq_none_iff.mpr fun rule hrule => ?_
  obtain ⟨source, hsource, hcompile⟩ := hrules.exists_of_mem_right hrule
  exact (applyRule_eq_none_iff hcompile subject).mpr (h source hsource)

/-- The first rule that occurs is applied, whatever stands behind it. -/
theorem findSome?_eq_of_firstFailing
    (hrules : List.Forall₂ (fun s r => Pattern.compile .search s = .ok r) sources rules) {i : Nat}
    {source : String} {rule : Pattern} (h : sources.FirstFailing (AbsentFrom subject) i source)
    (hrule : Pattern.compile .search source = .ok rule) :
    rules.findSome? (applyRule · subject) = applyRule rule subject := by
  induction hrules generalizing i with
  | nil => exact absurd h List.not_firstFailing_nil
  | @cons s r sources rules hcompile _ ih =>
    rw [List.findSome?_cons]
    by_cases hs : AbsentFrom subject s
    · obtain ⟨i, -, h⟩ := (List.firstFailing_cons_of hs).mp h
      rw [(applyRule_eq_none_iff hcompile subject).mpr hs]
      exact ih h
    · obtain ⟨-, rfl⟩ := (List.firstFailing_cons_of_not hs).mp h
      obtain rfl := Except.ok.inj (hrule.symm.trans hcompile)
      cases happlied : applyRule rule subject with
      | none => exact absurd ((applyRule_eq_none_iff hrule subject).mp happlied) hs
      | some _ => rfl

end Search

/-! ## The first step -/

/-- What a rule makes of a record in whose subject it occurs: the groups that take part in its first
match are written to the attributes, and the subject becomes the templated one. -/
def Moves (rule : Pattern) (record moved : Record) : Prop :=
  let text := record.subject.toList.toArray
  ∃ m, rule.regex.firstMatch text = some m ∧ rule.regex.node.Finds text 0 m ∧
    Action.Written rule.regex.namedGroups record.subject m record.attributes moved.attributes ∧
    moved = { record with attributes := moved.attributes }.withSubject
      (String.ofList ((parts text.size 0 (placed 0 (groupSpans rule m))).flatMap (Part.chars text)))

/-- What the rules of a relabeling make of a record: the first one that occurs in its subject moves
what its groups capture, and if none does, the record stays as it is. -/
inductive FirstStep (config : Config.Relabeling) (record : Record) : Record → Prop where
  | moves {source : String} {rule : Pattern} {moved : Record} :
      config.FirstOccurring record.subject source → Pattern.compile .search source = .ok rule →
      Moves rule record moved → FirstStep config record moved
  | stays : (∀ source ∈ config.sources, AbsentFrom record.subject source) →
      FirstStep config record record

/-- What a rule extracts is what its groups capture. -/
theorem map_groupSpans (rule : Pattern) (text : Array Char) (m : Regex.Match) :
    (groupSpans rule m).map (fun (name, span) => (name, span.textIn text)) =
      rule.captures text m := by
  simp [groupSpans, Pattern.captures, List.map_filterMap, Function.comp_def]

/-- What a rule makes of a subject in which it occurs. -/
theorem applyRule_of_firstMatch {rule : Pattern} {subject : String} {m : Regex.Match}
    (hm : rule.regex.firstMatch subject.toList.toArray = some m) :
    let text := subject.toList.toArray
    applyRule rule subject = some (rule.captures text m,
      String.ofList
        ((parts text.size 0 (placed 0 (groupSpans rule m))).flatMap (Part.chars text))) := by
  intro text
  rw [applyRule, hm, ← templated_eq_parts, ← map_groupSpans]
  rfl

theorem finds_of_firstMatch {source : String} {rule : Pattern}
    (h : Pattern.compile .search source = .ok rule) {text : Array Char} {m : Regex.Match}
    (hm : rule.regex.firstMatch text = some m) : rule.regex.node.Finds text 0 m := by
  obtain ⟨n, hn, rfl⟩ := Pattern.exists_node_of_compile h
  obtain ⟨_, _, hnumbered⟩ := Regex.Node.numbered_of_parse hn
  exact Regex.finds_of_matchFrom hnumbered.one_le hm

theorem moves_applyRules {sources : List String} {rules : List Pattern} {record : Record} {i : Nat}
    {source : String} {rule : Pattern}
    (hrules : List.Forall₂ (fun s r => Pattern.compile .search s = .ok r) sources rules)
    (h : sources.FirstFailing (AbsentFrom record.subject) i source)
    (hrule : Pattern.compile .search source = .ok rule) :
    Moves rule record (applyRules rules record) := by
  have hoccurs : applyRule rule record.subject ≠ none :=
    mt (applyRule_eq_none_iff hrule record.subject).mp h.not
  have hfound := findSome?_eq_of_firstFailing hrules h hrule
  cases hm : rule.regex.firstMatch record.subject.toList.toArray with
  | none => exact absurd (by simp [applyRule, hm]) hoccurs
  | some m =>
    rw [applyRule_of_firstMatch hm] at hfound
    rw [applyRules, hfound]
    refine ⟨m, hm, finds_of_firstMatch hrule hm, ?_, by simp⟩
    simpa using Action.written_insertMany_captures (Pattern.nodup_groupNames hrule) record.subject m
      record.attributes

theorem firstStep_applyRules (h : compile field config = .ok relabeler) (record : Record) :
    FirstStep config record (applyRules relabeler.rules record) := by
  have hrules := forall₂_of_compile h
  by_cases habsent : ∀ source ∈ config.sources, AbsentFrom record.subject source
  · have hsame : applyRules relabeler.rules record = record := by
      rw [applyRules, findSome?_eq_none_of_absent hrules habsent]
    rw [hsame]
    exact .stays habsent
  · obtain ⟨i, source, hfirst⟩ := List.exists_firstFailing (by simpa using habsent)
    obtain ⟨rule, -, hrule⟩ := hrules.exists_of_mem_left hfirst.mem
    exact .moves ⟨i, hfirst⟩ hrule (moves_applyRules hrules hfirst hrule)

/-- Relabelings with the same first rule that occurs do the same in the first step. -/
theorem applyRules_congr {field' : Field} {config' : Config.Relabeling} {relabeler' : Relabeler}
    (h : compile field config = .ok relabeler) (h' : compile field' config' = .ok relabeler')
    {record : Record} {source : String} (hfirst : config.FirstOccurring record.subject source)
    (hfirst' : config'.FirstOccurring record.subject source) :
    applyRules relabeler'.rules record = applyRules relabeler.rules record := by
  obtain ⟨i, hfirst⟩ := hfirst
  obtain ⟨i', hfirst'⟩ := hfirst'
  obtain ⟨rule, -, hrule⟩ := (forall₂_of_compile h).exists_of_mem_left hfirst.mem
  rw [applyRules, applyRules, findSome?_eq_of_firstFailing (forall₂_of_compile h) hfirst hrule,
    findSome?_eq_of_firstFailing (forall₂_of_compile h') hfirst' hrule]

/-! ## The second step -/

/-- What a subject is made of, as it is configured. -/
theorem join_of_compile (h : compile field config = .ok relabeler) :
    relabeler.join = config.fromAttributes.map (fun keys => ⟨keys, config.separator.getD ""⟩) := by
  obtain ⟨-, hjoin, -⟩ := compile_eq_ok_iff.mp h
  rw [Join.compile] at hjoin
  cases hkeys : config.fromAttributes with
  | none | some _ =>
    simp only [hkeys] at hjoin
    split at hjoin
    · cases hjoin
    · exact (Except.ok.inj hjoin).symm

/-- The rules of a relabeling do their step first: of them only the first that occurs in the subject
of the record counts, whatever stands before and behind it. Then the new subject is made of the
attributes that this step left, which stay as they are. -/
theorem apply_of_compile (h : compile field config = .ok relabeler) (record : Record) :
    (∃ moved, FirstStep config record moved ∧
      (config.fromAttributes = none → relabeler.apply record = moved) ∧
      ∀ keys, config.fromAttributes = some keys →
        relabeler.apply record = moved.withSubject ((config.separator.getD "").intercalate
          (keys.map (fun key => (moved.attributes.get? key).getD ""))) ∧
        (relabeler.apply record).attributes = moved.attributes) ∧
    ∀ (field' : Field) (config' : Config.Relabeling) (relabeler' : Relabeler) (source : String),
      compile field' config' = .ok relabeler' →
      config'.fromAttributes = config.fromAttributes → config'.separator = config.separator →
      config.FirstOccurring record.subject source → config'.FirstOccurring record.subject source →
      relabeler'.apply record = relabeler.apply record := by
  have hjoin := join_of_compile h
  refine ⟨⟨_, firstStep_applyRules h record, fun hnone => ?_, fun keys hkeys => ?_⟩,
    fun field' config' relabeler' source h' hkeys hseparator hfirst hfirst' => ?_⟩
  · rw [hnone] at hjoin
    rw [apply, hjoin]
    rfl
  · rw [hkeys] at hjoin
    rw [apply, hjoin]
    exact ⟨rfl, by simp⟩
  · have hjoin' := join_of_compile h'
    rw [hkeys, hseparator, ← hjoin] at hjoin'
    rw [apply, apply, hjoin', applyRules_congr h h' hfirst hfirst']

/-- Takes a request apart. -/
def requestRule : String := "^(?<verb>[A-Z]+) (?<route>.*)$"

/-- Puts the route of a request in front, and behind it once more. -/
def requests (rules : List String) : Config.Relabeling where
  fromAttributes := some ["route", "verb", "route", "host"]
  separator := some " via "
  toAttributes := some ⟨rules⟩

/-- The second rule occurs and the first does not, so it is as if this one were the only one. -/
theorem apply_of_compile_requests :
    let record := Record.span "GET /orders"
    let many := requests ["^POST (?<form>.*)$", requestRule, "(?<all>.*)"]
    ∃ relabeler relabeler' moved, compile (.named "name") many = .ok relabeler ∧
      compile (.named "name") (requests [requestRule]) = .ok relabeler' ∧
      FirstStep many record moved ∧
      relabeler.apply record = moved.withSubject (" via ".intercalate
        (["route", "verb", "route", "host"].map fun key => (moved.attributes.get? key).getD "")) ∧
      relabeler'.apply record = relabeler.apply record ∧
      (relabeler.apply record).subject = "/orders via GET via /orders via " := by
  intro record many
  obtain ⟨relabeler, h, hsubject⟩ := Except.exists_of_any (x := compile (.named "name") many)
    (P := fun relabeler =>
      decide ((relabeler.apply record).subject = "/orders via GET via /orders via "))
    (by decide +kernel)
  obtain ⟨relabeler', h'⟩ := Except.exists_of_isOk
    (x := compile (.named "name") (requests [requestRule])) (by decide +kernel)
  obtain ⟨other, hother, hmisses⟩ := Except.exists_of_any
    (x := Pattern.compile .search "^POST (?<form>.*)$")
    (P := fun rule => !rule.isMatch record.subject) (by decide +kernel)
  obtain ⟨rule, hrule, hmatches⟩ := Except.exists_of_any
    (x := Pattern.compile .search requestRule) (P := fun rule => rule.isMatch record.subject)
    (by decide +kernel)
  have habsent : AbsentFrom record.subject "^POST (?<form>.*)$" := by
    rw [absentFrom_iff hother]
    simpa using hmisses
  have hoccurs : ¬ AbsentFrom record.subject requestRule := by
    rw [absentFrom_iff hrule, hmatches]
    decide
  obtain ⟨⟨moved, hmoved, -, hjoined⟩, hsame⟩ := apply_of_compile h record
  obtain ⟨happly, -⟩ := hjoined _ rfl
  refine ⟨relabeler, relabeler', moved, h, h', hmoved, happly, ?_, of_decide_eq_true hsubject⟩
  exact hsame _ _ relabeler' requestRule h' rfl rfl
    ⟨1, ["^POST (?<form>.*)$"], ["(?<all>.*)"], rfl, rfl, by simpa using habsent, hoccurs⟩
    ⟨0, [], [], rfl, rfl, by simp, hoccurs⟩

end Relabeler

end Telemetry
