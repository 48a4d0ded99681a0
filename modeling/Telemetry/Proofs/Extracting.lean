import Telemetry.Proofs.Acceptance
import Telemetry.Proofs.Captures
import Telemetry.Proofs.Touches

/-!
# What an extraction puts under the names of groups

An extraction takes the captures from the value of its attribute as it was, and puts them into the
attributes: what stands under a name afterwards is what is captured under it, or else what stood
there (`get?_apply_extract`). So the groups that take part are what is written
(`extract_writes_captures`), and the source stays as it is unless a group with its name captures
something else (`extract_keeps_source_iff`).
-/

namespace Telemetry.Action

open Config (Field)
open Regex

variable {key : String} {pattern : Pattern}

/-- What an extraction captures under a name: what the group of that name covers in the match in the
value of the attribute. -/
def captured? (key : String) (pattern : Pattern) (attributes : Attributes) (name : String) :
    Option String :=
  (attributes.get? key).bind fun value =>
    (pattern.regex.firstMatch value.toList.toArray).bind fun m =>
      pattern.capture? value.toList.toArray m name

/-- What is captured is looked up in the attributes as they were, and goes before what stood there
under its name. -/
theorem get?_apply_extract (hnames : pattern.groupNames.Nodup) (attributes : Attributes)
    (name : String) :
    ((Action.extract key pattern).apply attributes).get? name =
      (captured? key pattern attributes name).or (attributes.get? name) := by
  rw [captured?]
  cases hvalue : attributes.get? key with
  | none => simp [apply, hvalue]
  | some value =>
    cases hm : pattern.regex.firstMatch value.toList.toArray with
    | none => simp [apply, hvalue, extracted, hm, Attributes.insertMany]
    | some m =>
      have hkeys := Pattern.nodup_keys_captures hnames value.toList.toArray m
      simp only [apply, hvalue, extracted, hm, Option.bind_some]
      rw [Attributes.get?_insertMany hkeys, Pattern.get?_captures hnames]

/-- An extraction that compiles has the pattern that is configured, anchored. -/
theorem exists_full_of_compile_extract {field : Field} {config : Config.Action}
    (h : compile field config = .ok (.extract key pattern)) :
    config.key = key ∧
      ∃ source, config.pattern = some source ∧ Pattern.compile .full source = .ok pattern := by
  obtain ⟨-, -, h⟩ := compile_eq_ok_iff.mp h
  cases hkind : config.kind with
  | extract =>
    rw [hkind] at h
    obtain ⟨_, hpattern, -, heq⟩ := h
    obtain ⟨hkey, rfl⟩ : config.key = key ∧ _ = pattern := by simpa using heq
    obtain ⟨source, hsource, hfull, -⟩ := compilePattern_eq_ok_iff.mp hpattern
    exact ⟨hkey, source, hsource, hfull⟩
  | insert | update | delete | hash | mask => simp [hkind] at h

theorem nodup_groupNames_of_compile_extract {field : Field} {config : Config.Action}
    (h : compile field config = .ok (.extract key pattern)) : pattern.groupNames.Nodup := by
  obtain ⟨-, _, -, hfull⟩ := exists_full_of_compile_extract h
  exact Pattern.nodup_groupNames hfull

/-- Every pattern with named groups makes an extraction. -/
theorem compile_extract {field : Field} {source : String} (hkey : key ≠ "")
    (hpattern : Pattern.compile .full source = .ok pattern) (hnames : pattern.groupNames ≠ []) :
    compile field { kind := .extract, key := key, pattern := some source } =
      .ok (.extract key pattern) := by
  refine compile_eq_ok_iff.mpr ⟨hkey, rfl, pattern, ?_, hnames, rfl⟩
  exact compilePattern_eq_ok_iff.mpr ⟨source, rfl, hpattern, by simp [Config.Action.GroupsAgree]⟩

/-- What an action leaves of the attributes of a record, it leaves of the record. -/
theorem alter_eq_self {action : Action} {record : Record}
    (h : action.apply record.attributes = record.attributes) : action.alter record = record := by
  rw [alter, h]

/-! ## What is written -/

/-- The captures of a match in a value are what is written: a group that takes part is put under its
name, and what stands under the name of another group, or under no group's name, stays there. -/
structure Written (groups : List (Nat × String)) (value : String) (m : Match)
    (before after : Attributes) : Prop where
  captured : ∀ i name span, (i, name) ∈ groups → m.group? i = some span →
    after.get? name = some (span.textIn value.toList.toArray)
  passed : ∀ i name, (i, name) ∈ groups → m.group? i = none →
    after.get? name = before.get? name
  other : ∀ name, name ∉ groups.map (·.2) → after.get? name = before.get? name

/-- To put in the captures of a match is to write them. -/
theorem written_insertMany_captures (hnames : pattern.groupNames.Nodup) (value : String)
    (m : Match) (attributes : Attributes) :
    Written pattern.regex.namedGroups value m attributes
      (attributes.insertMany (pattern.captures value.toList.toArray m)) := by
  have hget (name : String) :
      (attributes.insertMany (pattern.captures value.toList.toArray m)).get? name =
        (pattern.capture? value.toList.toArray m name).or (attributes.get? name) := by
    rw [Attributes.get?_insertMany (Pattern.nodup_keys_captures hnames _ m),
      Pattern.get?_captures hnames]
  refine ⟨fun i name span hg hspan => ?_, fun i name hg hspan => ?_, fun name hname => ?_⟩
  · rw [hget, Pattern.capture?_of_mem hnames hg, hspan]
    rfl
  · rw [hget, Pattern.capture?_of_mem hnames hg, hspan]
    rfl
  · rw [hget, Pattern.capture?_of_notMem hname]
    rfl

theorem written_apply_extract (hnames : pattern.groupNames.Nodup) {attributes : Attributes}
    {value : String} {m : Match} (hvalue : attributes.get? key = some value)
    (hm : pattern.regex.firstMatch value.toList.toArray = some m) :
    Written pattern.regex.namedGroups value m attributes
      ((Action.extract key pattern).apply attributes) := by
  have hwritten := written_insertMany_captures hnames value m attributes
  simpa only [apply, hvalue, extracted, hm] using hwritten

/-- An extraction writes the captures of the value that it finds, and nothing else. It has the
groups of the pattern that is configured, and writes nothing unless that pattern can match the whole
value. -/
theorem extract_writes_captures {field : Field} {config : Config.Action}
    (h : compile field config = .ok (.extract key pattern)) (record : Record) :
    ∃ source alone, config.key = key ∧ config.pattern = some source ∧
      Pattern.compile .search source = .ok alone ∧
      ((∀ value, record.attributes.get? key = some value → ¬ alone.MatchesWhole value) →
        (Action.extract key pattern).alter record = record) ∧
      ∀ value, record.attributes.get? key = some value → alone.MatchesWhole value →
        ∃ m attributes, pattern.regex.firstMatch value.toList.toArray = some m ∧
          m.whole.start = 0 ∧ m.whole.stop = value.toList.length ∧ m.Encloses ∧
          (Action.extract key pattern).alter record = { record with attributes := attributes } ∧
          Written alone.regex.namedGroups value m record.attributes attributes := by
  obtain ⟨hkey, source, hsource, hfull⟩ := exists_full_of_compile_extract h
  obtain ⟨alone, halone, hgroups, hmatches, hwhole⟩ := Pattern.firstMatch_full hfull
  have hnames : pattern.groupNames.Nodup := Pattern.nodup_groupNames hfull
  refine ⟨source, alone, hkey, hsource, halone, fun hnot => ?_, fun value hvalue hmatch => ?_⟩
  · refine alter_eq_self (Attributes.ext_get? fun name => ?_)
    rw [get?_apply_extract hnames, captured?]
    cases hvalue : record.attributes.get? key with
    | none => rfl
    | some value =>
      have hnone : pattern.regex.firstMatch value.toList.toArray = none := by
        have hfails := mt (hmatches value).mp (hnot value hvalue)
        simpa [Pattern.isMatch, Regex.isMatch] using hfails
      simp [hnone]
  · have hfound := (hmatches value).mpr hmatch
    obtain ⟨m, hm⟩ := Option.isSome_iff_exists.mp hfound
    obtain ⟨hstart, hstop, hencloses⟩ := hwhole _ m hm
    refine ⟨m, _, hm, hstart, hstop, hencloses, rfl, ?_⟩
    rw [← hgroups]
    exact written_apply_extract hnames hvalue hm

/-- An extraction of the host of an address, and of its scheme if it has one. -/
def hostExtraction : Config.Action :=
  { kind := .extract, key := "url", pattern := some "(?:(?<scheme>[a-z]+)://)?(?<host>[a-z.]+)" }

/-- A group that does not take part leaves what stands under its name. -/
theorem extract_writes_captures_hostExtraction :
    let record := ((Record.span "s").withAttribute "url" "shop.example").withAttribute "scheme" "-"
    ∃ pattern alone m attributes,
      compile ((Field.named "actions").item 0) hostExtraction = .ok (.extract "url" pattern) ∧
        Pattern.compile .search "(?:(?<scheme>[a-z]+)://)?(?<host>[a-z.]+)" = .ok alone ∧
        alone.MatchesWhole "shop.example" ∧
        (Action.extract "url" pattern).alter record = { record with attributes := attributes } ∧
        Written alone.regex.namedGroups "shop.example" m record.attributes attributes ∧
        attributes.get? "host" = some "shop.example" ∧ attributes.get? "scheme" = some "-" := by
  intro record
  obtain ⟨pattern, hpattern, hP⟩ := Except.exists_of_any
    (x := Pattern.compile .full "(?:(?<scheme>[a-z]+)://)?(?<host>[a-z.]+)")
    (P := fun pattern => decide (pattern.groupNames ≠ [] ∧
      ((Action.extract "url" pattern).apply record.attributes).get? "host" = some "shop.example" ∧
      ((Action.extract "url" pattern).apply record.attributes).get? "scheme" = some "-"))
    (by decide +kernel)
  obtain ⟨hnames, hhost, hscheme⟩ := of_decide_eq_true hP
  have hcompile : compile ((Field.named "actions").item 0) hostExtraction =
      .ok (.extract "url" pattern) := compile_extract (by decide) hpattern hnames
  obtain ⟨source, alone, -, hsource, halone, hnot, hwrites⟩ :=
    extract_writes_captures hcompile record
  obtain rfl := Option.some.inj hsource
  have hwhole : alone.MatchesWhole "shop.example" := by
    by_contra hfails
    have hsame : (Action.extract "url" pattern).apply record.attributes = record.attributes := by
      refine congrArg Record.attributes (hnot ?_)
      rintro _ ⟨⟩
      exact hfails
    rw [hsame] at hhost
    exact absurd hhost (by decide)
  obtain ⟨m, attributes, -, -, -, -, halter, hwritten⟩ := hwrites "shop.example" rfl hwhole
  have hattributes : (Action.extract "url" pattern).apply record.attributes = attributes :=
    congrArg Record.attributes halter
  rw [hattributes] at hhost hscheme
  exact ⟨pattern, alone, m, attributes, hcompile, halone, hwhole, halter, hwritten, hhost, hscheme⟩

/-! ## The source -/

/-- Where nothing else is captured under the key, the value that is matched stays as it is. -/
theorem get?_apply_extract_key_iff (hnames : pattern.groupNames.Nodup) (attributes : Attributes) :
    ((Action.extract key pattern).apply attributes).get? key = attributes.get? key ↔
      ∀ text ∈ captured? key pattern attributes key, attributes.get? key = some text := by
  rw [get?_apply_extract hnames]
  cases captured? key pattern attributes key with
  | none => simp
  | some text => simp [eq_comm]

/-- Where the source stays as it is, the captures of a second extraction are those of the first. -/
theorem apply_apply_extract (hnames : pattern.groupNames.Nodup) {attributes : Attributes}
    (hkept : ((Action.extract key pattern).apply attributes).get? key = attributes.get? key) :
    (Action.extract key pattern).apply ((Action.extract key pattern).apply attributes) =
      (Action.extract key pattern).apply attributes := by
  refine Attributes.ext_get? fun name => ?_
  -- the second extraction finds the value that the first one found
  have hsame : captured? key pattern ((Action.extract key pattern).apply attributes) name =
      captured? key pattern attributes name := by
    rw [captured?, hkept, captured?]
  rw [get?_apply_extract hnames, hsame, get?_apply_extract hnames]
  cases captured? key pattern attributes name <;> simp

/-- An extraction leaves all under whose name nothing is captured. Its source is among that unless a
group with the name of the key captures something else than the whole value, and if it is kept, to
extract once more changes nothing. -/
theorem extract_keeps_source_iff {field : Field} {config : Config.Action}
    (h : compile field config = .ok (.extract key pattern)) (record : Record) :
    let once := (Action.extract key pattern).alter record
    let twice := (Action.extract key pattern).alter once
    (∀ name, captured? key pattern record.attributes name = none →
      once.attributes.get? name = record.attributes.get? name) ∧
    (once.attributes.get? key = record.attributes.get? key ↔
      ∀ text ∈ captured? key pattern record.attributes key,
        record.attributes.get? key = some text) ∧
    (key ∉ pattern.groupNames → captured? key pattern record.attributes key = none) ∧
    (once.attributes.get? key = record.attributes.get? key → twice = once) := by
  intro once twice
  have hnames := nodup_groupNames_of_compile_extract h
  refine ⟨fun name hnone => ?_, get?_apply_extract_key_iff hnames record.attributes,
    fun hkey => ?_, fun hkept => ?_⟩
  · have hafter : once.attributes.get? name =
        (captured? key pattern record.attributes name).or (record.attributes.get? name) :=
      get?_apply_extract hnames record.attributes name
    rw [hnone] at hafter
    exact hafter
  · simp [captured?, Pattern.capture?_of_notMem hkey]
  · exact alter_eq_self (apply_apply_extract hnames hkept)

/-- No group is named like the address, so it stays as it is. -/
theorem extract_keeps_source_iff_hostExtraction :
    let record := (Record.span "s").withAttribute "url" "https://shop.example"
    ∃ pattern,
      compile ((Field.named "actions").item 0) hostExtraction = .ok (.extract "url" pattern) ∧
        "url" ∉ pattern.groupNames ∧
        let once := (Action.extract "url" pattern).alter record
        once.attributes.get? "host" = some "shop.example" ∧
          once.attributes.get? "url" = some "https://shop.example" ∧
          (Action.extract "url" pattern).alter once = once := by
  intro record
  obtain ⟨pattern, hpattern, hP⟩ := Except.exists_of_any
    (x := Pattern.compile .full "(?:(?<scheme>[a-z]+)://)?(?<host>[a-z.]+)")
    (P := fun pattern => decide (pattern.groupNames ≠ [] ∧ "url" ∉ pattern.groupNames ∧
      ((Action.extract "url" pattern).apply record.attributes).get? "host" = some "shop.example"))
    (by decide +kernel)
  obtain ⟨hnames, hgroup, hhost⟩ := of_decide_eq_true hP
  have hcompile : compile ((Field.named "actions").item 0) hostExtraction =
      .ok (.extract "url" pattern) := compile_extract (by decide) hpattern hnames
  obtain ⟨hframe, -, hnone, htwice⟩ := extract_keeps_source_iff hcompile record
  have hkept := hframe "url" (hnone hgroup)
  exact ⟨pattern, hcompile, hgroup, hhost, hkept, htwice hkept⟩

/-- An extraction of the directory of a path, under the key of the path. -/
def directoryExtraction : Config.Action :=
  { kind := .extract, key := "path", pattern := some "(?<path>.*)/[^/]*" }

/-- A group with the name of the key overwrites the source, and does so again when the extraction is
applied again. -/
theorem extract_overwrites_source :
    let record := (Record.span "s").withAttribute "path" "a/b/c"
    ∃ pattern,
      compile ((Field.named "actions").item 0) directoryExtraction = .ok (.extract "path" pattern) ∧
        let once := (Action.extract "path" pattern).alter record
        let twice := (Action.extract "path" pattern).alter once
        once.attributes.get? "path" = some "a/b" ∧ twice.attributes.get? "path" = some "a" := by
  intro record
  obtain ⟨pattern, hpattern, hP⟩ := Except.exists_of_any
    (x := Pattern.compile .full "(?<path>.*)/[^/]*")
    (P := fun pattern =>
      let once := (Action.extract "path" pattern).alter record
      let twice := (Action.extract "path" pattern).alter once
      decide (pattern.groupNames ≠ [] ∧
        once.attributes.get? "path" = some "a/b" ∧ twice.attributes.get? "path" = some "a"))
    (by decide +kernel)
  obtain ⟨hnames, hpath⟩ := of_decide_eq_true hP
  exact ⟨pattern, compile_extract (by decide) hpattern hnames, hpath⟩

end Telemetry.Action
