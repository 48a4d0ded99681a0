import Telemetry.Proofs.Failing
import Telemetry.Proofs.Schema.WrittenOut

/-!
# Reading documents exactly

Every configuration is read back from what it is written as (`ofJson_encode`). The other way round,
a document that is accepted is written back as it stands, but for options that are `null` and lists
that are missing, and it is accepted exactly if every member is known and of the right type, at
every depth (`encode_of_ofJson`).
-/

namespace Telemetry

open Schema

namespace Config

/-! ## In one step -/

theorem decode_json_list_iff {j : Json} {entries : List Json} :
    Form.json.list.decode j = .ok entries ↔ j = .array entries := by
  rw [Form.decode_list_eq_ok_iff]
  have hany (item : Json) : Form.json.decode item = .ok item := rfl
  simp [hany, Except.ok.injEq, List.forall₂_eq_eq_eq]

/-- Entries that are read one by one are read as a list. -/
theorem exists_readEntries_iff {j : Json} {configs : List Processor} :
    (∃ entries, Form.json.list.decode j = .ok entries ∧ readEntries 0 entries = .ok configs) ↔
      Processor.form.list.decode j = .ok configs := by
  rw [Form.decode_list_eq_ok_iff]
  simp only [decode_json_list_iff, readEntries_eq_ok_iff]

/-- An object with a list of processors, or without, and with nothing else. -/
theorem decode_single_list_iff {α : Type} {form : Form α} {name key : String}
    {members : List (String × Json)} (hkeys : (Keyed.keys members).Nodup) {as : List α} :
    (Shape.struct name true (.cons key .defaulted form.list.shape .nil)).decode (.object members) =
        .ok (form.list.toData as, ()) ↔
      Keyed.keys members ⊆ [key] ∧
        match Keyed.get? key members with
        | some j => form.list.decode j = .ok as
        | none => as = [] := by
  rw [decode_object_eq_ok_iff (by simp [Fields.names]) hkeys]
  cases hget : Keyed.get? key members with
  | some j =>
    simp [Fields.Decodes, Fields.names, hget, Form.decode_eq_ok_iff]
  | none =>
    have hdefault : Presence.defaulted.missing? form.list.shape = some (form.list.toData as) ↔
        as = [] := by
      change some [] = some (as.map form.toData) ↔ as = []
      simp [eq_comm]
    simp [Fields.Decodes, Fields.names, hget, hdefault]

theorem decode_outline_object_iff {members : List (String × Json)}
    (hkeys : (Keyed.keys members).Nodup) {entries : List Json} :
    outline.decode (.object members) = .ok entries ↔
      Keyed.keys members ⊆ ["processors"] ∧
        match Keyed.get? "processors" members with
        | some j => j = .array entries
        | none => entries = [] := by
  have houtline : outline.decode (.object members) = .ok entries ↔ _ :=
    Form.decode_eq_ok_iff.trans (@decode_single_list_iff _ Form.json _ _ _ hkeys entries)
  simpa only [decode_json_list_iff] using houtline

/-- A document that is read in two steps is read as one in a single step. -/
theorem ofJson_eq_ok_iff {members : List (String × Json)} (hkeys : (Keyed.keys members).Nodup)
    {c : Config} : ofJson (.object members) = .ok c ↔ form.decode (.object members) = .ok c := by
  have hsteps : ofJson (.object members) = .ok c ↔ ∃ entries,
      outline.decode (.object members) = .ok entries ∧
        readEntries 0 entries = .ok c.processors := by
    unfold ofJson
    cases outline.decode (.object members) with
    | error e => simp
    | ok entries =>
      obtain ⟨processors⟩ := c
      simp [Except.map_eq_ok_iff]
  have hform : form.decode (.object members) = .ok c ↔ _ :=
    Form.decode_eq_ok_iff.trans (@decode_single_list_iff _ Processor.form _ _ _ hkeys c.processors)
  rw [hsteps, hform]
  simp only [decode_outline_object_iff hkeys]
  cases Keyed.get? "processors" members with
  | some j =>
    simp only [and_assoc, exists_and_left, ← decode_json_list_iff, exists_readEntries_iff]
  | none =>
    simp only [and_assoc, exists_and_left, exists_eq_left, readEntries, Except.ok.injEq]
    exact and_congr_right fun _ => eq_comm

theorem faithful_shape_form : form.shape.faithful = true := by decide +kernel

theorem exact_shape_form : form.shape.exact = true := by decide +kernel

/-- What a configuration is written as is read as that configuration. -/
theorem ofJson_encode (c : Config) : ofJson (form.encode c) = .ok c :=
  (ofJson_eq_ok_iff (Keyed.Ascending.ofList _).nodup_keys).mpr
    (form.decode_encode faithful_shape_form c)

/-! ## Written out -/

/-- A criterion without the options that are `null`. -/
def Criterion.writtenOut : Json → Json := Json.writtenOut ["value"] [] fun _ j => j

/-- A selection with all its lists. -/
def Selection.writtenOut : Json → Json :=
  Json.writtenOut [] ["spanNames", "logBodies", "metricNames", "attributes"] fun key j =>
    if key = "attributes" then j.mapItems Criterion.writtenOut else j

/-- An action without the options that are `null`. -/
def Action.writtenOut : Json → Json :=
  Json.writtenOut ["value", "fromAttribute", "pattern", "groupNames", "replace"] [] fun _ j => j

/-- Rules with their list. -/
def Rules.writtenOut : Json → Json := Json.writtenOut [] ["rules"] fun _ j => j

/-- A relabeling without the options that are `null`. -/
def Relabeling.writtenOut : Json → Json :=
  Json.writtenOut ["fromAttributes", "separator", "toAttributes"] [] fun key j =>
    if key = "toAttributes" then Rules.writtenOut j else j

/-- A processor without the sections that are `null`. -/
def Processor.writtenOut : Json → Json :=
  Json.writtenOut ["include", "exclude", "actions", "body", "name"] [] fun key j =>
    if key = "include" ∨ key = "exclude" then Selection.writtenOut j
    else if key = "actions" then j.mapItems Action.writtenOut
    else if key = "body" ∨ key = "name" then Relabeling.writtenOut j
    else j

/-- A document with its list of processors, without the options that are `null` and with all the
lists that have to be there, at every depth. -/
def writtenOut : Json → Json :=
  Json.writtenOut [] ["processors"] fun key j =>
    if key = "processors" then j.mapItems Processor.writtenOut else j

theorem Criterion.writtenOut_shape : Criterion.form.shape.writtenOut = Criterion.writtenOut := by
  refine Shape.writtenOut_struct fun key j => ?_
  simp [Fields.writtenOut, Shape.writtenOut]

theorem Selection.writtenOut_shape : Selection.form.shape.writtenOut = Selection.writtenOut := by
  refine Shape.writtenOut_struct fun key j => ?_
  simp only [Fields.writtenOut, MatchKind.form, Form.list, Shape.writtenOut, Json.mapItems_self,
    Criterion.writtenOut_shape]
  grind

theorem Action.writtenOut_shape : Action.form.shape.writtenOut = Action.writtenOut := by
  refine Shape.writtenOut_struct fun key j => ?_
  simp [Fields.writtenOut, ActionKind.form, Shape.writtenOut, Json.mapItems_self]

theorem Rules.writtenOut_shape : Rules.form.shape.writtenOut = Rules.writtenOut := by
  refine Shape.writtenOut_struct fun key j => ?_
  simp [Fields.writtenOut, Shape.writtenOut, Json.mapItems_self]

theorem Relabeling.writtenOut_shape : Relabeling.form.shape.writtenOut = Relabeling.writtenOut := by
  refine Shape.writtenOut_struct fun key j => ?_
  simp only [Fields.writtenOut, Form.optional, Shape.writtenOut, Json.mapItems_self,
    Rules.writtenOut_shape]
  grind

theorem Processor.writtenOut_shape : Processor.form.shape.writtenOut = Processor.writtenOut := by
  refine Shape.writtenOut_struct fun key j => ?_
  simp only [Fields.writtenOut, ProcessorKind.form, Form.optional, Form.list, Shape.writtenOut,
    Selection.writtenOut_shape, Action.writtenOut_shape, Relabeling.writtenOut_shape]
  grind

theorem writtenOut_shape : form.shape.writtenOut = writtenOut := by
  refine Shape.writtenOut_struct fun key j => ?_
  simp only [Fields.writtenOut, Form.list, Shape.writtenOut, Processor.writtenOut_shape]

/-- Nothing in an accepted document is ignored: it is written back as it stands, written out. A
document is accepted exactly if it fits: every member is known and of the right type, at every
depth, and none that is required is missing. -/
theorem encode_of_ofJson {v : Json} (hsorted : v.Sorted) (hplain : form.shape.Plain v) :
    (∀ c, ofJson v = .ok c → form.encode c = writtenOut v) ∧
      ((∃ c, ofJson v = .ok c) ↔ form.shape.Fits v) := by
  have hdecode (c : Config) : ofJson v = .ok c ↔ form.shape.decode v = .ok (form.toData c) := by
    cases v with
    | object members => exact (ofJson_eq_ok_iff hsorted.nodup_keys).trans Form.decode_eq_ok_iff
    | array items => exact absurd rfl (hplain.1 items)
    | _ => exact iff_of_false (fun h => nomatch h) (fun h => nomatch h)
  refine ⟨fun c h => ?_, ?_⟩
  · rw [← writtenOut_shape]
    exact form.shape.encode_of_decode exact_shape_form v hsorted hplain _ ((hdecode c).mp h)
  · rw [← form.shape.exists_decode_iff_fits exact_shape_form v hsorted hplain]
    constructor
    · rintro ⟨c, h⟩
      exact ⟨_, (hdecode c).mp h⟩
    · rintro ⟨d, h⟩
      exact ⟨form.ofData d, (hdecode _).mpr (by rwa [form.toData_ofData])⟩

/-- A filter for one metric, with the names under a key, and with a section that is `null`. -/
def filtering (key : String) : Json :=
  .object [("processors", .array [.object [
    ("actions", .null),
    ("exclude", .object [("matchType", .string "strict"), (key, .array [.string "debug"])]),
    ("id", .string "filter"),
    ("type", .string "metric-filter")]])]

/-- The filter is accepted and written back without the section, and with all lists; under a
misspelt key it is refused. -/
theorem encode_of_ofJson_filtering :
    (filtering "metricNames").Sorted ∧ form.shape.Plain (filtering "metricNames") ∧
      (∃ c, ofJson (filtering "metricNames") = .ok c ∧
        form.encode c = writtenOut (filtering "metricNames")) ∧
      (filtering "metricName").Sorted ∧ form.shape.Plain (filtering "metricName") ∧
      ¬ ∃ c, ofJson (filtering "metricName") = .ok c := by
  have hsorted (key : String) (hkey : "matchType" < key) : (filtering key).Sorted := by
    have hexclude : Keyed.Ascending
        [("matchType", Json.string "strict"), (key, .array [.string "debug"])] :=
      List.pairwise_pair.mpr hkey
    have hentry : List.Pairwise (· < ·) ["actions", "exclude", "id", "type"] := by decide
    refine .object (List.pairwise_singleton _ _) (List.forall_mem_singleton.mpr
      (.array (List.forall_mem_singleton.mpr (.object (List.pairwise_map.mp hentry) ?_))))
    simp [hexclude]
  have hplain (key : String) : form.shape.Plain (filtering key) := by
    simp [filtering, form, Processor.form, Form.list, Form.optional, Selection.form, Criterion.form,
      ProcessorKind.form, MatchKind.form, Shape.Plain, Fields.Plain, Keyed.get?]
  have hunfit : ¬ form.shape.Fits (filtering "metricName") := by
    simp [filtering, form, Processor.form, Form.list, Form.optional, Selection.form,
      Shape.Fits, Fields.Fit, Fields.names, Keyed.get?]
  obtain ⟨c, hc⟩ := Except.exists_of_isOk (x := ofJson (filtering "metricNames"))
    (by decide +kernel)
  exact ⟨hsorted _ (by decide), hplain _,
    ⟨c, hc, (encode_of_ofJson (hsorted _ (by decide)) (hplain _)).1 c hc⟩,
    hsorted _ (by decide), hplain _,
    fun haccepted => hunfit ((encode_of_ofJson (hsorted _ (by decide)) (hplain _)).2.mp haccepted)⟩

end Config

end Telemetry
