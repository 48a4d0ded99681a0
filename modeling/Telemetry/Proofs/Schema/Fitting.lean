import Telemetry.Proofs.Schema.Members

/-!
# What an exact shape accepts

A shape is exact if its structs refuse members that they do not know and if a missing member stands
for an empty list or for nothing. A value is accepted for such a shape exactly if it fits: every
member is known, everything is of the right type, and nothing that is required is missing, at every
depth. This is said of values whose structs are objects and whose choices are strings, the plain
ones; there is one other way to write each. Main statement: `Shape.exists_decode_iff_fits`.
-/

namespace Telemetry

/-! ## Values -/

/-- A value whose objects, at every depth, have their members in the order of the keys, each key
once. That is how `Json.ofMembers` makes objects, and the reader of texts. -/
inductive Json.Sorted : Json → Prop where
  | null : Sorted .null
  | bool (b : Bool) : Sorted (.bool b)
  | number (n : Json.Number) : Sorted (.number n)
  | string (s : String) : Sorted (.string s)
  | array {items : List Json} : (∀ item ∈ items, Sorted item) → Sorted (.array items)
  | object {members : List (String × Json)} : Keyed.Ascending members →
      (∀ m ∈ members, Sorted m.2) → Sorted (.object members)

attribute [simp] Json.Sorted.null Json.Sorted.bool Json.Sorted.number Json.Sorted.string

@[simp] theorem Json.sorted_array_iff {items : List Json} :
    Sorted (.array items) ↔ ∀ item ∈ items, Sorted item := by
  constructor
  · rintro ⟨⟩
    assumption
  · exact .array

@[simp] theorem Json.sorted_object_iff {members : List (String × Json)} :
    Sorted (.object members) ↔ Keyed.Ascending members ∧ ∀ m ∈ members, Sorted m.2 := by
  constructor
  · rintro ⟨⟩
    exact ⟨‹_›, ‹_›⟩
  · exact fun h => .object h.1 h.2

theorem Json.Sorted.of_get? {members : List (String × Json)} (h : Sorted (.object members))
    {key : String} {j : Json} (hj : Keyed.get? key members = some j) : Sorted j :=
  (Json.sorted_object_iff.mp h).2 _ (Keyed.mem_of_get? hj)

theorem Json.Sorted.nodup_keys {members : List (String × Json)} (h : Sorted (.object members)) :
    (Keyed.keys members).Nodup :=
  (Json.sorted_object_iff.mp h).1.nodup_keys

namespace Schema

/-! ## Shapes -/

/-- Whether a missing member, where one may be missing, stands for an empty list that is always
written or for a value that is absent and is not written. -/
def Presence.exact : Presence → Shape → Bool
  | .required, _ => true
  | .defaulted, .list _ => true
  | .omitted, .optional _ => true
  | _, _ => false

mutual

/-- Whether the structs of a shape refuse members that they do not know, name their fields apart,
and write what they have read. -/
def Shape.exact : Shape → Bool
  | .any | .text | .choice _ => true
  | .timestamp | .textMap => false
  | .optional shape | .list shape => shape.exact
  | .struct _ strict fields => strict && decide fields.names.Nodup && fields.exact

/-- Whether fields write what they have read. -/
def Fields.exact : Fields → Bool
  | .nil => true
  | .cons _ presence shape rest => presence.exact shape && shape.exact && rest.exact

end

mutual

/-- A value that has no array where the shape has a struct, and no object where it has a choice:
these can be written in two ways. -/
def Shape.Plain : Shape → Json → Prop
  | .choice _, j => ∀ members, j ≠ .object members
  | .optional shape, j => shape.Plain j
  | .list shape, j => ∀ items, j = .array items → ∀ item ∈ items, shape.Plain item
  | .struct _ _ fields, j =>
    (∀ items, j ≠ .array items) ∧ ∀ members, j = .object members → fields.Plain members
  | .any, _ | .text, _ | .timestamp, _ | .textMap, _ => True

/-- Members with plain values, where fields are named for them. -/
def Fields.Plain : Fields → List (String × Json) → Prop
  | .nil, _ => True
  | .cons name _ shape rest, members =>
    (∀ j, Keyed.get? name members = some j → shape.Plain j) ∧ rest.Plain members

end

mutual

/-- A value of the right type at every depth, without unknown members and with all that are
required. -/
def Shape.Fits : Shape → Json → Prop
  | .any, _ => True
  | .text, j => ∃ s, j = .string s
  | .timestamp, j => ∃ s t, j = .string s ∧ Timestamp.parse s.toList = .ok t
  | .choice names, j => ∃ name ∈ names, j = .string name
  | .optional shape, j => j = .null ∨ shape.Fits j
  | .list shape, j => ∃ items, j = .array items ∧ ∀ item ∈ items, shape.Fits item
  | .textMap, j => ∃ members, j = .object members ∧ ∀ m ∈ members, ∃ s, m.2 = .string s
  | .struct _ _ fields, j =>
    ∃ members, j = .object members ∧ Keyed.keys members ⊆ fields.names ∧ fields.Fit members

/-- Members with fitting values for the fields that they are named for, and none missing that is
required. -/
def Fields.Fit : Fields → List (String × Json) → Prop
  | .nil, _ => True
  | .cons name presence shape rest, members =>
    (∀ j, Keyed.get? name members = some j → shape.Fits j) ∧
      (Keyed.get? name members = none → presence ≠ .required) ∧ rest.Fit members

end

/-! ## Accepted values -/

theorem exists_choose_iff {names : List String} {name : String} :
    (∃ i, choose names name = .ok i) ↔ name ∈ names := by
  rw [choose]
  cases hfound : names.finIdxOf? name with
  | none => simpa using List.finIdxOf?_eq_none_iff.mp hfound
  | some i =>
    obtain ⟨hi, -⟩ := List.finIdxOf?_eq_some_iff.mp hfound
    simp [← hi]

theorem exists_decodeChoice_iff {names : List String} {j : Json}
    (hplain : ∀ members, j ≠ .object members) :
    (∃ i, decodeChoice names j = .ok i) ↔ ∃ name ∈ names, j = .string name := by
  cases j with
  | string name => simpa [decodeChoice] using exists_choose_iff
  | object members => exact absurd rfl (hplain members)
  | _ => simp [decodeChoice]

/-- A missing member of an exact field has a default unless it is required. -/
theorem Presence.exists_missing?_iff {presence : Presence} {shape : Shape}
    (h : presence.exact shape = true) :
    (∃ d, presence.missing? shape = some d) ↔ presence ≠ .required := by
  cases presence with
  | required => simp [Presence.missing?]
  | defaulted =>
    cases shape with
    | list shape => simp [Presence.missing?, Shape.default?]
    | _ => cases h
  | omitted =>
    cases shape with
    | optional shape => simp [Presence.missing?, Shape.default?]
    | _ => cases h

mutual

/-- An exact shape accepts the values that fit it. -/
theorem Shape.exists_decode_iff_fits : ∀ (shape : Shape), shape.exact = true → ∀ j : Json,
    j.Sorted → shape.Plain j → ((∃ d, shape.decode j = .ok d) ↔ shape.Fits j)
  | .any, _, j, _, _ => ⟨fun _ => trivial, fun _ => ⟨j, rfl⟩⟩
  | .text, _, j, _, _ => by
    cases j <;> simp [Shape.decode, decodeText, Shape.Fits]
  | .timestamp, h, _, _, _ | .textMap, h, _, _, _ => by cases h
  | .choice names, _, j, _, hplain => exists_decodeChoice_iff hplain
  | .optional shape, h, j, hsorted, hplain => by
    have ih := shape.exists_decode_iff_fits h j hsorted hplain
    by_cases hnull : j = .null
    · exact ⟨fun _ => .inl hnull, fun _ => ⟨none, hnull ▸ rfl⟩⟩
    · rw [Shape.decode_optional_of_ne_null hnull, Except.exists_map_eq_ok_iff, ih, Shape.Fits]
      exact (or_iff_right hnull).symm
  | .list shape, h, j, hsorted, hplain => by
    cases j with
    | array items =>
      have ih (item : Json) (hitem : item ∈ items) :=
        shape.exists_decode_iff_fits h item (Json.sorted_array_iff.mp hsorted item hitem)
          (hplain items rfl item hitem)
      rw [Shape.decode, Except.exists_mapM_eq_ok_iff, forall₂_congr ih]
      simp [Shape.Fits]
    | _ => simp [Shape.decode, Shape.Fits]
  | .struct name strict fields, h, j, hsorted, hplain => by
    obtain ⟨hstrict, hfields⟩ := Bool.and_eq_true_iff.mp h
    obtain ⟨hstrict, hnames⟩ := Bool.and_eq_true_iff.mp hstrict
    cases j with
    | object members =>
      have ih := fields.exists_decodes_iff_fit hfields members (fun hj => hsorted.of_get? hj)
        (hplain.2 members rfl)
      have hdecode := @decode_object_eq_ok_iff name strict fields (of_decide_eq_true hnames) members
        hsorted.nodup_keys
      simp [hdecode, Shape.Fits, hstrict, ih]
    | array items => exact absurd rfl (hplain.1 items)
    | _ => simp [Shape.decode, Shape.Fits]

theorem Fields.exists_decodes_iff_fit : ∀ (fields : Fields), fields.exact = true →
    ∀ members : List (String × Json), (∀ {key j}, Keyed.get? key members = some j → j.Sorted) →
      fields.Plain members → ((∃ d, fields.Decodes members d) ↔ fields.Fit members)
  | .nil, _, _, _, _ => ⟨fun _ => trivial, fun _ => ⟨(), trivial⟩⟩
  | .cons name presence shape rest, h, members, hsorted, hplain => by
    obtain ⟨hfirst, hrest⟩ := Bool.and_eq_true_iff.mp h
    obtain ⟨hpresence, hshape⟩ := Bool.and_eq_true_iff.mp hfirst
    rw [Fields.Fit, ← rest.exists_decodes_iff_fit hrest members hsorted hplain.2]
    have decodes (j : Json) (hj : Keyed.get? name members = some j) :=
      shape.exists_decode_iff_fits hshape j (hsorted hj) (hplain.1 j hj)
    constructor
    · rintro ⟨⟨d, ds⟩, hfirst, hds⟩
      refine ⟨fun j hj => ?_, fun hnone => ?_, ds, hds⟩
      · rw [hj] at hfirst
        exact (decodes j hj).mp ⟨d, hfirst⟩
      · rw [hnone] at hfirst
        exact (Presence.exists_missing?_iff hpresence).mp ⟨d, hfirst⟩
    · rintro ⟨hfits, hmissing, ds, hds⟩
      cases hget : Keyed.get? name members with
      | none =>
        obtain ⟨d, hd⟩ := (Presence.exists_missing?_iff hpresence).mpr (hmissing hget)
        exact ⟨(d, ds), by rw [hget]; exact hd, hds⟩
      | some j =>
        obtain ⟨d, hd⟩ := (decodes j hget).mpr (hfits j hget)
        exact ⟨(d, ds), by rw [hget]; exact hd, hds⟩

end

end Schema

end Telemetry
