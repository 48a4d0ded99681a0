import Telemetry.Proofs.Compiling
import Telemetry.Proofs.Keyed
import Telemetry.Schema.Decode

/-!
# Members and fields

A struct is read from an object member by member, in whatever order they stand. Where the keys of
the object differ from each other, that comes to this: each field has the value of the member with
its name, or its default where there is none, and a strict struct has no other members. Main
statement: `decode_object_eq_ok_iff`.
-/

namespace Telemetry.Schema

open Json (Mismatch)

namespace Fields

/-! ## One member -/

/-- What is known of fields after one more member. -/
def step (fields : Fields) (strict : Bool) (slots : fields.Slots) (member : String × Json) :
    Except Mismatch fields.Slots :=
  match fields.put? member.1 member.2 slots with
  | some result => result
  | none => if strict then .error (.unknownField member.1 fields.names) else .ok slots

/-- What is known of fields after some members: the values of those that have a member, and what
was known before of the others. -/
def Filled : (fields : Fields) → fields.Slots → List (String × Json) → fields.Slots → Prop
  | .nil, _, _, _ => True
  | .cons name _ shape rest, (before, befores), members, (slot, slots) =>
    (match Keyed.get? name members with
      | some j => ∃ d, shape.decode j = .ok d ∧ slot = some d
      | none => slot = before) ∧
      rest.Filled befores members slots

theorem filled_nil_iff {fields : Fields} {before slots : fields.Slots} :
    fields.Filled before [] slots ↔ slots = before := by
  match fields, before, slots with
  | .nil, (), () => simp [Filled]
  | .cons _ _ _ rest, (before, befores), (slot, slots) =>
    simp [Filled, @filled_nil_iff rest]

/-- A member that no field is named for fills none. -/
theorem filled_cons_of_notMem {fields : Fields} {key : String} (hkey : key ∉ fields.names)
    (j : Json) {before slots : fields.Slots} {members : List (String × Json)} :
    fields.Filled before ((key, j) :: members) slots ↔ fields.Filled before members slots := by
  match fields, before, slots with
  | .nil, _, _ => exact Iff.rfl
  | .cons name _ _ rest, (before, befores), (slot, slots) =>
    obtain ⟨hne, hrest⟩ := List.ne_and_not_mem_of_not_mem_cons hkey
    simp only [Filled, Keyed.get?_cons, if_neg (Ne.symm hne), filled_cons_of_notMem hrest j]

theorem put?_eq_none_iff {fields : Fields} {key : String} {j : Json} {slots : fields.Slots} :
    fields.put? key j slots = none ↔ key ∉ fields.names := by
  match fields, slots with
  | .nil, _ => simp [put?, names]
  | .cons name _ _ rest, (slot, slots) =>
    by_cases hkey : key = name
    · simp [put?, names, hkey]
    · simp [put?, names, hkey, @put?_eq_none_iff rest]

theorem mem_names_of_put? {fields : Fields} {key : String} {j : Json} {slots : fields.Slots}
    {result : Except Mismatch fields.Slots} (h : fields.put? key j slots = some result) :
    key ∈ fields.names := by
  by_contra hunknown
  rw [put?_eq_none_iff.mpr hunknown] at h
  cases h

/-- A member that fits its field is put into the first slot, or into one of the others. -/
theorem put?_cons_eq_ok_cases {name key : String} {presence : Presence} {shape : Shape}
    {rest : Fields} {j : Json} {slot slot' : Option shape.Data} {slots slots' : rest.Slots}
    (h : (Fields.cons name presence shape rest).put? key j (slot, slots) =
      some (.ok (slot', slots'))) :
    (key = name ∧ (∃ d, shape.decode j = .ok d ∧ slot' = some d) ∧ slots' = slots) ∨
      (key ≠ name ∧ slot' = slot ∧ rest.put? key j slots = some (.ok slots')) := by
  rw [put?] at h
  split at h
  · next heq =>
    obtain ⟨d, hd, hslots⟩ := Except.map_eq_ok_iff.mp (Option.some.inj h)
    obtain ⟨rfl, rfl⟩ := Prod.mk.inj hslots
    exact .inl ⟨heq, ⟨d, hd, rfl⟩, rfl⟩
  · next hne =>
    obtain ⟨result, hresult, hmap⟩ := Option.map_eq_some_iff.mp h
    obtain ⟨_, rfl, hslots⟩ := Except.map_eq_ok_iff.mp hmap
    obtain ⟨rfl, rfl⟩ := Prod.mk.inj hslots
    exact .inr ⟨hne, rfl, hresult⟩

/-- A member that does not fit its field leaves nothing to be known. -/
theorem not_filled_of_put_error {fields : Fields} {key : String} {j : Json}
    {before slots : fields.Slots} {e : Mismatch} (hput : fields.put? key j before = some (.error e))
    (members : List (String × Json)) : ¬ fields.Filled before ((key, j) :: members) slots := by
  match fields, before, slots with
  | .nil, _, _ => cases hput
  | .cons name _ shape rest, (before, befores), (slot, slots) =>
    rintro ⟨hslot, hrest⟩
    rw [put?] at hput
    split at hput
    · next hkey =>
      have herror := Except.map_eq_error_iff.mp (Option.some.inj hput)
      simp [Keyed.get?_cons, hkey, herror] at hslot
    · obtain ⟨result, hresult, hmap⟩ := Option.map_eq_some_iff.mp hput
      rw [Except.map_eq_error_iff] at hmap
      exact not_filled_of_put_error (hmap ▸ hresult) members hrest

/-- A member that fits its field fills that one and no other. -/
theorem filled_cons_of_put_ok {fields : Fields} {key : String} {j : Json}
    {before before' slots : fields.Slots} (hput : fields.put? key j before = some (.ok before'))
    (hnames : fields.names.Nodup) {members : List (String × Json)}
    (hkey : key ∉ Keyed.keys members) :
    fields.Filled before ((key, j) :: members) slots ↔ fields.Filled before' members slots := by
  match fields, before, before', slots with
  | .nil, _, _, _ => cases hput
  | .cons name _ shape rest, (before, befores), (before', befores'), (slot, slots) =>
    obtain ⟨hname, hrest⟩ := List.nodup_cons.mp hnames
    rcases put?_cons_eq_ok_cases hput with ⟨rfl, ⟨d, hd, rfl⟩, rfl⟩ | ⟨hne, rfl, hresult⟩
    · simp [Filled, Keyed.get?_cons, Keyed.get?_eq_none_of_notMem hkey, hd,
        filled_cons_of_notMem hname]
    · simp only [Filled, Keyed.get?_cons, if_neg (Ne.symm hne),
        filled_cons_of_put_ok hresult hrest hkey]

/-! ## All members -/

/-- Going through the members of an object fills the fields, and notices unknown members where they
are refused. -/
theorem foldlM_step_eq_ok_iff {fields : Fields} (hnames : fields.names.Nodup) {strict : Bool}
    {members : List (String × Json)} (hkeys : (Keyed.keys members).Nodup)
    {before slots : fields.Slots} :
    members.foldlM (fields.step strict) before = .ok slots ↔
      (strict → Keyed.keys members ⊆ fields.names) ∧ fields.Filled before members slots := by
  induction members generalizing before with
  | nil =>
    simp only [List.foldlM_nil, Except.pure_eq_ok_iff, filled_nil_iff]
    simp [eq_comm]
  | cons member members ih =>
    obtain ⟨key, j⟩ := member
    obtain ⟨hkey, hrest⟩ := List.nodup_cons.mp hkeys
    rw [List.foldlM_cons, Except.bind_eq_ok_iff, Keyed.keys_cons, List.cons_subset, step]
    -- no field has the key of the first member, or the one that has it takes its value or does not
    cases hput : fields.put? key j before with
    | none =>
      have hunknown := put?_eq_none_iff.mp hput
      cases strict with
      | true => simp [hunknown]
      | false => simp [ih hrest, filled_cons_of_notMem hunknown]
    | some result =>
      have hknown := mem_names_of_put? hput
      cases result with
      | error e => simp [not_filled_of_put_error hput]
      | ok before' => simp [ih hrest, hknown, filled_cons_of_put_ok hput hnames hkey]

/-- The values that members give to fields: the value of the member with the name of the field, or
the default where there is none. -/
def Decodes : (fields : Fields) → List (String × Json) → fields.Data → Prop
  | .nil, _, _ => True
  | .cons name presence shape rest, members, (d, ds) =>
    (match Keyed.get? name members with
      | some j => shape.decode j = .ok d
      | none => presence.missing? shape = some d) ∧
      rest.Decodes members ds

theorem complete_cons_eq_ok_iff {name : String} {presence : Presence} {shape : Shape}
    {rest : Fields} {slot : Option shape.Data} {slots : rest.Slots} {d : shape.Data}
    {ds : rest.Data} :
    (Fields.cons name presence shape rest).complete (slot, slots) = .ok (d, ds) ↔
      slot.or (presence.missing? shape) = some d ∧ rest.complete slots = .ok ds := by
  rw [complete]
  cases slot.or (presence.missing? shape) with
  | none => simp
  | some d' => cases rest.complete slots <;> simp

/-- The fields that members fill are completed with the defaults of the others. -/
theorem exists_filled_complete_iff {fields : Fields} {members : List (String × Json)}
    {d : fields.Data} :
    (∃ slots, fields.Filled fields.vacant members slots ∧ fields.complete slots = .ok d) ↔
      fields.Decodes members d := by
  match fields, d with
  | .nil, () => exact ⟨fun _ => trivial, fun _ => ⟨(), trivial, rfl⟩⟩
  | .cons name presence shape rest, (d, ds) =>
    rw [Decodes, ← @exists_filled_complete_iff rest]
    constructor
    · rintro ⟨⟨slot, slots⟩, ⟨hslot, hfilled⟩, hcomplete⟩
      obtain ⟨hd, hds⟩ := complete_cons_eq_ok_iff.mp hcomplete
      refine ⟨?_, slots, hfilled, hds⟩
      cases hget : Keyed.get? name members with
      | none =>
        obtain rfl : slot = none := by simpa [hget] using hslot
        simpa using hd
      | some j =>
        obtain ⟨d', hd', rfl⟩ : ∃ d, shape.decode j = .ok d ∧ slot = some d := by
          simpa [hget] using hslot
        obtain rfl : d' = d := by simpa using hd
        exact hd'
    · rintro ⟨hfirst, slots, hfilled, hcomplete⟩
      cases hget : Keyed.get? name members with
      | none =>
        rw [hget] at hfirst
        exact ⟨(none, slots), ⟨by rw [hget], hfilled⟩,
          complete_cons_eq_ok_iff.mpr ⟨by simpa using hfirst, hcomplete⟩⟩
      | some j =>
        rw [hget] at hfirst
        exact ⟨(some d, slots), ⟨by rw [hget]; exact ⟨d, hfirst, rfl⟩, hfilled⟩,
          complete_cons_eq_ok_iff.mpr ⟨rfl, hcomplete⟩⟩

end Fields

theorem decode_object (name : String) (strict : Bool) (fields : Fields)
    (members : List (String × Json)) :
    (Shape.struct name strict fields).decode (.object members) =
      (members.foldlM (fields.step strict) fields.vacant >>= fun slots =>
        (fields.complete slots).mapError .missingField) := by
  rw [Shape.decode]
  dsimp only
  split
  · next e he =>
    have he : members.foldlM (fields.step strict) fields.vacant = .error e := he
    rw [he]
    rfl
  · next slots hslots =>
    have hslots : members.foldlM (fields.step strict) fields.vacant = .ok slots := hslots
    rw [hslots]
    change _ = (fields.complete slots).mapError Mismatch.missingField
    cases fields.complete slots with
    | error missing => rfl
    | ok d => rfl

/-- A struct is read from an object with keys of its own exactly if each field has a value and, in a
strict struct, each member has a field. -/
theorem decode_object_eq_ok_iff {name : String} {strict : Bool} {fields : Fields}
    (hnames : fields.names.Nodup) {members : List (String × Json)}
    (hkeys : (Keyed.keys members).Nodup) {d : fields.Data} :
    (Shape.struct name strict fields).decode (.object members) = .ok d ↔
      (strict → Keyed.keys members ⊆ fields.names) ∧ fields.Decodes members d := by
  rw [decode_object, Except.bind_eq_ok_iff, ← Fields.exists_filled_complete_iff]
  simp only [Fields.foldlM_step_eq_ok_iff hnames hkeys, Except.mapError_eq_ok_iff, and_assoc,
    exists_and_left]

/-- What is not `null` is read as a value that is there. -/
theorem Shape.decode_optional_of_ne_null {shape : Shape} {j : Json} (h : j ≠ .null) :
    (Shape.optional shape).decode j = (shape.decode j).map some := by
  rw [Shape.decode]
  exact h

end Telemetry.Schema
