import Mathlib.Data.List.Nodup
import Telemetry.Proofs.Compiling
import Telemetry.Proofs.Json.Members
import Telemetry.Proofs.Schema.Members
import Telemetry.Schema.Form

/-!
# Reading shapes from texts that were written

What a shape makes of a value it also reads from the text that is written for the value. A struct
goes through the members in the order in which they stand there, and passes over those that it does
not know. Main statements: `Shape.ReadsBack.object` and `Form.parse_render`.
-/

namespace Telemetry.Schema

open Json (Mismatch Delimits Gathers)

/-- Whether what a shape makes of a value is also read from the text of the value, whatever stands
behind that. -/
def Shape.ReadsBack (shape : Shape) (j : Json) : Prop :=
  ∀ d, shape.decode j = .ok d → ∀ rest, Delimits rest →
    shape.read (j.chars ++ rest) = .ok (d, rest)

/-! ## Texts -/

theorem readText_chars (expected : Json.Expectation) (s : String) (rest : List Char) :
    readText expected ((Json.string s).chars ++ rest) = .ok (s, rest) := by
  rw [Json.chars_string]
  exact Json.readString_chars s rest

theorem decodeText_eq_ok_iff {expected : Json.Expectation} {j : Json} {s : String} :
    decodeText expected j = .ok s ↔ j = .string s := by
  cases j <;> simp [decodeText]

theorem Shape.ReadsBack.text (j : Json) : Shape.text.ReadsBack j := by
  intro s hs rest _
  obtain rfl := decodeText_eq_ok_iff.mp hs
  exact readText_chars .text s rest

theorem Shape.ReadsBack.timestamp (j : Json) : Shape.timestamp.ReadsBack j := by
  intro t ht rest _
  cases htext : decodeText .timestamp j with
  | error e => simp [Shape.decode, decodeTimestamp, htext] at ht
  | ok s =>
    obtain rfl := decodeText_eq_ok_iff.mp htext
    have hparse : Timestamp.parse s.toList = .ok t := by
      simp only [Shape.decode, decodeTimestamp, htext] at ht
      split at ht
      · next heq => exact heq.trans (congrArg Except.ok (Except.ok.inj ht))
      · cases ht
    simp only [Shape.read, readTimestamp, readText_chars, Except.ok_bind, hparse]
    rfl

theorem Shape.ReadsBack.choice (names : List String) (name : String) :
    (Shape.choice names).ReadsBack (.string name) := by
  intro i hi rest _
  have hchoose : choose names name = .ok i := hi
  have hread := Json.readString_chars name rest
  rw [Json.chars_string, Shape.read, List.cons_append]
  generalize Json.stringRest name.toList ++ rest = chars at *
  change readName names chars = _
  simp only [readName, hread, Except.ok_bind, hchoose]
  rfl

theorem Shape.ReadsBack.optional_null (shape : Shape) : (Shape.optional shape).ReadsBack .null := by
  intro d hd rest _
  obtain rfl : none = d := Except.ok.inj hd
  rfl

theorem Shape.ReadsBack.optional_string {shape : Shape} {s : String}
    (h : shape.ReadsBack (.string s)) : (Shape.optional shape).ReadsBack (.string s) := by
  intro d hd rest hrest
  obtain ⟨d, hd', rfl⟩ := Except.map_eq_ok_iff.mp hd
  have hread := h d hd' rest hrest
  rw [Json.chars_string, List.cons_append] at hread ⊢
  change (shape.read _).map _ = _
  rw [hread]
  rfl

/-! ## Objects -/

/-- Texts under keys gather one after another. -/
theorem gathers_of_foldlM {attributes attributes' : Attributes} {members : List (String × Json)}
    (h : members.foldlM
      (fun acc (key, j) => (decodeText .text j).map (fun s => acc.insert key s)) attributes =
        .ok attributes') :
    Gathers (fun key acc text => do
        let (s, rest) ← readText .text (← Json.readColon text)
        return (acc.insert key s, rest)) attributes members attributes' := by
  induction members generalizing attributes with
  | nil =>
    obtain rfl : attributes = attributes' := Except.ok.inj h
    exact .nil attributes
  | cons m members ih =>
    obtain ⟨key, j⟩ := m
    rw [List.foldlM_cons, Except.bind_eq_ok_iff] at h
    obtain ⟨next, hnext, h⟩ := h
    obtain ⟨s, hs, rfl⟩ := Except.map_eq_ok_iff.mp hnext
    obtain rfl := decodeText_eq_ok_iff.mp hs
    refine .cons (fun rest _ => ?_) (ih h)
    have hread := readText_chars .text s rest
    generalize (Json.string s).chars ++ rest = chars at *
    simp only [Json.readColon_cons, Except.ok_bind, hread]
    rfl

theorem Shape.ReadsBack.textMap (j : Json) : Shape.textMap.ReadsBack j := by
  intro attributes h rest _
  match j with
  | .object members =>
    have hread := Json.readObject_chars (gathers_of_foldlM h) rest
    rw [Json.chars_object, Shape.read, List.cons_append, List.append_assoc]
    exact hread
  | .null | .bool _ | .number _ | .string _ | .array _ => cases h

namespace Fields

/-- Whether nothing is known yet of the field that a key names. -/
def Vacant : (fields : Fields) → fields.Slots → String → Prop
  | .nil, _, _ => True
  | .cons name _ _ rest, (slot, slots), key =>
    if key = name then slot = none else rest.Vacant slots key

/-- Whether the field that the key of a member names reads back the value of the member. -/
def ReadsBack : Fields → String → Json → Prop
  | .nil, _, _ => True
  | .cons name _ shape rest, key, j =>
    if key = name then shape.ReadsBack j else rest.ReadsBack key j

theorem vacant_vacant (fields : Fields) (key : String) : fields.Vacant fields.vacant key := by
  match fields with
  | .nil => exact trivial
  | .cons name _ _ rest =>
    rw [Vacant]
    split
    · rfl
    · exact rest.vacant_vacant key

/-- A member fills no slot but its own. -/
theorem Vacant.of_put {fields : Fields} {key other : String} {j : Json}
    {slots slots' : fields.Slots} (hput : fields.put? key j slots = some (.ok slots'))
    (hne : other ≠ key) (h : fields.Vacant slots other) : fields.Vacant slots' other := by
  match fields, slots, slots' with
  | .nil, _, _ => exact trivial
  | .cons name _ shape rest, (slot, slots), (slot', slots') =>
    rw [Vacant] at h ⊢
    rcases put?_cons_eq_ok_cases hput with ⟨rfl, -, rfl⟩ | ⟨-, rfl, hresult⟩
    · rw [if_neg hne] at h ⊢
      exact h
    · split at h
      · next hname => rwa [if_pos hname]
      · next hname =>
        rw [if_neg hname]
        exact h.of_put hresult hne

/-- A member is put into its slot, or there is none and unknown members do not matter. -/
theorem step_eq_ok_cases {fields : Fields} {strict : Bool} {key : String} {j : Json}
    {slots slots' : fields.Slots} (h : fields.step strict slots (key, j) = .ok slots') :
    (key ∈ fields.names ∧ fields.put? key j slots = some (.ok slots')) ∨
      (key ∉ fields.names ∧ strict = false ∧ slots = slots') := by
  rw [step] at h
  cases hput : fields.put? key j slots with
  | some result =>
    simp only [hput] at h
    exact .inl ⟨mem_names_of_put? hput, congrArg some h⟩
  | none =>
    simp only [hput] at h
    cases strict with
    | true => cases h
    | false => exact .inr ⟨put?_eq_none_iff.mp hput, rfl, Except.ok.inj h⟩

/-- A member is read into the slot that its value is put into. -/
theorem readMember?_of_put {fields : Fields} {key : String} {j : Json}
    {slots slots' : fields.Slots} (hput : fields.put? key j slots = some (.ok slots'))
    (hvacant : fields.Vacant slots key) (hread : fields.ReadsBack key j) {rest : List Char}
    (hrest : Delimits rest) :
    fields.readMember? key slots (':' :: (j.chars ++ rest)) = some (.ok (slots', rest)) := by
  match fields, slots, slots' with
  | .nil, _, _ => cases hput
  | .cons name _ shape others, (slot, slots), (slot', slots') =>
    rw [Vacant] at hvacant
    rw [ReadsBack] at hread
    rw [readMember?]
    rcases put?_cons_eq_ok_cases hput with ⟨heq, ⟨d, hd, rfl⟩, rfl⟩ | ⟨hne, rfl, hresult⟩
    · rw [if_pos heq] at hvacant hread ⊢
      subst hvacant
      have hvalue := hread d hd rest hrest
      generalize j.chars ++ rest = chars at *
      simp only [Json.readColon_cons, Except.ok_bind, hvalue]
      rfl
    · rw [if_neg hne] at hvacant hread ⊢
      rw [readMember?_of_put hresult hvacant hread hrest]
      rfl

theorem readMember?_of_notMem {fields : Fields} {key : String} (h : key ∉ fields.names)
    (slots : fields.Slots) (text : List Char) : fields.readMember? key slots text = none := by
  match fields, slots with
  | .nil, _ => rfl
  | .cons name _ _ rest, (slot, slots) =>
    obtain ⟨hne, hrest⟩ := List.ne_and_not_mem_of_not_mem_cons h
    rw [readMember?, if_neg hne, readMember?_of_notMem hrest]
    rfl

/-- How a struct goes on with a member from behind its key. -/
def readStep (fields : Fields) (strict : Bool) (key : String) (slots : fields.Slots)
    (text : List Char) : Except Json.Located (Json.Parsed fields.Slots) :=
  match fields.readMember? key slots text with
  | some result => result
  | none =>
    if strict then .error (misfit (.unknownField key fields.names) (dropBrace text))
    else do return (slots, ← Json.skipValue (← Json.readColon text))

/-- What a member makes of the slots is also made of them by reading it. -/
theorem readStep_of_step {fields : Fields} {strict : Bool} {key : String} {j : Json}
    {slots slots' : fields.Slots} (hstep : fields.step strict slots (key, j) = .ok slots')
    (hvacant : fields.Vacant slots key) (hread : fields.ReadsBack key j) {rest : List Char}
    (hrest : Delimits rest) :
    fields.readStep strict key slots (':' :: (j.chars ++ rest)) = .ok (slots', rest) := by
  rw [readStep]
  rcases step_eq_ok_cases hstep with ⟨-, hput⟩ | ⟨hunknown, rfl, rfl⟩
  · rw [readMember?_of_put hput hvacant hread hrest]
  · have hskip := Json.skipValue_chars j hrest
    rw [readMember?_of_notMem hunknown]
    generalize j.chars ++ rest = chars at *
    simp only [Json.readColon_cons, Except.ok_bind, hskip]
    rfl

/-- The slots stay vacant until the members with their keys come, so none is filled twice. -/
theorem gathers_of_foldlM_step {fields : Fields} {strict : Bool} {members : List (String × Json)}
    (hkeys : (Keyed.keys (members.filter (·.1 ∈ fields.names))).Nodup)
    (hread : ∀ m ∈ members, fields.ReadsBack m.1 m.2)
    {slots slots' : fields.Slots} (hvacant : ∀ m ∈ members, fields.Vacant slots m.1)
    (h : members.foldlM (fields.step strict) slots = .ok slots') :
    Gathers (fields.readStep strict) slots members slots' := by
  induction members generalizing slots with
  | nil =>
    obtain rfl : slots = slots' := Except.ok.inj h
    exact .nil slots
  | cons m members ih =>
    obtain ⟨key, j⟩ := m
    obtain ⟨hreadFirst, hread⟩ := List.forall_mem_cons.mp hread
    obtain ⟨hvacantFirst, hvacant⟩ := List.forall_mem_cons.mp hvacant
    rw [List.foldlM_cons, Except.bind_eq_ok_iff] at h
    obtain ⟨next, hnext, h⟩ := h
    refine .cons (fun rest => readStep_of_step hnext hvacantFirst hreadFirst) (ih ?_ hread ?_ h)
    · refine hkeys.sublist (List.Sublist.map _ (List.Sublist.filter _ ?_))
      exact List.sublist_cons_self (key, j) members
    · intro m hm
      rcases step_eq_ok_cases hnext with ⟨hkey, hput⟩ | ⟨-, -, rfl⟩
      · rw [List.filter_cons_of_pos (by simpa using hkey)] at hkeys
        refine (hvacant m hm).of_put hput fun heq => (List.nodup_cons.mp hkeys).1 ?_
        have hmem : m ∈ members.filter (·.1 ∈ fields.names) :=
          List.mem_filter.mpr ⟨hm, by simpa [heq] using hkey⟩
        exact List.mem_map.mpr ⟨m, hmem, heq⟩
      · exact hvacant m hm

end Fields

/-- An object is read member by member, where the fields have a member each at most. -/
theorem Shape.ReadsBack.object {name : String} {strict : Bool} {fields : Fields}
    {members : List (String × Json)}
    (hkeys : (Keyed.keys (members.filter (·.1 ∈ fields.names))).Nodup)
    (hread : ∀ m ∈ members, fields.ReadsBack m.1 m.2) :
    (Shape.struct name strict fields).ReadsBack (.object members) := by
  intro d hd rest _
  rw [decode_object, Except.bind_eq_ok_iff] at hd
  obtain ⟨slots, hslots, hd⟩ := hd
  have hcomplete : fields.complete slots = .ok d := Except.mapError_eq_ok_iff.mp hd
  have hmembers := Json.readObject_chars (Fields.gathers_of_foldlM_step hkeys hread
    (fun m _ => fields.vacant_vacant m.1) hslots) rest
  rw [Json.chars_object, Shape.read, List.cons_append, List.append_assoc, List.singleton_append]
  generalize Json.listed (members.map Json.memberChars) ++ '}' :: rest = chars at *
  have hspace : Json.skipSpace ('{' :: chars) = '{' :: chars := Json.skipSpace_cons rfl chars
  simp only [hspace]
  refine Except.bind_eq_ok_iff.mpr ⟨(slots, rest), hmembers, ?_⟩
  simp only [hcomplete]
  rfl

/-! ## Members among others -/

/-- Whether a value is an object that has given members, in any order. It may have others beside
them, under other names. -/
def Holds (j : Json) (known : List (String × Json)) : Prop :=
  ∃ members, j = .object members ∧ (members.filter (·.1 ∈ Keyed.keys known)).Perm known

/-- Members with other names change nothing. -/
theorem holds_ofMembers {known more : List (String × Json)} (hknown : (Keyed.keys known).Nodup)
    (hmore : ∀ m ∈ more, m.1 ∉ Keyed.keys known) : Holds (.ofMembers (known ++ more)) known := by
  have hkeys : (Keyed.keys (Keyed.ofList (known ++ more))).Nodup :=
    (Keyed.Ascending.ofList _).nodup_keys
  refine ⟨_, rfl, (List.perm_ext_iff_of_nodup ?_ ?_).mpr fun (key, j) => ?_⟩
  · exact (List.Nodup.of_map _ hkeys).filter _
  · exact List.Nodup.of_map _ hknown
  · have hother (hkey : key ∈ Keyed.keys known) : key ∉ Keyed.keys more := by
      intro hmem
      obtain ⟨m, hm, rfl⟩ := List.mem_map.mp hmem
      exact hmore m hm hkey
    have hget (hkey : key ∈ Keyed.keys known) :
        Keyed.get? key (Keyed.ofList (known ++ more)) = Keyed.get? key known := by
      rw [Keyed.get?_ofList_append (hother hkey), Keyed.get?_ofList hknown]
    rw [List.mem_filter, decide_eq_true_iff, Keyed.mem_iff_get? hkeys, Keyed.mem_iff_get? hknown]
    constructor
    · rintro ⟨hj, hkey⟩
      rwa [hget hkey] at hj
    · intro hj
      have hkey := Keyed.mem_keys_of_get? hj
      exact ⟨(hget hkey).trans hj, hkey⟩

/-- Members that no field is named for are left out of account. -/
theorem foldlM_step_filter (fields : Fields) (members : List (String × Json))
    (slots : fields.Slots) :
    (members.filter (·.1 ∈ fields.names)).foldlM (fields.step false) slots =
      members.foldlM (fields.step false) slots := by
  induction members generalizing slots with
  | nil => rfl
  | cons m members ih =>
    by_cases hm : m.1 ∈ fields.names
    · rw [List.filter_cons_of_pos (by simpa using hm), List.foldlM_cons, List.foldlM_cons]
      exact bind_congr ih
    · have hstep : fields.step false slots m = .ok slots := by
        rw [Fields.step, Fields.put?_eq_none_iff.mpr hm]
        rfl
      rw [List.filter_cons_of_neg (by simpa using hm), List.foldlM_cons, hstep, ih]
      rfl

/-- What fields get of members depends on what stands under their names only. -/
theorem decodes_congr {fields : Fields} {members members' : List (String × Json)}
    (h : ∀ key, Keyed.get? key members = Keyed.get? key members') (d : fields.Data) :
    fields.Decodes members d ↔ fields.Decodes members' d := by
  match fields, d with
  | .nil, () => exact Iff.rfl
  | .cons name presence shape rest, (d, ds) =>
    rw [Fields.Decodes, Fields.Decodes, @decodes_congr rest members members' h ds, h name]

theorem Fields.readsBack_of_notMem {fields : Fields} {key : String} (h : key ∉ fields.names)
    (j : Json) : fields.ReadsBack key j := by
  match fields with
  | .nil => exact trivial
  | .cons name _ _ rest =>
    obtain ⟨hne, hrest⟩ := List.ne_and_not_mem_of_not_mem_cons h
    rw [Fields.ReadsBack, if_neg hne]
    exact Fields.readsBack_of_notMem hrest j

section

variable {fields : Fields} {name : String} {j : Json} {known : List (String × Json)}

/-- A struct that does not mind unknown members is decoded from any object that holds its members. -/
theorem decode_of_holds (hnames : fields.names.Nodup) (hknown : Keyed.keys known = fields.names)
    (hj : Holds j known) {d : fields.Data} (h : fields.Decodes known d) :
    (Shape.struct name false fields).decode j = .ok d := by
  obtain ⟨members, rfl, hmembers⟩ := hj
  have hkeys : (Keyed.keys known).Nodup := hknown ▸ hnames
  rw [hknown] at hmembers
  have hget := Keyed.get?_eq_of_perm hkeys hmembers
  rw [decode_object, ← foldlM_step_filter, ← decode_object]
  exact (decode_object_eq_ok_iff hnames (Keyed.nodup_keys_of_perm hkeys hmembers)).mpr
    ⟨by simp, (decodes_congr hget d).mpr h⟩

/-- A struct is read from the text of any object that holds its members. -/
theorem readsBack_of_holds (hnames : fields.names.Nodup) (hknown : Keyed.keys known = fields.names)
    (hj : Holds j known) (hread : ∀ m ∈ known, fields.ReadsBack m.1 m.2) :
    (Shape.struct name false fields).ReadsBack j := by
  obtain ⟨members, rfl, hmembers⟩ := hj
  have hkeys : (Keyed.keys known).Nodup := hknown ▸ hnames
  rw [hknown] at hmembers
  refine .object (Keyed.nodup_keys_of_perm hkeys hmembers) fun m hm => ?_
  by_cases hkey : m.1 ∈ fields.names
  · exact hread m (hmembers.mem_iff.mp (List.mem_filter.mpr ⟨hm, by simpa using hkey⟩))
  · exact Fields.readsBack_of_notMem hkey m.2

end

namespace Form

variable {α : Type}

/-- What a form makes of a value is also read from the text of the value. -/
theorem parse_render {form : Form α} {j : Json} (hread : form.shape.ReadsBack j) {a : α}
    (h : form.decode j = .ok a) : form.parse j.render = .ok a := by
  obtain ⟨d, hd, rfl⟩ := Except.map_eq_ok_iff.mp h
  have htext := hread d hd [] trivial
  rw [List.append_nil] at htext
  have hparse : Json.parseBy form.shape.read j.render = .ok d := by
    rw [Json.parseBy, show j.render.toList = j.chars from rfl, htext]
    rfl
  rw [parse, hparse]
  rfl

end Form

end Telemetry.Schema
