import Telemetry.Proofs.Schema.Members
import Telemetry.Schema.Form

/-!
# Reading back what was written

A value is written as JSON and read from that as it was, wherever its shape tells its values apart:
what stands for an absent value stands for nothing else, names that are chosen or head fields
differ, and only what may be absent is left out. Main statement: `Form.decode_encode`.
-/

namespace Telemetry.Schema

/-! ## Shapes whose values can be told apart -/

/-- Whether a value of the shape may be written as `null`. -/
def Shape.nullable : Shape → Bool
  | .any | .optional _ => true
  | _ => false

/-- Whether the values of a field can be told from its member: what is left out stands for its
absence only. -/
def Presence.faithful : Presence → Shape → Bool
  | .omitted, .any => false
  | _, _ => true

mutual

/-- Whether the values of a shape can be told from their JSON values. The reader of timestamps is
not looked into. -/
def Shape.faithful : Shape → Bool
  | .any | .text | .textMap => true
  | .timestamp => false
  | .choice names => decide names.Nodup
  | .optional shape => !shape.nullable && shape.faithful
  | .list shape => shape.faithful
  | .struct _ _ fields => decide fields.names.Nodup && fields.faithful

/-- Whether the values of fields can be told from their members. -/
def Fields.faithful : Fields → Bool
  | .nil => true
  | .cons _ presence shape rest => presence.faithful shape && shape.faithful && rest.faithful

end

/-! ## Parts of values -/

theorem Shape.encode_ne_null {shape : Shape} (h : shape.nullable = false) (d : shape.Data) :
    shape.encode d ≠ .null := by
  cases shape with
  | any | optional => cases h
  | _ => exact fun hnull => by cases hnull

theorem choose_get {names : List String} (h : names.Nodup) (i : Fin names.length) :
    choose names (names.get i) = .ok i := by
  have hfound : names.finIdxOf? (names.get i) = some i := by
    refine List.finIdxOf?_eq_some_iff.mpr ⟨rfl, fun j hj heq => ?_⟩
    exact List.pairwise_iff_getElem.mp h j i j.isLt i.isLt hj heq
  rw [choose, hfound]

theorem entries_insertMany (attributes : Attributes) (entries : List (String × String)) :
    (attributes.insertMany entries).entries =
      entries.foldl (fun acc e => Keyed.insert e.1 e.2 acc) attributes.entries := by
  induction entries generalizing attributes with
  | nil => rfl
  | cons e entries ih => exact ih (attributes.insert e.1 e.2)

/-- Texts that are read one after another are put in one after another. -/
theorem foldlM_decodeText (attributes : Attributes) (entries : List (String × String)) :
    (entries.map (fun e => (e.1, Json.string e.2))).foldlM
        (fun acc m => (decodeText .text m.2).map (acc.insert m.1)) attributes =
      .ok (attributes.insertMany entries) := by
  induction entries generalizing attributes with
  | nil => rfl
  | cons e entries ih => exact ih (attributes.insert e.1 e.2)

theorem decodeTextMap_encodeTextMap (attributes : Attributes) :
    decodeTextMap (encodeTextMap attributes) = .ok attributes := by
  have hentries : (Attributes.empty.insertMany attributes.entries).entries = attributes.entries :=
    (entries_insertMany _ _).trans (Keyed.ofList_of_ascending attributes.ascending)
  have hsame : Attributes.empty.insertMany attributes.entries = attributes :=
    Attributes.ext_get? fun key => by rw [Attributes.get?, hentries, Attributes.get?]
  exact (foldlM_decodeText .empty attributes.entries).trans (congrArg _ hsame)

/-! ## Members -/

/-- A field has one member under its name, or none where it stands for nothing. -/
theorem Presence.get?_member (presence : Presence) (name : String) (j : Json) :
    (¬ (presence = .omitted ∧ j = .null) ∧
        Keyed.get? name (presence.member name j) = some j) ∨
      presence = .omitted ∧ j = .null ∧ Keyed.get? name (presence.member name j) = none := by
  unfold Presence.member
  split
  · exact .inr ⟨rfl, rfl, rfl⟩
  · next hkept =>
    exact .inl ⟨fun ⟨homitted, hnull⟩ => hkept homitted hnull, by simp [Keyed.get?_cons]⟩

theorem Presence.keys_member_sublist (presence : Presence) (name : String) (j : Json) :
    (Keyed.keys (presence.member name j)).Sublist [name] := by
  unfold Presence.member
  split
  · exact List.nil_sublist _
  · exact List.Sublist.refl _

/-- The members of fields have their names, in order. -/
theorem Fields.keys_members_sublist (fields : Fields) (d : fields.Data) :
    (Keyed.keys (fields.members d)).Sublist fields.names := by
  match fields, d with
  | .nil, () => exact List.Sublist.refl _
  | .cons name presence shape rest, (d, ds) =>
    rw [Fields.members, Keyed.keys_append]
    exact (presence.keys_member_sublist name _).append (rest.keys_members_sublist ds)

theorem Fields.get?_members_of_notMem {fields : Fields} {key : String} (h : key ∉ fields.names)
    (d : fields.Data) : Keyed.get? key (fields.members d) = none :=
  Keyed.get?_eq_none_of_notMem fun hkey => h ((fields.keys_members_sublist d).subset hkey)

/-- Under the name of the first field stands its member. -/
theorem Fields.get?_members_cons_self {name : String} {presence : Presence} {shape : Shape}
    {rest : Fields} (h : name ∉ rest.names) (d : shape.Data) (ds : rest.Data) :
    Keyed.get? name ((Fields.cons name presence shape rest).members (d, ds)) =
      Keyed.get? name (presence.member name (shape.encode d)) := by
  rw [Fields.members, Keyed.get?_append, Fields.get?_members_of_notMem h, Option.or_none]

theorem Fields.get?_members_cons_of_ne {key name : String} (h : key ≠ name) (presence : Presence)
    {shape : Shape} {rest : Fields} (d : shape.Data) (ds : rest.Data) :
    Keyed.get? key ((Fields.cons name presence shape rest).members (d, ds)) =
      Keyed.get? key (rest.members ds) := by
  have hfirst : Keyed.get? key (presence.member name (shape.encode d)) = none := by
    refine Keyed.get?_eq_none_of_notMem fun hkey => h ?_
    simpa using (presence.keys_member_sublist name _).subset hkey
  rw [Fields.members, Keyed.get?_append, hfirst, Option.none_or]

/-! ## Reading back -/

/-- A field whose value is read back is read back from its member, or from there being none. -/
theorem Presence.decodes_member {presence : Presence} {shape : Shape}
    (h : presence.faithful shape = true) {d : shape.Data}
    (hd : shape.decode (shape.encode d) = .ok d) (name : String) :
    match Keyed.get? name (presence.member name (shape.encode d)) with
    | some j => shape.decode j = .ok d
    | none => presence.missing? shape = some d := by
  rcases presence.get?_member name (shape.encode d) with ⟨-, hsome⟩ | ⟨rfl, hnull, hnone⟩
  · rw [hsome]
    exact hd
  · rw [hnone]
    cases shape with
    | any => cases h
    | optional shape =>
      rw [hnull] at hd
      exact congrArg some (Except.ok.inj hd)
    | _ => cases hnull

-- A shape and its fields are gone through together. Members are known by what is looked up in them
-- only, so that other ones, and another order, do not matter to the fields.
mutual

/-- What is written of a shape that tells its values apart is read back. -/
theorem Shape.decode_encode : ∀ (shape : Shape), shape.faithful = true → ∀ d : shape.Data,
    shape.decode (shape.encode d) = .ok d
  | .any, _, _ => rfl
  | .text, _, _ => rfl
  | .timestamp, h, _ => by cases h
  | .choice names, h, i => choose_get (of_decide_eq_true h) i
  | .optional shape, h, none => rfl
  | .optional shape, h, some d => by
    obtain ⟨hnull, hshape⟩ := Bool.and_eq_true_iff.mp h
    have hne : shape.encode d ≠ .null :=
      Shape.encode_ne_null ((Bool.not_eq_true' _).mp hnull) d
    exact (Shape.decode_optional_of_ne_null hne).trans
      (congrArg (Except.map some) (shape.decode_encode hshape d))
  | .list shape, h, ds => by
    rw [Shape.encode, Shape.decode, Except.mapM_eq_ok_iff, List.forall₂_map_left_iff,
      List.forall₂_same]
    exact fun d _ => shape.decode_encode h d
  | .textMap, _, attributes => decodeTextMap_encodeTextMap attributes
  | .struct name strict fields, h, d => by
    obtain ⟨hnames, hfields⟩ := Bool.and_eq_true_iff.mp h
    have hnames := of_decide_eq_true hnames
    have hkeys := hnames.sublist (fields.keys_members_sublist d)
    have hsorted := Keyed.Ascending.ofList (fields.members d)
    refine (decode_object_eq_ok_iff hnames hsorted.nodup_keys).mpr ⟨fun _ key hkey => ?_, ?_⟩
    · exact (fields.keys_members_sublist d).subset ((Keyed.mem_keys_ofList_iff hkeys).mp hkey)
    · exact fields.decodes_members hfields hnames d _ fun key _ => Keyed.get?_ofList hkeys key

/-- Members that are what was written of fields under their names are read back. -/
theorem Fields.decodes_members : ∀ (fields : Fields), fields.faithful = true →
    fields.names.Nodup → ∀ (d : fields.Data) (members : List (String × Json)),
      (∀ key ∈ fields.names, Keyed.get? key members = Keyed.get? key (fields.members d)) →
        fields.Decodes members d
  | .nil, _, _, _, _, _ => trivial
  | .cons name presence shape rest, h, hnames, (d, ds), members, hmembers => by
    obtain ⟨hfirst, hrest⟩ := Bool.and_eq_true_iff.mp h
    obtain ⟨hpresence, hshape⟩ := Bool.and_eq_true_iff.mp hfirst
    obtain ⟨hname, hnames⟩ := List.nodup_cons.mp hnames
    refine ⟨?_, rest.decodes_members hrest hnames ds members fun key hkey => ?_⟩
    · rw [hmembers name List.mem_cons_self, Fields.get?_members_cons_self hname]
      exact presence.decodes_member hpresence (shape.decode_encode hshape d) name
    · have hne : key ≠ name := fun heq => hname (heq ▸ hkey)
      rw [hmembers key (List.mem_cons_of_mem _ hkey), Fields.get?_members_cons_of_ne hne]

end

/-! ## Forms -/

theorem Form.decode_eq_ok_iff {α : Type} {form : Form α} {j : Json} {a : α} :
    form.decode j = .ok a ↔ form.shape.decode j = .ok (form.toData a) := by
  rw [Form.decode, Except.map_eq_ok_iff]
  constructor
  · rintro ⟨d, hd, rfl⟩
    rw [hd, form.toData_ofData]
  · intro h
    exact ⟨form.toData a, h, form.ofData_toData a⟩

/-- A list of values is read from an array with a value for each item. -/
theorem Form.decode_list_eq_ok_iff {α : Type} {form : Form α} {j : Json} {as : List α} :
    form.list.decode j = .ok as ↔
      ∃ items, j = .array items ∧
        List.Forall₂ (fun item a => form.decode item = .ok a) items as := by
  simp only [Form.decode_eq_ok_iff]
  cases j with
  | array items =>
    change items.mapM (fun item => form.shape.decode item) = .ok (as.map form.toData) ↔ _
    simp [Except.mapM_eq_ok_iff]
  | _ => simp [Form.list, Shape.decode]

/-- Values of a type are read back, where the shape of its form tells values apart. -/
theorem Form.decode_encode {α : Type} (form : Form α) (h : form.shape.faithful = true) (a : α) :
    form.decode (form.encode a) = .ok a := by
  rw [Form.decode, Form.encode, Shape.decode_encode _ h]
  exact congrArg Except.ok (form.ofData_toData a)

end Telemetry.Schema
