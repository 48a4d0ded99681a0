import Telemetry.Proofs.Schema.Fitting
import Telemetry.Proofs.Schema.RoundTrip

/-!
# Writing what was read

A value that an exact shape accepts is written back as it stands, but for members that may be left
out: those that are `null` are not written, and lists that are missing are written as empty ones.
Nothing else of the value is lost or added. Main statement: `Shape.encode_of_decode`.
-/

namespace Telemetry

/-! ## Members that may be left out -/

namespace Json

/-- The array with another value for each item. -/
def mapItems (f : Json → Json) : Json → Json
  | .array items => .array (items.map f)
  | j => j

theorem mapItems_self (j : Json) : j.mapItems (fun item => item) = j := by
  cases j with
  | array items => rw [mapItems, List.map_id']
  | _ => rfl

/-- What is written of a member: nothing of an option that is `null`. -/
def writtenMember (options : List String) (inner : String → Json → Json) (key : String) :
    Json → Option Json
  | .null => if key ∈ options then none else some (inner key .null)
  | j => some (inner key j)

/-- The members without the options that are `null`, with an empty list for each list that is
missing; `inner` says what is written of the others. -/
def writtenMembers (options lists : List String) (inner : String → Json → Json)
    (members : List (String × Json)) : List (String × Json) :=
  members.filterMap (fun (key, j) => (writtenMember options inner key j).map (key, ·)) ++
    (lists.filter (fun key => key ∉ Keyed.keys members)).map (fun key => (key, .array []))

/-- The object with these members; what is no object is left as it is. -/
def writtenOut (options lists : List String) (inner : String → Json → Json) : Json → Json
  | .object members => .ofMembers (writtenMembers options lists inner members)
  | j => j

/-- Members with the same value for each key make the same object. -/
theorem ofMembers_congr {xs ys : List (String × Json)} (hx : (Keyed.keys xs).Nodup)
    (hy : (Keyed.keys ys).Nodup) (h : ∀ key, Keyed.get? key xs = Keyed.get? key ys) :
    ofMembers xs = ofMembers ys := by
  refine congrArg Json.object (Keyed.ext_get? (.ofList xs) (.ofList ys) fun key => ?_)
  rw [Keyed.get?_ofList hx, Keyed.get?_ofList hy, h]

variable {options lists : List String} {inner : String → Json → Json}
  {members : List (String × Json)}

theorem nodup_keys_writtenMembers (hlists : lists.Nodup) (h : (Keyed.keys members).Nodup) :
    (Keyed.keys (writtenMembers options lists inner members)).Nodup := by
  have hkept := Keyed.keys_filterMap_sublist (writtenMember options inner) members
  have hadded (keys : List String) :
      Keyed.keys (keys.map (fun key => (key, Json.array []))) = keys := by
    simp [Keyed.keys, Function.comp_def]
  rw [writtenMembers, Keyed.keys_append, hadded, List.nodup_append]
  refine ⟨h.sublist hkept, hlists.filter _, fun key hkey key' hkey' heq => ?_⟩
  have hmissing : key' ∉ Keyed.keys members := by simpa using (List.mem_filter.mp hkey').2
  exact hmissing (heq ▸ hkept.subset hkey)

theorem get?_writtenMembers (h : (Keyed.keys members).Nodup) (key : String) :
    Keyed.get? key (writtenMembers options lists inner members) =
      match Keyed.get? key members with
      | some j => writtenMember options inner key j
      | none => if key ∈ lists then some (.array []) else none := by
  rw [writtenMembers, Keyed.get?_append, Keyed.get?_filterMap _ h, Keyed.get?_map_const]
  cases hget : Keyed.get? key members with
  | none => simp [Keyed.get?_eq_none_iff.mp hget]
  | some j => simp [Keyed.mem_keys_of_get? hget]

theorem writtenMember_of_notMem {key : String} (h : key ∉ options) (j : Json) :
    writtenMember options inner key j = some (inner key j) := by
  unfold writtenMember
  split
  · rw [if_neg h]
  · rfl

theorem writtenMember_of_ne_null {j : Json} (h : j ≠ .null) (key : String) :
    writtenMember options inner key j = some (inner key j) := by
  unfold writtenMember
  split
  · exact absurd rfl h
  · rfl

theorem writtenMember_congr {options' : List String} {inner' : String → Json → Json} {key : String}
    (hoptions : key ∈ options ↔ key ∈ options') (hinner : inner key = inner' key) (j : Json) :
    writtenMember options inner key j = writtenMember options' inner' key j := by
  unfold writtenMember
  simp only [hoptions, hinner]

end Json

namespace Schema

/-! ## What a shape writes -/

/-- The names of the fields for which a missing member means the given. -/
def Fields.namesWith (presence : Presence) : Fields → List String
  | .nil => []
  | .cons name p _ rest =>
    if p = presence then name :: rest.namesWith presence else rest.namesWith presence

mutual

/-- A value with its structs written out, at every depth. -/
def Shape.writtenOut : Shape → Json → Json
  | .optional shape, j => shape.writtenOut j
  | .list shape, j => j.mapItems shape.writtenOut
  | .struct _ _ fields, j =>
    j.writtenOut (fields.namesWith .omitted) (fields.namesWith .defaulted) fields.writtenOut
  | .any, j | .text, j | .timestamp, j | .choice _, j | .textMap, j => j

/-- The value of a member, written out where a field is named for it. -/
def Fields.writtenOut : Fields → String → Json → Json
  | .nil, _, j => j
  | .cons name _ shape rest, key, j =>
    if key = name then shape.writtenOut j else rest.writtenOut key j

end

/-- What a struct writes is known by what it writes of each member. -/
theorem Shape.writtenOut_struct {name : String} {strict : Bool} {fields : Fields}
    {inner : String → Json → Json} (h : ∀ key j, fields.writtenOut key j = inner key j) :
    (Shape.struct name strict fields).writtenOut =
      Json.writtenOut (fields.namesWith .omitted) (fields.namesWith .defaulted) inner := by
  obtain rfl : fields.writtenOut = inner := funext fun key => funext (h key)
  rfl

theorem Fields.mem_namesWith_cons_iff {key name : String} {presence p : Presence} {shape : Shape}
    {rest : Fields} :
    key ∈ (Fields.cons name p shape rest).namesWith presence ↔
      (p = presence ∧ key = name) ∨ key ∈ rest.namesWith presence := by
  rw [Fields.namesWith]
  split <;> simp_all

theorem Fields.namesWith_sublist (presence : Presence) : ∀ fields : Fields,
    (fields.namesWith presence).Sublist fields.names
  | .nil => List.Sublist.refl _
  | .cons name p _ rest => by
    rw [Fields.namesWith]
    split
    · exact (rest.namesWith_sublist presence).cons_cons name
    · exact (rest.namesWith_sublist presence).cons name

/-- Nothing but `null` is written as `null`. -/
theorem Shape.writtenOut_eq_null_iff : ∀ (shape : Shape) (j : Json),
    shape.writtenOut j = .null ↔ j = .null
  | .any, _ | .text, _ | .timestamp, _ | .choice _, _ | .textMap, _ => Iff.rfl
  | .optional shape, j => shape.writtenOut_eq_null_iff j
  | .list _, j => by cases j <;> simp [Shape.writtenOut, Json.mapItems]
  | .struct _ _ _, j => by
    cases j <;> simp [Shape.writtenOut, Json.writtenOut, Json.ofMembers]

/-! ## Writing back -/

theorem get_of_choose {names : List String} {name : String} {i : Fin names.length}
    (h : choose names name = .ok i) : names.get i = name := by
  rw [choose] at h
  cases hfound : names.finIdxOf? name with
  | none => simp [hfound] at h
  | some i' =>
    obtain rfl : i' = i := by simpa [hfound] using h
    exact (List.finIdxOf?_eq_some_iff.mp hfound).1

/-- A field is written as its value is written out, unless it is an option that is `null`. -/
theorem Presence.get?_member_of_encode (presence : Presence) {shape : Shape} {d : shape.Data}
    {j : Json} (h : shape.encode d = shape.writtenOut j) (name : String) :
    Keyed.get? name (presence.member name (shape.encode d)) =
      Json.writtenMember (if presence = .omitted then [name] else [])
        (fun _ => shape.writtenOut) name j := by
  have hnull := shape.writtenOut_eq_null_iff j
  rw [h]
  rcases presence.get?_member name (shape.writtenOut j) with ⟨hkept, hsome⟩ | ⟨rfl, hj, hnone⟩
  · rw [hsome]
    by_cases homitted : presence = .omitted
    · rw [Json.writtenMember_of_ne_null fun hj => hkept ⟨homitted, hnull.mpr hj⟩]
    · rw [if_neg homitted, Json.writtenMember_of_notMem List.not_mem_nil]
  · rw [hnone, hnull.mp hj]
    simp [Json.writtenMember]

/-- A missing member is written as an empty list, or not at all. -/
theorem Presence.get?_member_of_missing {presence : Presence} {shape : Shape}
    (h : presence.exact shape = true) {d : shape.Data} (hd : presence.missing? shape = some d)
    (name : String) :
    Keyed.get? name (presence.member name (shape.encode d)) =
      if presence = .defaulted then some (.array []) else none := by
  cases presence with
  | required => cases hd
  | defaulted =>
    cases shape with
    | list shape =>
      obtain rfl := Option.some.inj hd
      simp [Presence.member, Shape.encode, Keyed.get?_cons]
    | _ => cases h
  | omitted =>
    cases shape with
    | optional shape =>
      obtain rfl := Option.some.inj hd
      rfl
    | _ => cases h

mutual

/-- A plain value that an exact shape accepts is written back as it is written out. -/
theorem Shape.encode_of_decode : ∀ (shape : Shape), shape.exact = true → ∀ j : Json, j.Sorted →
    shape.Plain j → ∀ d : shape.Data, shape.decode j = .ok d → shape.encode d = shape.writtenOut j
  | .any, _, _, _, _, _, h => (Except.ok.inj h).symm
  | .text, _, j, _, _, s, h => by
    cases j with
    | string s' => exact congrArg Json.string (Except.ok.inj h).symm
    | _ => cases h
  | .timestamp, h, _, _, _, _, _ | .textMap, h, _, _, _, _, _ => by cases h
  | .choice names, _, j, _, hplain, i, h => by
    cases j with
    | string name => exact congrArg Json.string (get_of_choose h)
    | object members => exact absurd rfl (hplain members)
    | _ => cases h
  | .optional shape, hexact, j, hsorted, hplain, d, h => by
    by_cases hnull : j = .null
    · subst hnull
      obtain rfl := Except.ok.inj h
      exact ((shape.writtenOut_eq_null_iff _).mpr rfl).symm
    · rw [Shape.decode_optional_of_ne_null hnull, Except.map_eq_ok_iff] at h
      obtain ⟨d', hd', rfl⟩ := h
      exact shape.encode_of_decode hexact j hsorted hplain d' hd'
  | .list shape, hexact, j, hsorted, hplain, ds, h => by
    cases j with
    | array items =>
      have hitems := (List.forall₂_and_left items ds).mpr ⟨fun item hitem =>
        And.intro (Json.sorted_array_iff.mp hsorted item hitem) (hplain items rfl item hitem),
        Except.mapM_eq_ok_iff.mp h⟩
      have hwritten : List.Forall₂ (· = ·) (ds.map shape.encode) (items.map shape.writtenOut) := by
        rw [List.forall₂_map_left_iff, List.forall₂_map_right_iff]
        exact List.Forall₂.flip (hitems.imp fun item d ⟨⟨hitem, hp⟩, hd⟩ =>
          shape.encode_of_decode hexact item hitem hp d hd)
      rw [List.forall₂_eq_eq_eq] at hwritten
      exact congrArg Json.array hwritten
    | _ => cases h
  | .struct name strict fields, hexact, j, hsorted, hplain, d, h => by
    obtain ⟨hstrict, hfields⟩ := Bool.and_eq_true_iff.mp hexact
    obtain ⟨rfl, hnames⟩ := Bool.and_eq_true_iff.mp hstrict
    have hnames := of_decide_eq_true hnames
    cases j with
    | object members =>
      obtain ⟨hknown, hd⟩ := (decode_object_eq_ok_iff hnames hsorted.nodup_keys).mp h
      refine Json.ofMembers_congr (hnames.sublist (fields.keys_members_sublist d))
        (Json.nodup_keys_writtenMembers (hnames.sublist (fields.namesWith_sublist _))
          hsorted.nodup_keys) fun key => ?_
      rw [Json.get?_writtenMembers hsorted.nodup_keys]
      by_cases hkey : key ∈ fields.names
      · exact fields.get?_members_of_decodes hfields hnames members (fun hj => hsorted.of_get? hj)
          (hplain.2 members rfl) d hd key hkey
      · have hnone : Keyed.get? key members = none :=
          Keyed.get?_eq_none_of_notMem fun hmember => hkey (hknown rfl hmember)
        have hlists : key ∉ fields.namesWith .defaulted :=
          fun hlist => hkey ((fields.namesWith_sublist _).subset hlist)
        simp [Fields.get?_members_of_notMem hkey, hnone, hlists]
    | array items => exact absurd rfl (hplain.1 items)
    | _ => cases h

/-- The members that exact fields are written to are the ones that they were read from, written
out. -/
theorem Fields.get?_members_of_decodes : ∀ (fields : Fields), fields.exact = true →
    fields.names.Nodup → ∀ members : List (String × Json),
      (∀ {key j}, Keyed.get? key members = some j → j.Sorted) → fields.Plain members →
        ∀ d : fields.Data, fields.Decodes members d → ∀ key ∈ fields.names,
          Keyed.get? key (fields.members d) =
            match Keyed.get? key members with
            | some j => Json.writtenMember (fields.namesWith .omitted) fields.writtenOut key j
            | none => if key ∈ fields.namesWith .defaulted then some (.array []) else none
  | .nil, _, _, _, _, _, _, _, _, hkey => by cases hkey
  | .cons name presence shape rest, h, hnames, members, hsorted, hplain, (d, ds), hd, key,
    hkey => by
    obtain ⟨hfirst, hrest⟩ := Bool.and_eq_true_iff.mp h
    obtain ⟨hpresence, hshape⟩ := Bool.and_eq_true_iff.mp hfirst
    obtain ⟨hname, hnames⟩ := List.nodup_cons.mp hnames
    by_cases heq : key = name
    · -- the member of the first field; no other field has its name
      subst heq
      have hunnamed (p : Presence) : key ∉ rest.namesWith p :=
        fun h => hname ((rest.namesWith_sublist p).subset h)
      rw [Fields.get?_members_cons_self hname]
      cases hget : Keyed.get? key members with
      | some j =>
        have hj : shape.decode j = .ok d := by simpa [Fields.Decodes, hget] using hd.1
        have ih := shape.encode_of_decode hshape j (hsorted hget) (hplain.1 j hget) d hj
        rw [presence.get?_member_of_encode ih]
        refine Json.writtenMember_congr ?_ (by simp [Fields.writtenOut]) j
        by_cases homitted : presence = .omitted <;>
          simp [Fields.mem_namesWith_cons_iff, homitted, hunnamed]
      | none =>
        have hmissing : presence.missing? shape = some d := by
          simpa [Fields.Decodes, hget] using hd.1
        rw [Presence.get?_member_of_missing hpresence hmissing]
        simp [Fields.mem_namesWith_cons_iff, hunnamed]
    · -- the first field and its member are passed over on both sides
      have ih := rest.get?_members_of_decodes hrest hnames members hsorted hplain.2 ds hd.2 key
        ((List.mem_cons.mp hkey).resolve_left heq)
      rw [Fields.get?_members_cons_of_ne heq, ih]
      cases Keyed.get? key members with
      | some j =>
        refine Json.writtenMember_congr ?_ ?_ j
        · simp [Fields.mem_namesWith_cons_iff, heq]
        · funext j
          simp [Fields.writtenOut, heq]
      | none => simp [Fields.mem_namesWith_cons_iff, heq]

end

end Schema

end Telemetry
