import Telemetry.Json.Mismatch
import Telemetry.Schema.Shape

/-!
# Decoding values

`Shape.decode` takes a JSON value for a value of a shape, and `Shape.encode` gives the JSON value of
one. The members of an object are gone through in the order of their keys, and the first that does
not fit is the one reported; only then are missing members noticed.
-/

namespace Telemetry.Schema

open Json (Mismatch Expectation)

/-- The name among those that may be chosen, by its place. -/
def choose (names : List String) (name : String) : Except Mismatch (Fin names.length) :=
  match names.finIdxOf? name with
  | some i => .ok i
  | none => .error (.unknownVariant name names)

/-- Takes a JSON value for one of some names: its text, or an object with the name as its only key
and `null` under it. -/
def decodeChoice (names : List String) : Json → Except Mismatch (Fin names.length)
  | .string name => choose names name
  | .object [(name, payload)] =>
    match choose names name, payload with
    | .error e, _ => .error e
    | .ok i, .null => .ok i
    | .ok _, _ => .error (.invalidType payload.found .unit)
  | .object _ => .error (.invalidValue .object .singleKeyMap)
  | j => .error (.invalidType j.found .textOrMap)

/-- Takes a JSON value for a text. -/
def decodeText (expected : Expectation) : Json → Except Mismatch String
  | .string s => .ok s
  | j => .error (.invalidType j.found expected)

/-- Takes a JSON value for a timestamp. -/
def decodeTimestamp (j : Json) : Except Mismatch Timestamp :=
  match decodeText .timestamp j with
  | .error e => .error e
  | .ok s =>
    match Timestamp.parse s.toList with
    | .ok t => .ok t
    | .error e => .error (.timestamp e)

/-- Takes a JSON value for texts under keys. -/
def decodeTextMap : Json → Except Mismatch Attributes
  | .object members =>
    members.foldlM
      (fun acc (key, j) => (decodeText .text j).map (fun s => acc.insert key s)) .empty
  | j => .error (.invalidType j.found .map)

mutual

/-- Takes a JSON value for a value of a shape. -/
def Shape.decode : (shape : Shape) → Json → Except Mismatch shape.Data
  | .any, j => .ok j
  | .text, j => decodeText .text j
  | .timestamp, j => decodeTimestamp j
  | .choice names, j => decodeChoice names j
  | .optional shape, j =>
    match j with
    | .null => .ok none
    | j => (shape.decode j).map some
  | .list shape, j =>
    match j with
    | .array items => items.mapM (fun item => shape.decode item)
    | j => .error (.invalidType j.found .sequence)
  | .textMap, j => decodeTextMap j
  | .struct name strict fields, j =>
    match j with
    | .object members =>
      let slots := members.foldlM
        (fun slots (key, j) =>
          match fields.put? key j slots with
          | some result => result
          | none => if strict then .error (.unknownField key fields.names) else .ok slots)
        fields.vacant
      match slots with
      | .error e => .error e
      | .ok slots =>
        match fields.complete slots with
        | .error missing => .error (.missingField missing)
        | .ok d => .ok d
    | .array items =>
      match fields.decodeItems (.structOf name fields.size) 0 items with
      | .error e => .error e
      | .ok (d, []) => .ok d
      | .ok (_, _ :: _) => .error (.invalidLength items.length .fewerElements)
    | j => .error (.invalidType j.found (.struct name))

/-- Puts the value of a member into its slot; none if no field has its key. -/
def Fields.put? : (fields : Fields) → String → Json → fields.Slots →
    Option (Except Mismatch fields.Slots)
  | .nil, _, _, _ => none
  | .cons name _ shape rest, key, j, (slot, slots) =>
    if key = name then some ((shape.decode j).map (fun d => (some d, slots)))
    else (rest.put? key j slots).map (fun result => result.map (fun slots => (slot, slots)))

/-- Takes the first items of an array for the fields, and gives the others too. The number of items
before them is `index`; `expected` is what is reported if there are too few. -/
def Fields.decodeItems : (fields : Fields) → Expectation → Nat → List Json →
    Except Mismatch (fields.Data × List Json)
  | .nil, _, _, items => .ok ((), items)
  | .cons _ presence shape rest, expected, index, items =>
    let first := match items with
      | j :: items => (shape.decode j).map (fun d => (d, items))
      | [] =>
        match presence.missing? shape with
        | some d => .ok (d, [])
        | none => .error (.invalidLength index expected)
    match first with
    | .error e => .error e
    | .ok (d, items) =>
      (rest.decodeItems expected (index + 1) items).map (fun (ds, items) => ((d, ds), items))

end

/-! ## Encoding -/

/-- The JSON object of texts under keys. -/
def encodeTextMap (attributes : Attributes) : Json :=
  .object (attributes.entries.map (fun (key, value) => (key, .string value)))

/-- The member of a field, unless it is left out. -/
def Presence.member (presence : Presence) (name : String) (j : Json) : List (String × Json) :=
  match presence, j with
  | .omitted, .null => []
  | _, j => [(name, j)]

mutual

/-- The JSON value of a value of a shape. -/
def Shape.encode : (shape : Shape) → shape.Data → Json
  | .any, j => j
  | .text, s => .string s
  | .timestamp, t => .string t.text
  | .choice names, i => .string names[i]
  | .optional shape, d =>
    match d with
    | none => .null
    | some d => shape.encode d
  | .list shape, ds => .array (ds.map (fun d => shape.encode d))
  | .textMap, attributes => encodeTextMap attributes
  | .struct _ _ fields, d => .ofMembers (fields.members d)

/-- The members of fields. -/
def Fields.members : (fields : Fields) → fields.Data → List (String × Json)
  | .nil, () => []
  | .cons name presence shape rest, (d, ds) =>
    presence.member name (shape.encode d) ++ rest.members ds

end

end Telemetry.Schema
