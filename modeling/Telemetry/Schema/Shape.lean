import Telemetry.Json.Value
import Telemetry.Record.Attributes
import Telemetry.Record.Timestamp

/-!
# Shapes

A shape says what JSON form a value takes: a text, a list, a struct with named fields, and so on.
The values that have a shape form the type `Shape.Data`. What reads, decodes and writes them is
defined once for all shapes, by recursion on the shape.
-/

namespace Telemetry.Schema

/-- What it means for a field that its member is missing, and whether the member may be left out. -/
inductive Presence where
  /-- The member has to be there. -/
  | required
  /-- A missing member stands for the default of the field; the member is always written. -/
  | defaulted
  /-- A missing member stands for the default of the field; `null` is not written. -/
  | omitted
  deriving DecidableEq, Repr

mutual

/-- The form of a JSON value. -/
inductive Shape where
  /-- Any value. -/
  | any
  /-- A string. -/
  | text
  /-- A string that is a timestamp. -/
  | timestamp
  /-- One of some names. -/
  | choice (names : List String)
  /-- A value, or `null`. -/
  | optional (shape : Shape)
  /-- An array of values. -/
  | list (shape : Shape)
  /-- An object with strings as values. -/
  | textMap
  /-- An object with known members, or an array of their values. Members that are not known are
  refused if the struct is strict. -/
  | struct (name : String) (strict : Bool) (fields : Fields)

/-- The fields of a struct. -/
inductive Fields where
  | nil
  | cons (name : String) (presence : Presence) (shape : Shape) (rest : Fields)

end

mutual

/-- The values of a shape. -/
@[reducible] def Shape.Data : Shape → Type
  | .any => Json
  | .text => String
  | .timestamp => Timestamp
  | .choice names => Fin names.length
  | .optional shape => Option shape.Data
  | .list shape => List shape.Data
  | .textMap => Attributes
  | .struct _ _ fields => fields.Data

/-- The values of fields, one after another. -/
@[reducible] def Fields.Data : Fields → Type
  | .nil => Unit
  | .cons _ _ shape rest => shape.Data × rest.Data

end

/-- The names of fields. -/
def Fields.names : Fields → List String
  | .nil => []
  | .cons name _ _ rest => name :: rest.names

/-- The number of fields. -/
def Fields.size (fields : Fields) : Nat := fields.names.length

mutual

/-- The value that stands for a missing member of a shape, if the shape has one. -/
def Shape.default? : (shape : Shape) → Option shape.Data
  | .any | .timestamp | .choice _ => none
  | .text => some ""
  | .optional _ => some none
  | .list _ => some []
  | .textMap => some .empty
  | .struct _ _ fields => fields.default?

/-- The defaults of all fields, if each has one. -/
def Fields.default? : (fields : Fields) → Option fields.Data
  | .nil => some ()
  | .cons _ _ shape rest =>
    match shape.default?, rest.default? with
    | some d, some ds => some (d, ds)
    | _, _ => none

end

/-- The value of a missing member, if it may be missing. -/
def Presence.missing? (presence : Presence) (shape : Shape) : Option shape.Data :=
  match presence with
  | .required => none
  | .defaulted | .omitted => shape.default?

/-- What is known of fields while the members of an object are gone through. -/
@[reducible] def Fields.Slots : Fields → Type
  | .nil => Unit
  | .cons _ _ shape rest => Option shape.Data × rest.Slots

/-- Nothing is known of the fields. -/
def Fields.vacant : (fields : Fields) → fields.Slots
  | .nil => ()
  | .cons _ _ _ rest => (none, rest.vacant)

/-- The fields with what is known of them, and the defaults of the others. Fails with the name of
the first field that may not be missing. -/
def Fields.complete : (fields : Fields) → fields.Slots → Except String fields.Data
  | .nil, () => .ok ()
  | .cons name presence shape rest, (slot, slots) =>
    match slot.or (presence.missing? shape) with
    | none => .error name
    | some d =>
      match rest.complete slots with
      | .error e => .error e
      | .ok ds => .ok (d, ds)

end Telemetry.Schema
