import Telemetry.Schema.Read

/-!
# Forms

The form of a type is a shape together with a way to take the values of the type for values of that
shape and back, which loses nothing. It gives the type its JSON reader and writer.
-/

namespace Telemetry.Schema

/-- The JSON form of a type. -/
structure Form (α : Type) where
  /-- The shape of the values. -/
  shape : Shape
  /-- A value as a value of the shape. -/
  toData : α → shape.Data
  /-- A value of the shape as a value of the type. -/
  ofData : shape.Data → α
  /-- Each value of the type comes from one of the shape. -/
  ofData_toData : ∀ a, ofData (toData a) = a
  /-- Each value of the shape comes from one of the type. -/
  toData_ofData : ∀ d, toData (ofData d) = d

namespace Form

/-- Takes a JSON value for a value of the type. -/
def decode (form : Form α) (j : Json) : Except Json.Mismatch α :=
  (form.shape.decode j).map form.ofData

/-- Reads a text that is one value of the type. -/
def parse (form : Form α) (text : String) : Except Json.Placed α :=
  (Json.parseBy form.shape.read text).map form.ofData

/-- The JSON value of a value of the type. -/
def encode (form : Form α) (a : α) : Json := form.shape.encode (form.toData a)

/-- Any JSON value. -/
def json : Form Json := ⟨.any, id, id, fun _ => rfl, fun _ => rfl⟩

/-- A text. -/
def text : Form String := ⟨.text, id, id, fun _ => rfl, fun _ => rfl⟩

/-- A value that may be absent, which is written as `null`. -/
def optional (form : Form α) : Form (Option α) where
  shape := .optional form.shape
  toData := fun a => a.map form.toData
  ofData := fun d => d.map form.ofData
  ofData_toData := fun a => by cases a <;> simp [form.ofData_toData]
  toData_ofData := fun d => by cases d <;> simp [form.toData_ofData]

/-- A list of values. -/
def list (form : Form α) : Form (List α) where
  shape := .list form.shape
  toData := fun as => as.map form.toData
  ofData := fun ds => ds.map form.ofData
  ofData_toData := fun as => by simp [Function.comp_def, form.ofData_toData]
  toData_ofData := fun ds => by simp [Function.comp_def, form.toData_ofData]

end Form

end Telemetry.Schema
