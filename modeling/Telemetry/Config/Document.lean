import Telemetry.Config.Error
import Telemetry.Config.Form

/-!
# Reading documents

A document is read in two steps, so that an entry that is no processor is reported under its id
rather than by its place in the text.
-/

namespace Telemetry.Config

open Schema

/-- What a document is given as. -/
inductive Source where
  | text (text : String)
  | value (j : Json)

/-- The form of a document with the processors left as they are. -/
def outline : Form (List Json) where
  shape := .struct "RawDocument" true (.cons "processors" .defaulted Form.json.list.shape .nil)
  toData := fun entries => (Form.json.list.toData entries, ())
  ofData := fun (entries, ()) => Form.json.list.ofData entries
  ofData_toData := fun entries => by simp only [Form.ofData_toData]
  toData_ofData := fun d => by simp only [Form.toData_ofData]

/-- How an entry is called that is no processor: by its id, or else by its index. -/
def entryLabel (index : Nat) (entry : Json) : String :=
  ((entry.member? "id").bind Json.asString?).getD ("#" ++ toString index)

/-- Reads the entries of a document; `index` is the number of those before. -/
def readEntries : Nat → List Json → Except Error (List Processor)
  | _, [] => .ok []
  | index, entry :: rest =>
    match Processor.form.decode entry with
    | .error e => .error (.malformed (entryLabel index entry) e)
    | .ok p => (readEntries (index + 1) rest).map (p :: ·)

/-- Takes a JSON value for a document. -/
def ofJson (j : Json) : Except Error Config :=
  match outline.decode j with
  | .error e => .error (.unreadable (.value e))
  | .ok entries => (readEntries 0 entries).map ({ processors := · })

/-- Reads a text that is a document. -/
def parse (text : String) : Except Error Config :=
  match Json.parse text with
  | .error e => .error (.unreadable (.text e))
  | .ok j => ofJson j

/-- Reads a document. -/
def Source.read : Source → Except Error Config
  | .text s => parse s
  | .value j => ofJson j

end Telemetry.Config
