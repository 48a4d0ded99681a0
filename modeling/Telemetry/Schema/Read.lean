import Telemetry.Json.Skip
import Telemetry.Schema.Decode

/-!
# Reading shapes from text

`Shape.read` reads a value of a shape straight from JSON text. Here members count in the order in
which they stand, a field may be given once only, and every fault has its place. Members that a
struct does not know are passed over without being built.
-/

namespace Telemetry.Schema

open Json (Mismatch Expectation Fault Located Parsed Found skipSpace)

/-- The scalar in front, or the kind of list or object that starts there, which is not read. -/
def readFound (text : List Char) : Except Located (Parsed Found) := do
  match text with
  | [] => .error (Fault.eofInValue.at [])
  | 'n' :: rest => return (.null, ← Json.readWord ['u', 'l', 'l'] rest)
  | 't' :: rest => return (.bool true, ← Json.readWord ['r', 'u', 'e'] rest)
  | 'f' :: rest => return (.bool false, ← Json.readWord ['a', 'l', 's', 'e'] rest)
  | '"' :: rest =>
    let (s, left) ← Json.readString rest
    return (.string s, left)
  | '-' :: rest =>
    let (n, left) ← Json.readNumber false rest
    return (.number n, left)
  | '[' :: rest => return (.array, '[' :: rest)
  | '{' :: rest => return (.object, '{' :: rest)
  | c :: rest =>
    if c.isDigit then
      let (n, left) ← Json.readNumber true (c :: rest)
      return (.number n, left)
    else .error (Fault.expectedValue.at (c :: rest))

/-- The fault of a text that does not start with what was expected. -/
def unexpected (expected : Expectation) (text : List Char) : Located :=
  match readFound text with
  | .error e => e
  | .ok (found, rest) => (Fault.mismatch (.invalidType found expected)).before rest

/-- The fault of what was read up to `rest`. -/
def misfit (m : Mismatch) (rest : List Char) : Located := (Fault.mismatch m).before rest

/-- Reads a text. -/
def readText (expected : Expectation) (text : List Char) : Except Located (Parsed String) :=
  match skipSpace text with
  | '"' :: rest => Json.readString rest
  | text => .error (unexpected expected text)

/-- Reads a timestamp. -/
def readTimestamp (text : List Char) : Except Located (Parsed Timestamp) := do
  let (s, rest) ← readText .timestamp text
  match Timestamp.parse s.toList with
  | .ok t => return (t, rest)
  | .error e => .error (misfit (.timestamp e) rest)

/-- Reads texts under keys. -/
def readTextMap (text : List Char) : Except Located (Parsed Attributes) :=
  match skipSpace text with
  | '{' :: rest =>
    Json.readObject
      (fun key acc text => do
        let (s, rest) ← readText .text (← Json.readColon text)
        return (acc.insert key s, rest)) .empty rest
  | text => .error (unexpected .map text)

/-- Reads a name that stands for one of some names, from behind its opening quote. -/
def readName (names : List String) (text : List Char) :
    Except Located (Parsed (Fin names.length)) := do
  let (name, rest) ← Json.readString text
  match choose names name with
  | .ok i => return (i, rest)
  | .error e => .error (misfit e rest)

/-- Reads the name that is the only key of an object, from behind its opening brace. -/
def readNameKey (names : List String) (text : List Char) :
    Except Located (Parsed (Fin names.length)) :=
  match skipSpace text with
  | [] => .error (Fault.eofInObject.at [])
  | '"' :: rest => readName names rest
  | '}' :: rest => .error (Fault.expectedValue.at ('}' :: rest))
  | rest => .error (Fault.keyNotString.at rest)

/-- Reads one of some names: its string, or an object with the name as its only key and `null` under
it. -/
def readChoice (names : List String) (text : List Char) :
    Except Located (Parsed (Fin names.length)) := do
  match skipSpace text with
  | [] => .error (Fault.eofInValue.at [])
  | '"' :: rest => readName names rest
  | '{' :: rest =>
    let (i, rest) ← readNameKey names rest
    let rest ← match skipSpace (← Json.readColon rest) with
      | 'n' :: rest => Json.readWord ['u', 'l', 'l'] rest
      | text => .error (unexpected .unit text)
    match skipSpace rest with
    | [] => .error (Fault.eofInObject.before [])
    | '}' :: rest => return (i, rest)
    | rest => .error (Fault.expectedValue.before rest)
  | text => .error (Fault.expectedValue.at text)

/-- Where a fault in a member is placed: behind the brace, if the object ends there. -/
def dropBrace (text : List Char) : List Char :=
  match skipSpace text with
  | '}' :: rest => rest
  | rest => rest

/-- Drops the bracket that ends a list of known length. -/
def closeList (text : List Char) : Except Located (List Char) :=
  match skipSpace text with
  | [] => .error (Fault.eofInList.at [])
  | ']' :: rest => .ok rest
  | ',' :: rest =>
    match skipSpace rest with
    | ']' :: rest => .error (Fault.trailingComma.at (']' :: rest))
    | rest => .error (Fault.trailingCharacters.at rest)
  | rest => .error (Fault.trailingCharacters.at rest)

mutual

/-- Reads a value of a shape. -/
def Shape.read : (shape : Shape) → List Char → Except Located (Parsed shape.Data)
  | .any, text => Json.readValue Json.depthLimit text
  | .text, text => readText .text text
  | .timestamp, text => readTimestamp text
  | .choice names, text => readChoice names text
  | .optional shape, text =>
    match skipSpace text with
    | 'n' :: rest => (Json.readWord ['u', 'l', 'l'] rest).map (fun rest => (none, rest))
    | text => (shape.read text).map (fun (d, rest) => (some d, rest))
  | .list shape, text =>
    match skipSpace text with
    | '[' :: rest => Json.readList (fun text => shape.read text) rest
    | text => .error (unexpected .sequence text)
  | .textMap, text => readTextMap text
  | .struct name strict fields, text =>
    match skipSpace text with
    | '{' :: rest => do
      let (slots, rest) ← Json.readObject
        (fun key slots text =>
          match fields.readMember? key slots text with
          | some result => result
          | none =>
            if strict then
              .error (misfit (.unknownField key fields.names) (dropBrace text))
            else do return (slots, ← Json.skipValue (← Json.readColon text)))
        fields.vacant rest
      match fields.complete slots with
      | .error missing => .error (misfit (.missingField missing) rest)
      | .ok d => return (d, rest)
    | '[' :: rest => do
      let (d, rest) ← fields.readItems (.structOf name fields.size) 0 rest
      return (d, ← closeList rest)
    | text => .error (unexpected (.struct name) text)

/-- Reads a member from behind its key into its slot, which has to be vacant; none if no field has
the key. -/
def Fields.readMember? : (fields : Fields) → String → fields.Slots → List Char →
    Option (Except Located (Parsed fields.Slots))
  | .nil, _, _, _ => none
  | .cons name _ shape rest, key, (slot, slots), text =>
    if key = name then
      if slot.isSome then some (.error (misfit (.duplicateField name) (dropBrace text)))
      else some (do
        let (d, left) ← shape.read (← Json.readColon text)
        return ((some d, slots), left))
    else
      (rest.readMember? key slots text).map
        (fun result => result.map (fun (slots, left) => ((slot, slots), left)))

/-- Reads the items of a list for the fields, up to its closing bracket. The number of items before
them is `index`; `expected` is what is reported if there are too few. -/
def Fields.readItems : (fields : Fields) → Expectation → Nat → List Char →
    Except Located (Parsed fields.Data)
  | .nil, _, _, text => .ok ((), text)
  | .cons _ presence shape rest, expected, index, text => do
    let (d, text) ← match ← Json.nextItem (index = 0) text with
      | some text => shape.read text
      | none =>
        match presence.missing? shape with
        | some d => .ok (d, text)
        | none => .error (misfit (.invalidLength index expected) ((skipSpace text).drop 1))
    let (ds, text) ← rest.readItems expected (index + 1) text
    return ((d, ds), text)

end

end Telemetry.Schema
