import Telemetry.Decimal.Shortest
import Telemetry.Keyed
import Telemetry.Text.Quoted

/-!
# JSON values

Objects keep their members sorted by key, each key once, so two objects with the same members are
the same value. Integers of 64 bits are kept apart from other numbers, which are doubles.
-/

namespace Telemetry

/-- A number of a JSON text. -/
inductive Json.Number where
  /-- An integer of 64 bits, signed or unsigned. -/
  | integer (n : Int)
  /-- A double, by its bits. -/
  | float (bits : UInt64)
  deriving DecidableEq, Repr

/-- A JSON value. -/
inductive Json where
  | null
  | bool (b : Bool)
  | number (n : Json.Number)
  | string (s : String)
  | array (items : List Json)
  | object (members : List (String × Json))
  deriving Repr, Inhabited

namespace Json

/-- The object with the given members; of members with the same key the last counts. -/
def ofMembers (members : List (String × Json)) : Json := .object (Keyed.ofList members)

/-- The value of a member of an object. -/
def member? (j : Json) (key : String) : Option Json :=
  match j with
  | .object members => Keyed.get? key members
  | _ => none

/-- The text of a string. -/
def asString? : Json → Option String
  | .string s => some s
  | _ => none

/-- Doubles are written with the fewest digits that read back, in positional notation from five
places behind the point to sixteen before it. -/
def floatNotation : Decimal.Notation := ⟨-5, 15, "+"⟩

/-- The text of a double; `null` for what is no number. -/
def floatText (bits : UInt64) : String :=
  match Decimal.Binary.ofBits? bits with
  | none => "null"
  | some b =>
    (if bits >>> 63 = 1 then "-" else "") ++
      floatNotation.write (if b.mantissa = 0 then ⟨0, 0⟩ else Decimal.shortest b)

/-- The text of a number. -/
def Number.text : Number → String
  | .integer n => toString n
  | .float bits => floatText bits

/-! ## Writing -/

/-- How a character is written in a JSON string. -/
def escapeChar (c : Char) : List Char :=
  match c with
  | '"' => ['\\', '"']
  | '\\' => ['\\', '\\']
  | '\n' => ['\\', 'n']
  | '\r' => ['\\', 'r']
  | '\t' => ['\\', 't']
  | '\x08' => ['\\', 'b']
  | '\x0C' => ['\\', 'f']
  | _ =>
    if c.toNat < 32 then
      ['\\', 'u', '0', '0'] ++ (if c.toNat < 16 then ['0'] else []) ++ Text.hexDigits c.toNat
    else [c]

/-- The JSON string of a text. -/
def stringText (s : String) : String := String.ofList ('"' :: (s.toList.flatMap escapeChar ++ ['"']))

mutual

/-- The text of a value, without blanks. -/
def render : Json → String
  | .null => "null"
  | .bool b => if b then "true" else "false"
  | .number n => n.text
  | .string s => stringText s
  | .array items => "[" ++ ",".intercalate (renderItems items) ++ "]"
  | .object members => "\x7B" ++ ",".intercalate (renderMembers members) ++ "\x7D"

/-- The texts of the items of an array. -/
def renderItems : List Json → List String
  | [] => []
  | j :: rest => render j :: renderItems rest

/-- The texts of the members of an object. -/
def renderMembers : List (String × Json) → List String
  | [] => []
  | (k, v) :: rest => (stringText k ++ ":" ++ render v) :: renderMembers rest

end

end Json

end Telemetry
