import Telemetry.Json.Mismatch
import Telemetry.Text.Bytes

/-!
# Faults of a JSON text

A fault is noted with the number of bytes behind the place where it was found; `Located.placeIn`
turns that into the line and column that a reader of the message wants.
-/

namespace Telemetry.Json

/-- Why a text is not the document that was asked for. -/
inductive Fault where
  | eofInList
  | eofInObject
  | eofInString
  | eofInValue
  | expectedColon
  | expectedListCommaOrEnd
  | expectedObjectCommaOrEnd
  | expectedIdent
  | expectedValue
  | invalidEscape
  | invalidNumber
  | numberOutOfRange
  | controlCharacter
  | keyNotString
  | loneSurrogate
  | trailingComma
  | trailingCharacters
  | unfinishedHexEscape
  | recursionLimit
  | mismatch (m : Mismatch)
  deriving DecidableEq, Repr

/-- The wording of a fault. -/
def Fault.message : Fault → String
  | .eofInList => "EOF while parsing a list"
  | .eofInObject => "EOF while parsing an object"
  | .eofInString => "EOF while parsing a string"
  | .eofInValue => "EOF while parsing a value"
  | .expectedColon => "expected `:`"
  | .expectedListCommaOrEnd => "expected `,` or `]`"
  | .expectedObjectCommaOrEnd => "expected `,` or `\x7D`"
  | .expectedIdent => "expected ident"
  | .expectedValue => "expected value"
  | .invalidEscape => "invalid escape"
  | .invalidNumber => "invalid number"
  | .numberOutOfRange => "number out of range"
  | .controlCharacter => "control character (\\u0000-\\u001F) found while parsing a string"
  | .keyNotString => "key must be a string"
  | .loneSurrogate => "lone leading surrogate in hex escape"
  | .trailingComma => "trailing comma"
  | .trailingCharacters => "trailing characters"
  | .unfinishedHexEscape => "unexpected end of hex escape"
  | .recursionLimit => "recursion limit exceeded"
  | .mismatch m => m.message

/-- A fault and the number of bytes behind it. -/
structure Located where
  /-- The fault. -/
  fault : Fault
  /-- How many bytes of the text follow its place. -/
  remaining : Nat
  deriving DecidableEq, Repr

/-- A fault found before the characters `rest`. -/
def Fault.before (f : Fault) (rest : List Char) : Located := ⟨f, Text.byteLength rest⟩

/-- A fault of the next byte: its place is behind that byte, or the end of the text. -/
def Fault.at (f : Fault) (rest : List Char) : Located := ⟨f, Text.byteLength rest - 1⟩

/-- A place in a text. -/
structure Position where
  /-- The line, from one. -/
  line : Nat
  /-- The number of bytes before it in the line. -/
  column : Nat
  deriving DecidableEq, Repr

/-- The place at a byte offset: a line feed before it ends a line. -/
def Position.ofOffset (offset : Nat) (text : List Char) : Position :=
  go offset text ⟨1, 0⟩
where
  /-- Moves on over the characters that lie before the offset. -/
  go : Nat → List Char → Position → Position
    | _, [], p => p
    | offset, c :: rest, p =>
      if offset < c.utf8Size then { p with column := p.column + offset }
      else go (offset - c.utf8Size) rest
        (if c = '\n' then ⟨p.line + 1, 0⟩ else { p with column := p.column + c.utf8Size })

/-- A fault and its place in the text. -/
structure Placed where
  fault : Fault
  position : Position
  deriving DecidableEq, Repr

/-- The place of a fault in the text that was read. -/
def Located.placeIn (e : Located) (text : List Char) : Placed :=
  ⟨e.fault, .ofOffset (Text.byteLength text - e.remaining) text⟩

/-- The message of a fault with its place. -/
def Placed.message (e : Placed) : String :=
  e.fault.message ++ " at line " ++ toString e.position.line ++
    " column " ++ toString e.position.column

/-- Why something is not what was asked for: a text, or a value that was there already. -/
inductive Refusal where
  | text (fault : Placed)
  | value (mismatch : Mismatch)
  deriving DecidableEq, Repr

/-- The wording of a refusal. -/
def Refusal.message : Refusal → String
  | .text fault => fault.message
  | .value mismatch => mismatch.message

end Telemetry.Json
