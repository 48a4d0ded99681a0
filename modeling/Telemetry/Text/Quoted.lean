import Telemetry.Unicode.Additions

/-!
# Quoted text

A text in quotes as messages show it: quotes, backslashes and the usual controls are escaped by a
letter, and whatever cannot be seen by its code point in braces.
-/

namespace Telemetry.Text

open Unicode

/-- The hexadecimal digits of a number, without leading zeros. -/
def hexDigits (n : Nat) : List Char := Nat.toDigits 16 n

/-- How a character is shown between double quotes. -/
def quoteChar (c : Char) : List Char :=
  match c with
  | '"' => ['\\', '"']
  | '\\' => ['\\', '\\']
  | '\n' => ['\\', 'n']
  | '\r' => ['\\', 'r']
  | '\t' => ['\\', 't']
  | '\x00' => ['\\', '0']
  | _ =>
    if c ≠ ' ' ∧ (c.toNat < 32 ∨ 127 ≤ c.toNat) ∧ unseen.containsChar c then
      ['\\', 'u', '\x7B'] ++ hexDigits c.toNat ++ ['\x7D']
    else [c]

/-- The text in double quotes. -/
def quoted (s : String) : String := String.ofList ('"' :: (s.toList.flatMap quoteChar ++ ['"']))

/-- The texts in double quotes, in square brackets. -/
def quotedList (ss : List String) : String := "[" ++ ", ".intercalate (ss.map quoted) ++ "]"

end Telemetry.Text
