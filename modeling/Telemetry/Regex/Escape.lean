import Telemetry.Regex.Fault
import Telemetry.Regex.Tree
import Telemetry.Unicode.WhiteSpace

/-!
# Blanks and escapes

The smallest pieces of a pattern's text: the blanks and comments that verbose patterns may hold, and
what follows a backslash. A reader takes the characters that are left and gives what it read with
the characters after it. The reader of an escape skips the blanks within it and leaves those behind
it.
-/

namespace Telemetry.Regex

open Unicode (isBlank hexDigitValue)

/-- What a reader read and the characters left over. -/
abbrev Parsed (α : Type) := α × List Char

/-- Drops the blanks and comments in front, where a comment runs from `#` to the end of its line.
Only verbose patterns have either. -/
def skipBlanks (verbose : Bool) (text : List Char) : List Char :=
  if verbose then go false text else text
where
  /-- Drops blanks and comments; `inComment` if the characters stand in a comment. -/
  go : Bool → List Char → List Char
    | _, [] => []
    | true, c :: rest => go (c ≠ '\n') rest
    | false, c :: rest =>
      if isBlank c then go false rest
      else if c = '#' then go true rest
      else c :: rest

/-- The leading characters that satisfy `p`, and the rest. In a verbose pattern the blanks after
each of them are dropped. The first argument bounds the number of characters; the length of the text
is enough. -/
def spanSkipping (verbose : Bool) (p : Char → Bool) : Nat → List Char → List Char × List Char
  | 0, text => ([], text)
  | _ + 1, [] => ([], [])
  | n + 1, c :: rest =>
    if p c then
      let (taken, left) := spanSkipping verbose p n (skipBlanks verbose rest)
      (c :: taken, left)
    else ([], c :: rest)

/-- `spanSkipping` over the whole text. -/
def spanText (verbose : Bool) (p : Char → Bool) (text : List Char) : List Char × List Char :=
  spanSkipping verbose p text.length text

/-- Whether the character is a hexadecimal digit. -/
def isHexDigit (c : Char) : Bool :=
  ('0' ≤ c && c ≤ '9') || ('a' ≤ c && c ≤ 'f') || ('A' ≤ c && c ≤ 'F')

/-- The character with the code point `n`, if it is a scalar value. -/
def scalar? (n : Nat) : Option Char := if n.isValidChar then some (Char.ofNat n) else none

/-- What an escape or a single character stands for. -/
inductive Primitive where
  | literal (l : Literal)
  | assertion (a : Assertion)
  | escaped (c : EscapedClass)
  deriving DecidableEq, Repr

/-! ## Characters by number -/

/-- Reads exactly `n` hexadecimal digits, each behind the blanks before it; `value` is what the
digits before them wrote. -/
def readHexDigits (verbose : Bool) : Nat → Nat → List Char → Except SyntaxFault (Parsed Nat)
  | 0, value, text => .ok (value, text)
  | n + 1, value, text =>
    match skipBlanks verbose text with
    | [] => .error .escapeUnfinished
    | c :: rest =>
      if isHexDigit c then readHexDigits verbose n (16 * value + hexDigitValue c) rest
      else .error .hexDigitInvalid

/-- Reads a character by its number: `digits` hexadecimal digits, or any number of them in braces.
Two digits without braces may stand for a byte. -/
def readHex (verbose : Bool) (digits : Nat) (text : List Char) :
    Except SyntaxFault (Parsed Literal) := do
  match skipBlanks verbose text with
  | [] => .error .escapeUnfinished
  | '{' :: rest =>
    match spanText verbose isHexDigit (skipBlanks verbose rest) with
    | (_, []) => .error .escapeUnfinished
    | (hex, '}' :: left) =>
      if hex.isEmpty then .error .hexEmpty
      else match scalar? (Unicode.CodePoints.hexValue hex) with
        | some c => .ok (⟨c, false⟩, left)
        | none => .error .hexNotScalar
    | (_, _) => .error .hexDigitInvalid
  | rest =>
    let (value, left) ← readHexDigits verbose digits 0 rest
    match scalar? value with
    | some c => .ok (⟨c, digits = 2⟩, left)
    | none => .error .hexNotScalar

/-! ## Properties -/

/-- The text before the first occurrence of `mark` and the text after it. -/
def breakAt (mark : List Char) : List Char → Option (List Char × List Char)
  | [] => none
  | c :: rest =>
    if mark.isPrefixOf (c :: rest) then some ([], (c :: rest).drop mark.length)
    else (breakAt mark rest).map (fun (before, after) => (c :: before, after))

/-- The class that the text in the braces of a property class makes: `name!=value`, `name:value`,
`name=value` or a name alone. The first form negates the class once more. -/
def EscapedClass.ofText (negated : Bool) (text : List Char) : EscapedClass :=
  match breakAt ['!', '='] text with
  | some (name, value) => .property (!negated) (.valued name value)
  | none =>
    match (breakAt [':'] text).or (breakAt ['='] text) with
    | some (name, value) => .property negated (.valued name value)
    | none => .property negated (.named text)

/-- Reads what follows the letter of a property class: one letter, or text in braces. -/
def readProperty (verbose negated : Bool) (text : List Char) :
    Except SyntaxFault (Parsed EscapedClass) :=
  match skipBlanks verbose text with
  | [] => .error .escapeUnfinished
  | '{' :: rest =>
    match spanText verbose (· ≠ '}') (skipBlanks verbose rest) with
    | (_, []) => .error .escapeUnfinished
    | (query, _ :: left) => .ok (.ofText negated query, left)
  | '\\' :: _ => .error .propertyClassInvalid
  | c :: rest => .ok (.property negated (.named [c]), rest)

/-! ## Word boundaries -/

/-- Whether the character may stand in the name of a special word boundary. -/
def isBoundaryNameChar (c : Char) : Bool := c.isAlpha || c = '-'

/-- Reads what follows `\b`: the name of a special boundary in braces, or nothing. Braces that begin
with another character belong to a counted repetition and are left. -/
def readBoundary (verbose : Bool) (text : List Char) : Except SyntaxFault (Parsed Assertion) :=
  match text with
  | '{' :: rest =>
    match skipBlanks verbose rest with
    | [] => .error .boundaryOrCountUnclosed
    | c :: inner =>
      if isBoundaryNameChar c then
        match spanText verbose isBoundaryNameChar (c :: inner) with
        | (name, '}' :: left) =>
          match String.ofList name with
          | "start" => .ok (.wordStart, left)
          | "end" => .ok (.wordEnd, left)
          | "start-half" => .ok (.wordStartHalf, left)
          | "end-half" => .ok (.wordEndHalf, left)
          | _ => .error .boundaryUnrecognized
        | _ => .error .boundaryUnclosed
      else .ok (.wordBoundary, text)
  | _ => .ok (.wordBoundary, text)

/-! ## Escapes -/

/-- The characters with a meaning of their own in some place of a pattern. -/
def isMeta (c : Char) : Bool :=
  ['\\', '.', '+', '*', '?', '(', ')', '|', '[', ']', '{', '}', '^', '$', '#', '&', '-',
    '~'].contains c

/-- Whether a backslash may stand before the character without changing it: every meta character,
and ASCII characters other than letters, digits and angle brackets. -/
def isEscapable (c : Char) : Bool :=
  isMeta c || (c.toNat < 128 && !c.isAlphanum && c ≠ '<' && c ≠ '>')

/-- Reads what follows a backslash. -/
def readEscape (verbose : Bool) (text : List Char) : Except SyntaxFault (Parsed Primitive) :=
  let literal (c : Char) (rest : List Char) := .ok (.literal ⟨c, false⟩, rest)
  let letter (negated : Bool) (k : LetterClass) (rest : List Char) :=
    .ok (.escaped (.letter negated k), rest)
  match text with
  | [] => .error .escapeUnfinished
  | c :: rest =>
    if c.isDigit then .error .backreference
    else match c with
      | 'x' => (readHex verbose 2 rest).map (fun (l, left) => (.literal l, left))
      | 'u' => (readHex verbose 4 rest).map (fun (l, left) => (.literal l, left))
      | 'U' => (readHex verbose 8 rest).map (fun (l, left) => (.literal l, left))
      | 'p' => (readProperty verbose false rest).map (fun (e, left) => (.escaped e, left))
      | 'P' => (readProperty verbose true rest).map (fun (e, left) => (.escaped e, left))
      | 'd' => letter false .digit rest
      | 's' => letter false .space rest
      | 'w' => letter false .word rest
      | 'D' => letter true .digit rest
      | 'S' => letter true .space rest
      | 'W' => letter true .word rest
      | 'a' => literal '\x07' rest
      | 'f' => literal '\x0C' rest
      | 't' => literal '\t' rest
      | 'n' => literal '\n' rest
      | 'r' => literal '\r' rest
      | 'v' => literal '\x0B' rest
      | 'A' => .ok (.assertion .textStart, rest)
      | 'z' => .ok (.assertion .textEnd, rest)
      | 'b' => (readBoundary verbose rest).map (fun (a, left) => (.assertion a, left))
      | 'B' => .ok (.assertion .notWordBoundary, rest)
      | '<' => .ok (.assertion .wordStart, rest)
      | '>' => .ok (.assertion .wordEnd, rest)
      | _ => if isEscapable c then literal c rest else .error .escapeUnrecognized

end Telemetry.Regex
