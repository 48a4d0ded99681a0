import Telemetry.Regex.Escape
import Telemetry.Unicode.Additions

/-!
# Groups and counts

What an opening parenthesis begins, with the flags and the name that may follow it, and the counted
repetitions in braces.
-/

namespace Telemetry.Regex

open Unicode (isBlank)

/-! ## Flags -/

/-- The flag that a letter stands for. -/
def Flag.ofChar? (c : Char) : Option Flag :=
  match c with
  | 'i' => some .caseInsensitive
  | 'm' => some .multiLine
  | 's' => some .dotMatchesNewline
  | 'U' => some .swapGreed
  | 'u' => some .unicode
  | 'R' => some .crlf
  | 'x' => some .verbose
  | _ => none

/-- What has been read of a flag directive. -/
structure FlagScan where
  /-- The flags named so far. -/
  change : FlagChange := {}
  /-- Whether the hyphen was read. -/
  negated : Bool := false
  /-- Whether the hyphen was the last character. -/
  dangling : Bool := false

/-- Adds one character of a directive. -/
def FlagScan.add (f : FlagScan) (c : Char) : Except SyntaxFault FlagScan :=
  if c = '-' then
    if f.negated then .error .flagNegationRepeated
    else .ok { f with negated := true, dangling := true }
  else match Flag.ofChar? c with
    | none => .error .flagUnrecognized
    | some flag =>
      if f.change.on.contains flag || f.change.off.contains flag then .error .flagDuplicate
      else
        let change : FlagChange :=
          if f.negated then { f.change with off := f.change.off ++ [flag] }
          else { f.change with on := f.change.on ++ [flag] }
        .ok { change, negated := f.negated, dangling := false }

/-- Reads flags up to a colon or a closing parenthesis, which is left. -/
def readFlags (f : FlagScan) : List Char → Except SyntaxFault (Parsed FlagChange)
  | [] => .error .flagsUnfinished
  | c :: rest =>
    if c = ':' ∨ c = ')' then
      if f.dangling then .error .flagNegationDangling else .ok (f.change, c :: rest)
    else match f.add c with
      | .error e => .error e
      | .ok f => readFlags f rest

/-! ## Names -/

/-- Whether the character is alphabetic. -/
def isAlphabetic (c : Char) : Bool :=
  c.isAlpha || (128 ≤ c.toNat && Unicode.latestAlphabetic.containsChar c)

/-- Whether the character is alphabetic or a number. -/
def isAlphanumeric (c : Char) : Bool :=
  c.isAlphanum || (128 ≤ c.toNat && Unicode.latestAlphanumeric.containsChar c)

/-- Whether the character may begin the name of a group. -/
def isNameStart (c : Char) : Bool := c = '_' || isAlphabetic c

/-- Whether the character may continue the name of a group. -/
def isNameChar (c : Char) : Bool :=
  c = '_' || c = '.' || c = '[' || c = ']' || isAlphanumeric c

/-- Reads the name of a group up to its closing bracket, of which `seen` was read, last character
first. -/
def readGroupName (seen : List Char) : List Char → Except SyntaxFault (Parsed String)
  | [] => .error .groupNameUnclosed
  | c :: rest =>
    if c = '>' then
      if seen.isEmpty then .error .groupNameEmpty else .ok (String.ofList seen.reverse, rest)
    else if (if seen.isEmpty then isNameStart c else isNameChar c) then
      readGroupName (c :: seen) rest
    else .error .groupNameInvalid

/-! ## Opening parentheses -/

/-- What an opening parenthesis begins. -/
inductive Opening where
  /-- A capturing group, with its name if it has one. -/
  | capture (name : Option String)
  /-- A group that only groups. -/
  | plain (flags : FlagChange)
  /-- No group: a directive for the rest of the enclosing group. -/
  | directive (flags : FlagChange)
  deriving DecidableEq, Repr

/-- Reads the flags of a directive or of a group, from behind the question mark. A directive without
flags reads as a quantifier without operand. -/
def readFlagged (text : List Char) : Except SyntaxFault (Parsed Opening) :=
  match readFlags {} text with
  | .error e => .error e
  | .ok (flags, ')' :: left) =>
    if flags.isEmpty then .error .operandMissing else .ok (.directive flags, left)
  | .ok (flags, left) => .ok (.plain flags, left.drop 1)

/-- Reads what follows an opening parenthesis, as far as it decides the kind of the group. -/
def readOpening (verbose : Bool) (text : List Char) : Except SyntaxFault (Parsed Opening) :=
  match skipBlanks verbose text with
  | '?' :: '=' :: _ | '?' :: '!' :: _ | '?' :: '<' :: '=' :: _ | '?' :: '<' :: '!' :: _ =>
    .error .lookaround
  | '?' :: 'P' :: '<' :: rest | '?' :: '<' :: rest =>
    (readGroupName [] rest).map (fun (name, left) => (.capture (some name), left))
  | ['?'] => .error .groupUnclosed
  | '?' :: rest => readFlagged rest
  | _ => .ok (.capture none, text)

/-! ## Quantifiers -/

/-- The greatest count that a repetition may have. -/
def maxCount : Nat := 0xFFFFFFFF

/-- Reads a decimal number with the blanks around it. -/
def readDecimal (verbose : Bool) (text : List Char) : Except SyntaxFault Nat × List Char :=
  let (digits, rest) := spanText verbose Char.isDigit (text.dropWhile isBlank)
  let value := Unicode.CodePoints.decimalValue digits
  (if digits.isEmpty then .error .countEmpty
   else if maxCount < value then .error .decimalInvalid
   else .ok value,
   rest.dropWhile isBlank)

/-- Reads the bounds of a count from behind its opening brace; the closing brace is left. -/
def readBounds (verbose : Bool) (text : List Char) :
    Except SyntaxFault (Parsed (Nat × Option Nat)) :=
  match skipBlanks verbose text with
  | [] => .error .countUnclosed
  | start =>
    let (least, rest) := readDecimal verbose start
    match rest with
    | [] => .error .countUnclosed
    | ',' :: rest =>
      match skipBlanks verbose rest with
      | [] => .error .countUnclosed
      | '}' :: rest => do
        let min ← least
        return ((min, none), '}' :: rest)
      | rest => do
        let min ← least
        let (most, rest) := readDecimal verbose rest
        let max ← most
        return ((min, some max), rest)
    | rest => do
      let n ← least
      return ((n, some n), rest)

/-- Reads the question mark behind a repetition operator, if it stands there, and tells whether more
repetitions are preferred, which they are without it. -/
def readGreed (verbose : Bool) (text : List Char) : Parsed Bool :=
  match skipBlanks verbose text with
  | '?' :: rest => (false, rest)
  | _ => (true, text)

/-- Reads the end of a count with the given bounds: its closing brace, then a question mark if fewer
repetitions are preferred. -/
def closeCount (verbose : Bool) (bounds : Nat × Option Nat) (text : List Char) :
    Except SyntaxFault (Parsed Quantifier) :=
  match text with
  | '}' :: rest =>
    let (greedy, left) := readGreed verbose rest
    if bounds.2.any (· < bounds.1) then .error .countReversed
    else .ok (⟨bounds.1, bounds.2, greedy⟩, left)
  | _ => .error .countUnclosed

/-- Reads a count from behind its opening brace: `{n}`, `{n,}` or `{n,m}`. -/
def readCount (verbose : Bool) (text : List Char) : Except SyntaxFault (Parsed Quantifier) := do
  let (bounds, rest) ← readBounds verbose text
  closeCount verbose bounds rest

/-- The quantifier of a one-character repetition operator, with a question mark right after it if
fewer repetitions are preferred. -/
def readOperator (c : Char) (text : List Char) : Parsed Quantifier :=
  let (min, max) : Nat × Option Nat :=
    if c = '?' then (0, some 1) else if c = '*' then (0, none) else (1, none)
  let (greedy, left) := readGreed false text
  (⟨min, max, greedy⟩, left)

end Telemetry.Regex
