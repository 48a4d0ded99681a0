import Telemetry.Json.Reader

/-!
# Passing over values

A value that nobody asked for is checked for its form and dropped. Nothing is built, so its lists
and objects may nest to any depth; the open ones are kept on a stack.
-/

namespace Telemetry.Json

/-- Passes over a string from behind its opening quote. -/
def skipString : Nat → List Char → Except Located (List Char)
  | _, [] => .error (Fault.eofInString.before [])
  | 0, text => .error (Fault.eofInString.before text)
  | n + 1, c :: rest =>
    if c = '"' then .ok rest
    else if c = '\\' then
      match rest with
      | 'u' :: rest =>
        match readHexEscape rest with
        | .error e => .error e
        | .ok (_, left) => skipString n left
      | _ =>
        match readEscape rest with
        | .error e => .error e
        | .ok (_, left) => skipString n left
    else if c.toNat < 32 then .error (Fault.controlCharacter.before (c :: rest))
    else skipString n rest

/-- Passes over an exponent from behind its letter. -/
def skipExponent (text : List Char) : Except Located (List Char) :=
  let text := match text with
    | '+' :: rest | '-' :: rest => rest
    | _ => text
  match text with
  | [] => .error (Fault.invalidNumber.before [])
  | c :: rest =>
    if c.isDigit then .ok (rest.dropWhile Char.isDigit)
    else .error (Fault.invalidNumber.at (c :: rest))

/-- Passes over an exponent, if there is one. -/
def skipScale (text : List Char) : Except Located (List Char) :=
  match text with
  | 'e' :: rest | 'E' :: rest => skipExponent rest
  | _ => .ok text

/-- Passes over a number from behind its sign. -/
def skipNumber (text : List Char) : Except Located (List Char) :=
  match text with
  | [] => .error (Fault.invalidNumber.before [])
  | c :: rest =>
    if !c.isDigit then .error (Fault.invalidNumber.at (c :: rest))
    else if c = '0' && rest.head?.any Char.isDigit then .error (Fault.invalidNumber.at rest)
    else
      match rest.dropWhile Char.isDigit with
      | '.' :: decimals =>
        match decimals with
        | d :: _ =>
          if d.isDigit then skipScale (decimals.dropWhile Char.isDigit)
          else .error (Fault.invalidNumber.at decimals)
        | [] => .error (Fault.invalidNumber.at [])
      | left => skipScale left

/-- The kinds of values that hold others. -/
inductive Bracket where
  | list
  | object
  deriving DecidableEq, Repr

/-- Goes on behind a value, or behind the bracket of an empty list or object (`first`): closes what
ends there and passes the comma before the next item. Gives the open brackets and the text of that
item; no open brackets if the outermost value is complete. -/
def settle (first : Bool) : List Bracket → List Char → Except Located (Parsed (List Bracket))
  | [], text => .ok ([], text)
  | b :: outer, text =>
    match skipSpace text, b with
    | [], .list => .error (Fault.eofInList.at [])
    | [], .object => .error (Fault.eofInObject.at [])
    | ']' :: rest, .list => settle false outer rest
    | '}' :: rest, .object => settle false outer rest
    | c :: rest, _ =>
      if first then .ok (b :: outer, c :: rest)
      else if c = ',' then .ok (b :: outer, rest)
      else match b with
        | .list => .error (Fault.expectedListCommaOrEnd.at (c :: rest))
        | .object => .error (Fault.expectedObjectCommaOrEnd.at (c :: rest))

/-- Passes over the key of a member with its colon. -/
def skipKey (text : List Char) : Except Located (List Char) :=
  match skipSpace text with
  | [] => .error (Fault.eofInObject.at [])
  | '"' :: rest =>
    match skipString rest.length rest with
    | .error e => .error e
    | .ok left => readColon left
  | rest => .error (Fault.keyNotString.at rest)

/-- Passes over a value inside of the given open brackets and over all that belongs to them. The
first argument bounds the number of values; the length of the text is enough. -/
def skipWithin : Nat → List Bracket → List Char → Except Located (List Char)
  | 0, _, text => .error (Fault.eofInValue.at text)
  | n + 1, opened, text => do
    let (opened, left) ← match skipSpace text with
      | [] => .error (Fault.eofInValue.at [])
      | '[' :: rest => settle true (.list :: opened) rest
      | '{' :: rest => settle true (.object :: opened) rest
      | 'n' :: rest => do settle false opened (← readWord ['u', 'l', 'l'] rest)
      | 't' :: rest => do settle false opened (← readWord ['r', 'u', 'e'] rest)
      | 'f' :: rest => do settle false opened (← readWord ['a', 'l', 's', 'e'] rest)
      | '"' :: rest => do settle false opened (← skipString rest.length rest)
      | '-' :: rest => do settle false opened (← skipNumber rest)
      | c :: rest =>
        if c.isDigit then do settle false opened (← skipNumber (c :: rest))
        else .error (Fault.expectedValue.at (c :: rest))
    match opened with
    | [] => return left
    | .list :: _ => skipWithin n opened left
    | .object :: _ => do skipWithin n opened (← skipKey left)

/-- Passes over a value. -/
def skipValue (text : List Char) : Except Located (List Char) :=
  skipWithin (text.length + 1) [] text

end Telemetry.Json
