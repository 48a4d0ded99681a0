import Telemetry.Regex.Escape

/-!
# Bracketed classes

A bracketed class holds literals, ranges, escapes, named ASCII classes and further bracketed
classes, combined by `&&`, `--` and `~~`, which bind from the left. The reader keeps the open
classes on a stack, so nothing here depends on how deep they nest.
-/

namespace Telemetry.Regex

open Unicode (isBlank)

/-- A bracketed class under construction. -/
structure OpenClass where
  /-- Whether the class is negated. -/
  negated : Bool
  /-- The left operand and the operator waiting for a right operand, if any. -/
  pending : Option (ClassSet × SetOperator) := none
  /-- The items since the last operator, last first. -/
  items : List ClassSet
  deriving Repr

namespace OpenClass

/-- Adds an item. -/
def push (o : OpenClass) (item : ClassSet) : OpenClass := { o with items := item :: o.items }

/-- The set read so far. -/
def contents (o : OpenClass) : ClassSet :=
  match o.pending with
  | none => .ofItems o.items.reverse
  | some (left, op) => .combine op left (.ofItems o.items.reverse)

/-- Ends an operand: what was read so far is the left operand of `op`. -/
def operator (o : OpenClass) (op : SetOperator) : OpenClass :=
  { o with pending := some (o.contents, op), items := [] }

end OpenClass

/-- The ASCII class with the given name. -/
def AsciiClass.ofName? (name : String) : Option AsciiClass :=
  match name with
  | "alnum" => some .alnum
  | "alpha" => some .alpha
  | "ascii" => some .ascii
  | "blank" => some .blank
  | "cntrl" => some .cntrl
  | "digit" => some .digit
  | "graph" => some .graph
  | "lower" => some .lower
  | "print" => some .print
  | "punct" => some .punct
  | "space" => some .space
  | "upper" => some .upper
  | "word" => some .word
  | "xdigit" => some .xdigit
  | _ => none

/-- Reads the name of a named class up to the colon and the bracket that end it. -/
def readAsciiName? (negated : Bool) (text : List Char) : Option (ClassSet × List Char) :=
  match text.dropWhile (· ≠ ':') with
  | ':' :: ']' :: left =>
    (AsciiClass.ofName? (String.ofList (text.takeWhile (· ≠ ':')))).map
      (fun kind => (.ascii negated kind, left))
  | _ => none

/-- Reads a named class such as `[:^alpha:]` from behind its opening bracket. Text of another form
is no named class. -/
def readAsciiClass? (text : List Char) : Option (ClassSet × List Char) :=
  match text with
  | ':' :: '^' :: rest => readAsciiName? true rest
  | ':' :: rest => readAsciiName? false rest
  | _ => none

/-- Reads an operator between sets. -/
def readSetOperator? (text : List Char) : Option (Parsed SetOperator) :=
  match text with
  | '&' :: '&' :: rest => some (.intersection, rest)
  | '-' :: '-' :: rest => some (.difference, rest)
  | '~' :: '~' :: rest => some (.symmetricDifference, rest)
  | _ => none

/-- Reads one boundary of a range, or a single item: an escape or any character. -/
def readClassItem (verbose : Bool) (text : List Char) : Except SyntaxFault (Parsed Primitive) :=
  match text with
  | [] => .error .classUnclosed
  | '\\' :: rest => readEscape verbose rest
  | c :: rest => .ok (.literal ⟨c, false⟩, rest)

/-- A primitive as an item of a class; assertions have no place there. -/
def Primitive.toItem : Primitive → Except SyntaxFault ClassSet
  | .literal l => .ok (.literal l)
  | .escaped c => .ok (.escaped c)
  | .assertion _ => .error .classEscapeInvalid

/-- A primitive as a boundary of a range, which has to be a literal. -/
def Primitive.toBoundary : Primitive → Except SyntaxFault Literal
  | .literal l => .ok l
  | _ => .error .classRangeNotLiteral

/-- The first character of the text that is significant: in a verbose pattern the one after blanks,
one `#` and further blanks. -/
def peekSignificant (verbose : Bool) (text : List Char) : Option Char :=
  if verbose then
    match text.dropWhile isBlank with
    | '#' :: rest => (rest.dropWhile isBlank).head?
    | rest => rest.head?
  else text.head?

/-- Reads an item or a range of a class. A hyphen is literal before a closing bracket and part of an
operator before another hyphen. -/
def readClassRange (verbose : Bool) (text : List Char) : Except SyntaxFault (Parsed ClassSet) := do
  let (first, rest) ← readClassItem verbose text
  match skipBlanks verbose rest with
  | [] => .error .classUnclosed
  | '-' :: after =>
    let next := peekSignificant verbose after
    if next = some ']' ∨ next = some '-' then
      return (← first.toItem, '-' :: after)
    match skipBlanks verbose after with
    | [] => .error .classUnclosed
    | afterHyphen =>
      let (last, left) ← readClassItem verbose afterHyphen
      let lo ← first.toBoundary
      let hi ← last.toBoundary
      if lo.char ≤ hi.char then return (.range lo hi, left) else .error .classRangeReversed
  | left => return (← first.toItem, left)

/-- Takes the hyphens that stand first in a class, which are literal, with the items before them. -/
def leadingHyphens (verbose : Bool) :
    Nat → List ClassSet → List Char → Except SyntaxFault (Parsed (List ClassSet))
  | n + 1, items, '-' :: rest =>
    match skipBlanks verbose rest with
    | [] => .error .classUnclosed
    | next => leadingHyphens verbose n (.literal ⟨'-', false⟩ :: items) next
  | _, items, text => .ok (items, text)

/-- Reads the mark that negates a class, if it stands there. -/
def readNegation (verbose : Bool) (text : List Char) : Parsed Bool :=
  match skipBlanks verbose text with
  | '^' :: rest => (true, skipBlanks verbose rest)
  | rest => (false, rest)

/-- Reads the beginning of a bracketed class from behind its bracket: the negation, literal hyphens,
and a closing bracket that stands first and is literal. -/
def openClass (verbose : Bool) (text : List Char) : Except SyntaxFault (Parsed OpenClass) :=
  match readNegation verbose text with
  | (_, []) => .error .classUnclosed
  | (negated, start) => do
    let (items, afterHyphens) ← leadingHyphens verbose start.length [] start
    match items, afterHyphens with
    | [], ']' :: rest =>
      match skipBlanks verbose rest with
      | [] => .error .classUnclosed
      | next => return ({ negated, items := [.literal ⟨']', false⟩] }, next)
    | _, _ => return ({ negated, items }, afterHyphens)

/-- Reads the rest of the class `current`, whose enclosing classes are `outer`. The first argument
bounds the number of items; the length of the text is enough. -/
def readClassBody (verbose : Bool) :
    Nat → OpenClass → List OpenClass → List Char → Except SyntaxFault (Parsed (Bool × ClassSet))
  | 0, _, _, _ => .error .classUnclosed
  | n + 1, current, outer, text =>
    match skipBlanks verbose text with
    | [] => .error .classUnclosed
    | '[' :: rest =>
      match readAsciiClass? rest with
      | some (item, left) => readClassBody verbose n (current.push item) outer left
      | none => do
        let (opened, left) ← openClass verbose rest
        readClassBody verbose n opened (current :: outer) left
    | ']' :: rest =>
      match outer with
      | [] => .ok ((current.negated, current.contents), rest)
      | enclosing :: outer =>
        readClassBody verbose n (enclosing.push (.nested current.negated current.contents)) outer
          rest
    | item =>
      match readSetOperator? item with
      | some (op, left) => readClassBody verbose n (current.operator op) outer left
      | none => do
        let (s, left) ← readClassRange verbose item
        readClassBody verbose n (current.push s) outer left

/-- Reads a bracketed class from behind its opening bracket. -/
def readClass (verbose : Bool) (text : List Char) : Except SyntaxFault (Parsed Tree) := do
  let (opened, rest) ← openClass verbose text
  let ((negated, contents), left) ← readClassBody verbose (rest.length + 1) opened [] rest
  return (.bracketed negated contents, left)

end Telemetry.Regex
