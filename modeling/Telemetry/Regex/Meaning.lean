import Telemetry.Regex.Fault
import Telemetry.Regex.Normal
import Telemetry.Unicode.CaseFolding
import Telemetry.Unicode.Property

/-!
# Resolving flags

`Tree.meaning` turns a syntax tree into what it matches, in normal form. Flags are carried from left
to right: a directive holds to the end of its group, across the alternatives that follow it.
Patterns match well-formed text, so where Unicode is turned off every class has to stay within
ASCII.
-/

namespace Telemetry.Regex

open Unicode (CodePoints)

/-- The flags in force at some place of a pattern. -/
structure Flags where
  caseInsensitive : Bool := false
  multiLine : Bool := false
  dotMatchesNewline : Bool := false
  swapGreed : Bool := false
  unicode : Bool := true
  crlf : Bool := false
  deriving DecidableEq, Repr

namespace Flags

/-- The flags after a directive. -/
def set (f : Flags) (d : FlagChange) : Flags where
  caseInsensitive := (d.value? .caseInsensitive).getD f.caseInsensitive
  multiLine := (d.value? .multiLine).getD f.multiLine
  dotMatchesNewline := (d.value? .dotMatchesNewline).getD f.dotMatchesNewline
  swapGreed := (d.value? .swapGreed).getD f.swapGreed
  unicode := (d.value? .unicode).getD f.unicode
  crlf := (d.value? .crlf).getD f.crlf

/-- Closes a set under a change of case, if case does not matter. -/
def fold (f : Flags) (s : CodePoints) : CodePoints :=
  if f.caseInsensitive then
    if f.unicode then Unicode.CaseFolding.close s else Unicode.CaseFolding.closeAscii s
  else s

/-- What a negated class is the rest of: scalar values, or bytes where Unicode is turned off. -/
def everything (f : Flags) : CodePoints := if f.unicode then Unicode.scalars else .range 0 0xFF

/-- The set or its negation. -/
def negateIf (f : Flags) (negated : Bool) (s : CodePoints) : CodePoints :=
  if negated then f.everything.diff s else s

/-- Admits a set of bytes only if they are ASCII. -/
def checkAscii (f : Flags) (s : CodePoints) : Except SyntaxFault CodePoints :=
  if f.unicode || s.allAtMost 0x7F then .ok s else .error .invalidUtf8

/-- The node of a class. -/
def node (f : Flags) (s : CodePoints) : Node := .ofSet s !f.unicode

/-- Closes a set under a change of case, then negates it. -/
def finishClass (f : Flags) (negated : Bool) (s : CodePoints) : Except SyntaxFault CodePoints :=
  f.checkAscii (f.negateIf negated (f.fold s))

end Flags

/-- The set with the given ASCII ranges. -/
def asciiRanges (rs : List (Char × Char)) : CodePoints :=
  ⟨rs.map (fun (lo, hi) => ⟨lo.toNat, hi.toNat⟩)⟩

/-- The members of a named ASCII class. -/
def AsciiClass.members : AsciiClass → CodePoints
  | .alnum => asciiRanges [('0', '9'), ('A', 'Z'), ('a', 'z')]
  | .alpha => asciiRanges [('A', 'Z'), ('a', 'z')]
  | .ascii => asciiRanges [('\x00', '\x7F')]
  | .blank => asciiRanges [('\t', '\t'), (' ', ' ')]
  | .cntrl => asciiRanges [('\x00', '\x1F'), ('\x7F', '\x7F')]
  | .digit => asciiRanges [('0', '9')]
  | .graph => asciiRanges [('!', '~')]
  | .lower => asciiRanges [('a', 'z')]
  | .print => asciiRanges [(' ', '~')]
  | .punct => asciiRanges [('!', '/'), (':', '@'), ('[', '\x60'), ('\x7B', '~')]
  | .space => asciiRanges [('\t', '\r'), (' ', ' ')]
  | .upper => asciiRanges [('A', 'Z')]
  | .word => asciiRanges [('0', '9'), ('A', 'Z'), ('_', '_'), ('a', 'z')]
  | .xdigit => asciiRanges [('0', '9'), ('A', 'F'), ('a', 'f')]

/-- The members of a class with a letter of its own. -/
def LetterClass.members (unicode : Bool) : LetterClass → CodePoints
  | .digit => if unicode then Unicode.decimalDigit else AsciiClass.digit.members
  | .space => if unicode then Unicode.whiteSpace else AsciiClass.space.members
  | .word => if unicode then Unicode.word else AsciiClass.word.members

/-- The set that a property query selects. -/
def PropertyQuery.members (q : PropertyQuery) : Except SyntaxFault CodePoints :=
  let found := match q with
    | .named name => Unicode.classOf name
    | .valued name value => Unicode.classOfValue name value
  match found with
  | .ok s => .ok s
  | .error .unknownProperty => .error .propertyUnknown
  | .error .unknownValue => .error .propertyValueUnknown

/-- The members of an escaped class. Classes with a letter of their own are closed under a change of
case already. -/
def EscapedClass.members (f : Flags) : EscapedClass → Except SyntaxFault CodePoints
  | .letter negated k => f.checkAscii (f.negateIf negated (k.members f.unicode))
  | .property negated q =>
    if f.unicode then q.members.map (fun s => f.negateIf negated (f.fold s))
    else .error .unicodeNotAllowed

/-- Admits a literal as a character of the text: where Unicode is turned off, a byte beyond ASCII is
not part of any text. -/
def Literal.check (f : Flags) (l : Literal) : Except SyntaxFault Char :=
  if !f.unicode && l.isByte && 0x7F < l.char.toNat then .error .invalidUtf8 else .ok l.char

/-- Admits a literal into a class, which has to be ASCII where Unicode is turned off. -/
def Literal.checkInClass (f : Flags) (l : Literal) : Except SyntaxFault Char := do
  let c ← l.check f
  if !f.unicode && 0x7F < c.toNat then .error .unicodeNotAllowed else return c

/-- The members of what stands in brackets. -/
def ClassSet.members (f : Flags) : ClassSet → Except SyntaxFault CodePoints
  | .empty => .ok .empty
  | .literal l => (l.checkInClass f).map .singleton
  | .range first last => do
    let lo ← first.checkInClass f
    let hi ← last.checkInClass f
    return (CodePoints.range lo.toNat hi.toNat).diff Unicode.surrogates
  | .ascii negated k => f.finishClass negated k.members
  | .escaped c => c.members f
  | .nested negated s => do f.finishClass negated (← s.members f)
  | .union s t => do
    let left ← s.members f
    let right ← t.members f
    return left.union right
  | .combine op s t => do
    let left := f.fold (← s.members f)
    let right := f.fold (← t.members f)
    return match op with
      | .intersection => left.inter right
      | .difference => left.diff right
      | .symmetricDifference => left.symmDiff right

/-- What a dot matches: any character, or any that does not end a line. -/
def dotMembers (f : Flags) : Except SyntaxFault CodePoints :=
  if !f.unicode then .error .invalidUtf8
  else if f.dotMatchesNewline then .ok Unicode.scalars
  else if f.crlf then .ok (Unicode.scalars.diff ((CodePoints.singleton '\n').insert ⟨13, 13⟩))
  else .ok (Unicode.scalars.diff (.singleton '\n'))

/-- What an assertion looks at. -/
def Assertion.look (f : Flags) : Assertion → Look
  | .lineStart =>
    if f.multiLine then (if f.crlf then .lineStartCrlf else .lineStart) else .textStart
  | .lineEnd => if f.multiLine then (if f.crlf then .lineEndCrlf else .lineEnd) else .textEnd
  | .textStart => .textStart
  | .textEnd => .textEnd
  | .wordBoundary => .boundary .any f.unicode
  | .notWordBoundary => .boundary .none f.unicode
  | .wordStart => .boundary .start f.unicode
  | .wordEnd => .boundary .stop f.unicode
  | .wordStartHalf => .boundary .startHalf f.unicode
  | .wordEndHalf => .boundary .stopHalf f.unicode

/-- What the alternatives of a tree match under the flags `f`, and the flags in force after it. -/
def Tree.meanings (f : Flags) : Tree → Except SyntaxFault (List Node × Flags)
  | .empty => .ok ([.empty], f)
  | .flags d => .ok ([.empty], f.set d)
  | .literal l => (l.check f).map (fun c => ([f.node (f.fold (.singleton c))], f))
  | .dot => (dotMembers f).map (fun s => ([f.node s], f))
  | .assertion a => .ok ([.look (a.look f)], f)
  | .escaped c => (c.members f).map (fun s => ([f.node s], f))
  | .bracketed negated s => do
    return ([f.node (← f.finishClass negated (← s.members f))], f)
  | .repetition q t => do
    let (ns, f) ← t.meanings f
    return ([.repeated { q with greedy := q.greedy != f.swapGreed } (.alternation ns)], f)
  | .group (.capture i name) t => do
    let (ns, _) ← t.meanings f
    return ([.capture i name (.alternation ns)], f)
  | .group (.plain d) t => do
    let (ns, _) ← t.meanings (f.set d)
    return ([.alternation ns], f)
  | .seq t u => do
    let (ns, f) ← t.meanings f
    let (ms, f) ← u.meanings f
    return ([.append (.alternation ns) (.alternation ms)], f)
  | .alt t u => do
    let (ns, f) ← t.meanings f
    let (ms, f) ← u.meanings f
    return (ns ++ ms, f)

/-- What a tree matches. -/
def Tree.meaning (t : Tree) : Except SyntaxFault Node :=
  (t.meanings {}).map (fun (ns, _) => .alternation ns)

end Telemetry.Regex
