/-!
# The syntax tree of a pattern

What a pattern says, before its flags are resolved: literals, classes, assertions, groups and
repetitions. Sequences and alternations are binary and lean to the right, and so is the union of the
items of a bracketed class; `depth` counts each of them as one level however long it is.
-/

namespace Telemetry.Regex

/-- The flags that a pattern can set. -/
inductive Flag where
  | caseInsensitive | multiLine | dotMatchesNewline | swapGreed | unicode | crlf | verbose
  deriving DecidableEq, Repr

/-- The flags that a directive such as `i-s` turns on and off. -/
structure FlagChange where
  /-- The flags turned on. -/
  on : List Flag := []
  /-- The flags turned off. -/
  off : List Flag := []
  deriving DecidableEq, Repr

namespace FlagChange

/-- The value that the directive gives to a flag, if it names it. -/
def value? (d : FlagChange) (f : Flag) : Option Bool :=
  if d.on.contains f then some true else if d.off.contains f then some false else none

/-- Whether the directive names no flag. -/
def isEmpty (d : FlagChange) : Bool := d.on.isEmpty && d.off.isEmpty

end FlagChange

/-- A literal character; `isByte` if it was written with two hexadecimal digits, which stand for a
byte where characters beyond ASCII are turned off. -/
structure Literal where
  /-- The character. -/
  char : Char
  /-- Whether it was written as the value of a byte. -/
  isByte : Bool := false
  deriving DecidableEq, Repr

/-- What an assertion demands of its position. -/
inductive Assertion where
  | lineStart | lineEnd | textStart | textEnd
  | wordBoundary | notWordBoundary | wordStart | wordEnd | wordStartHalf | wordEndHalf
  deriving DecidableEq, Repr

/-- The classes with a letter of their own. -/
inductive LetterClass where
  | digit | space | word
  deriving DecidableEq, Repr

/-- The classes named in brackets and colons. -/
inductive AsciiClass where
  | alnum | alpha | ascii | blank | cntrl | digit | graph | lower | print | punct | space | upper
  | word | xdigit
  deriving DecidableEq, Repr

/-- A query for the characters with some property. -/
inductive PropertyQuery where
  /-- A property, category or script called `name`. -/
  | named (name : List Char)
  /-- The value `value` of the property `name`. -/
  | valued (name value : List Char)
  deriving DecidableEq, Repr

/-- A class written by an escape. -/
inductive EscapedClass where
  /-- A class with a letter of its own. -/
  | letter (negated : Bool) (kind : LetterClass)
  /-- The characters that a property query selects. -/
  | property (negated : Bool) (query : PropertyQuery)
  deriving DecidableEq, Repr

/-- The operators between sets in brackets. -/
inductive SetOperator where
  | intersection | difference | symmetricDifference
  deriving DecidableEq, Repr

/-- The contents of a bracketed class. -/
inductive ClassSet where
  | empty
  | literal (l : Literal)
  | range (first last : Literal)
  | ascii (negated : Bool) (kind : AsciiClass)
  | escaped (c : EscapedClass)
  | nested (negated : Bool) (s : ClassSet)
  | union (s t : ClassSet)
  | combine (op : SetOperator) (s t : ClassSet)
  deriving DecidableEq, Repr

namespace ClassSet

/-- The union of items in order. -/
def ofItems : List ClassSet → ClassSet
  | [] => .empty
  | [s] => s
  | s :: rest => .union s (ofItems rest)

/-- Whether the set is a union of items. -/
def isUnion : ClassSet → Bool
  | .union _ _ => true
  | _ => false

/-- The depth to which the set nests. -/
def depth : ClassSet → Nat
  | .nested _ s => 1 + s.depth
  | .union s t => max (1 + s.depth) (if t.isUnion then t.depth else 1 + t.depth)
  | .combine _ s t => 1 + max s.depth t.depth
  | _ => 0

end ClassSet

/-- How often an operand repeats and whether it prefers more. -/
structure Quantifier where
  /-- The least number of repetitions. -/
  min : Nat
  /-- The greatest number, if there is one. -/
  max : Option Nat
  /-- Whether more repetitions are preferred. -/
  greedy : Bool
  deriving DecidableEq, Repr

/-- What a pair of parentheses does. -/
inductive GroupKind where
  /-- Captures what it matches, under an index and perhaps a name. -/
  | capture (index : Nat) (name : Option String)
  /-- Only groups, with flags of its own. -/
  | plain (flags : FlagChange)
  deriving DecidableEq, Repr

/-- The syntax tree of a pattern. -/
inductive Tree where
  | empty
  | flags (change : FlagChange)
  | literal (l : Literal)
  | dot
  | assertion (a : Assertion)
  | escaped (c : EscapedClass)
  | bracketed (negated : Bool) (s : ClassSet)
  | repetition (q : Quantifier) (t : Tree)
  | group (kind : GroupKind) (t : Tree)
  | seq (t u : Tree)
  | alt (t u : Tree)
  deriving DecidableEq, Repr

namespace Tree

/-- The trees one after another. -/
def sequence : List Tree → Tree
  | [] => .empty
  | [t] => t
  | t :: rest => .seq t (sequence rest)

/-- The trees as alternatives, the first preferred. -/
def alternatives : List Tree → Tree
  | [] => .empty
  | [t] => t
  | t :: rest => .alt t (alternatives rest)

/-- Whether the tree is a sequence. -/
def isSeq : Tree → Bool
  | .seq _ _ => true
  | _ => false

/-- Whether the tree is an alternation. -/
def isAlt : Tree → Bool
  | .alt _ _ => true
  | _ => false

/-- The depth to which the tree nests. -/
def depth : Tree → Nat
  | .bracketed _ s => 1 + s.depth
  | .repetition _ t => 1 + t.depth
  | .group _ t => 1 + t.depth
  | .seq t u => max (1 + t.depth) (if u.isSeq then u.depth else 1 + u.depth)
  | .alt t u => max (1 + t.depth) (if u.isAlt then u.depth else 1 + u.depth)
  | _ => 0

/-- Whether a repetition can be applied to the tree: flag directives match nothing. -/
def isOperand : Tree → Bool
  | .empty => false
  | .flags _ => false
  | _ => true

end Tree

end Telemetry.Regex
