import Telemetry.Unicode.CodePoints
import Telemetry.Regex.Tree

/-!
# What a pattern matches

`Node` is a pattern whose flags are resolved: classes are sets of characters, and every assertion
says exactly what it looks at. A literal is a class of one character. Repetitions are normalised as
they are built by `Node.repeated`; sequences and alternations by `Telemetry.Regex.Normal`.
-/

namespace Telemetry.Regex

open Unicode (CodePoints)

/-- The kinds of word boundary. -/
inductive Boundary where
  /-- A word character on exactly one side. -/
  | any
  /-- A word character on both sides or on neither. -/
  | none
  /-- A word begins. -/
  | start
  /-- A word ends. -/
  | stop
  /-- No word character before. -/
  | startHalf
  /-- No word character after. -/
  | stopHalf
  deriving DecidableEq, Repr

/-- What is demanded of a position in the text. -/
inductive Look where
  | textStart | textEnd
  /-- The start of the text or behind a line feed. -/
  | lineStart
  /-- The end of the text or before a line feed. -/
  | lineEnd
  /-- Like `lineStart`, where a carriage return ends a line too, unless a line feed follows it. -/
  | lineStartCrlf
  /-- Like `lineEnd`, where a carriage return ends a line too. -/
  | lineEndCrlf
  /-- A word boundary, where word characters are those of Unicode or of ASCII. -/
  | boundary (kind : Boundary) (unicode : Bool)
  deriving DecidableEq, Repr

/-- A pattern whose flags are resolved. -/
inductive Node where
  | empty
  /-- A character of a set; `narrow` if the class was written where characters beyond ASCII are
  turned off. The same set written in both ways makes two nodes that are not equal. -/
  | chars (s : CodePoints) (narrow : Bool)
  | look (l : Look)
  | capture (index : Nat) (name : Option String) (n : Node)
  | seq (n m : Node)
  | alt (n m : Node)
  | repetition (q : Quantifier) (n : Node)
  deriving DecidableEq, Repr

namespace Node

/-- The node of a set. How the class was written is forgotten if at most one character is in it. -/
def ofSet (s : CodePoints) (narrow : Bool) : Node :=
  .chars s (narrow && !(s.isSingleton || s.isEmpty))

/-- Whether the node is a literal character. -/
def isLiteral : Node → Bool
  | .chars s _ => s.isSingleton
  | _ => false

/-- Whether the node matches the empty text only. -/
def isZeroWidth : Node → Bool
  | .empty | .look _ => true
  | .chars _ _ => false
  | .capture _ _ n => n.isZeroWidth
  | .seq n m | .alt n m => n.isZeroWidth && m.isZeroWidth
  | .repetition q n => q.max = some 0 || n.isZeroWidth

/-- Whether the node can match the empty text, where assertions count as met. -/
def isNullable : Node → Bool
  | .empty | .look _ => true
  | .chars _ _ => false
  | .capture _ _ n => n.isNullable
  | .seq n m => n.isNullable && m.isNullable
  | .alt n m => n.isNullable || m.isNullable
  | .repetition q n => q.min = 0 || n.isNullable

/-- The repetition of a node. What matches only the empty text repeats once at most; repeating
nothing drops the node with its groups, and repeating once leaves it as it is. -/
def repeated (q : Quantifier) (n : Node) : Node :=
  let q := if n.isZeroWidth then
      ⟨min q.min 1, some (match q.max with | some k => min k 1 | none => 1), q.greedy⟩
    else q
  if q.min = 0 ∧ q.max = some 0 then .empty
  else if q.min = 1 ∧ q.max = some 1 then n
  else .repetition q n

/-- The capturing groups of the node, in the order in which they open. -/
def groups : Node → List (Nat × Option String)
  | .empty | .chars _ _ | .look _ => []
  | .capture i name n => (i, name) :: n.groups
  | .seq n m | .alt n m => n.groups ++ m.groups
  | .repetition _ n => n.groups

end Node

end Telemetry.Regex
