import Telemetry.Regex.Meaning
import Telemetry.Regex.Parser
import Telemetry.Regex.Search
import Telemetry.Regex.Weight

/-!
# Regular expressions

`Regex.compile` turns the text of a pattern into a program; `firstMatch` and `allMatches` search a
text for it. Of the matches that start first, the one preferred by the pattern is found: earlier
alternatives before later ones, and more or fewer repetitions as each quantifier says.
-/

namespace Telemetry

open Regex

/-- What the text of a pattern matches. -/
def Regex.Node.parse (pattern : List Char) : Except SyntaxFault Node := do
  (← Tree.parse pattern).meaning

/-- Why a pattern cannot be compiled. -/
inductive Regex.CompileFault where
  /-- Its text is not a pattern. -/
  | malformed (fault : SyntaxFault)
  /-- Its compiled form is too large. -/
  | tooLarge
  deriving DecidableEq, Repr

/-- A compiled pattern. -/
structure Regex where
  /-- What the pattern matches. -/
  node : Node
  /-- The instructions that search for it. -/
  program : Array Instruction

namespace Regex

/-- The compiled pattern of a node. -/
def ofNode (node : Node) : Regex := ⟨node, node.program.toArray⟩

/-- Compiles the text of a pattern. -/
def compile (pattern : String) : Except CompileFault Regex :=
  match Node.parse pattern.toList with
  | .error e => .error (.malformed e)
  | .ok n => if weightLimit < Node.weight true [n] then .error .tooLarge else .ok (.ofNode n)

/-- The number of groups, the whole match included. -/
def groupCount (r : Regex) : Nat := r.node.groups.foldl (fun k g => max k (g.1 + 1)) 1

/-- The name of the group with the given index, if it has one. -/
def groupName? (r : Regex) (index : Nat) : Option String := (r.node.groups.lookup index).join

/-- The named groups with their indices, in order. -/
def namedGroups (r : Regex) : List (Nat × String) :=
  (List.range r.groupCount).filterMap (fun i => (r.groupName? i).map (i, ·))

/-- The names of the named groups, in order of their indices. -/
def groupNames (r : Regex) : List String := r.namedGroups.map (·.2)

/-- The first match that starts at the position `start` or behind it. -/
def matchFrom (r : Regex) (text : Array Char) (start : Nat) : Option Match :=
  (search r.program text start).bind Thread.match?

/-- The first match in a text. -/
def firstMatch (r : Regex) (text : Array Char) : Option Match := r.matchFrom text 0

/-- Whether the pattern matches somewhere in a text. -/
def isMatch (r : Regex) (text : String) : Bool := (r.firstMatch text.toList.toArray).isSome

/-- What the group called `name` covers in a match of the pattern, if it takes part. -/
def namedSpan? (r : Regex) (m : Match) (name : String) : Option Span :=
  (r.namedGroups.find? (·.2 = name)).bind (fun g => m.group? g.1)

/-- The matches from the position `start` on, one behind another, where `last` is the end of the
match before. An empty match right behind another match is passed over. -/
def matchesFrom (r : Regex) (text : Array Char) : Nat → Nat → Option Nat → List Match
  | 0, _, _ => []
  | n + 1, start, last =>
    let found :=
      match r.matchFrom text start with
      | none => none
      | some m =>
        if m.whole.isEmpty && last = some m.whole.stop then
          (if start < text.size then r.matchFrom text (start + 1) else none)
        else some m
    match found with
    | none => []
    | some m => m :: matchesFrom r text n m.whole.stop (some m.whole.stop)

/-- All matches in a text that do not overlap, from left to right. -/
def allMatches (r : Regex) (text : Array Char) : List Match :=
  r.matchesFrom text (text.size + 2) 0 none

end Regex

end Telemetry
