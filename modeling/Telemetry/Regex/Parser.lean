import Telemetry.Regex.Bracket
import Telemetry.Regex.Group

/-!
# Reading a pattern

`Builder` is the state in which the text of a pattern is read: the alternatives and items of the
innermost open group and the open groups around it. Each step takes one item from the text, and
`Tree.parse` reads the whole text and checks how deep it nests.
-/

namespace Telemetry.Regex

/-- An open group: what it is and what came before it in the enclosing group. -/
structure OpenGroup where
  /-- The kind of the group. -/
  kind : GroupKind
  /-- Whether the text around the group is verbose. -/
  verbose : Bool
  /-- The alternatives of the enclosing group that are complete, last first. -/
  alternatives : List Tree
  /-- The items of its last alternative, last first. -/
  items : List Tree
  deriving Repr

/-- The state in which a pattern is read. -/
structure Builder where
  /-- Whether blanks and comments are skipped. -/
  verbose : Bool := false
  /-- The alternatives of the innermost group that are complete, last first. -/
  alternatives : List Tree := []
  /-- The items of its last alternative, last first. -/
  items : List Tree := []
  /-- The open groups, innermost first. -/
  opened : List OpenGroup := []
  /-- How many capturing groups have begun. -/
  captures : Nat := 0
  /-- The names that capturing groups have. -/
  names : List String := []
  deriving Repr

namespace Builder

/-- Adds an item to the last alternative. -/
def push (b : Builder) (t : Tree) : Builder := { b with items := t :: b.items }

/-- What the innermost group holds. -/
def contents (b : Builder) : Tree :=
  .alternatives (b.alternatives.reverse ++ [.sequence b.items.reverse])

/-- Begins the next alternative. -/
def alternative (b : Builder) : Builder :=
  { b with alternatives := .sequence b.items.reverse :: b.alternatives, items := [] }

/-- Opens a group. -/
def openGroup (b : Builder) (kind : GroupKind) (verbose : Bool) : Builder :=
  { b with
    verbose, alternatives := [], items := []
    opened := ⟨kind, b.verbose, b.alternatives, b.items⟩ :: b.opened }

/-- Closes the innermost group. -/
def closeGroup (b : Builder) : Except SyntaxFault Builder :=
  match b.opened with
  | [] => .error .groupUnopened
  | g :: outer =>
    .ok { b with
      verbose := g.verbose, alternatives := g.alternatives
      items := .group g.kind b.contents :: g.items, opened := outer }

/-- Applies an opening parenthesis that was read. -/
def apply (b : Builder) : Opening → Except SyntaxFault Builder
  | .directive d => .ok ({ b with verbose := (d.value? .verbose).getD b.verbose }.push (.flags d))
  | .plain d => .ok (b.openGroup (.plain d) ((d.value? .verbose).getD b.verbose))
  | .capture none =>
    .ok ({ b with captures := b.captures + 1 }.openGroup (.capture (b.captures + 1) none) b.verbose)
  | .capture (some name) =>
    if b.names.contains name then .error .groupNameDuplicate
    else .ok
      ({ b with captures := b.captures + 1, names := b.names ++ [name] }.openGroup
        (.capture (b.captures + 1) (some name)) b.verbose)

/-- The item before a repetition operator and the builder without it. -/
def takeOperand (b : Builder) : Except SyntaxFault (Tree × Builder) :=
  match b.items with
  | t :: items => if t.isOperand then .ok (t, { b with items }) else .error .operandMissing
  | [] => .error .operandMissing

/-- Reads one item from a text that does not begin with a blank. -/
def step (b : Builder) (text : List Char) : Except SyntaxFault (Builder × List Char) :=
  match text with
  | [] => .ok (b, [])
  | '(' :: rest => do
    let (opening, left) ← readOpening b.verbose rest
    return (← b.apply opening, left)
  | ')' :: rest => do return (← b.closeGroup, rest)
  | '|' :: rest => .ok (b.alternative, rest)
  | '[' :: rest => do
    let (t, left) ← readClass b.verbose rest
    return (b.push t, left)
  | '{' :: rest => do
    let (operand, b) ← b.takeOperand
    let (q, left) ← readCount b.verbose rest
    return (b.push (.repetition q operand), left)
  | '\\' :: rest => do
    let (p, left) ← readEscape b.verbose rest
    return (b.push (match p with
      | .literal l => .literal l
      | .assertion a => .assertion a
      | .escaped c => .escaped c), left)
  | '.' :: rest => .ok (b.push .dot, rest)
  | '^' :: rest => .ok (b.push (.assertion .lineStart), rest)
  | '$' :: rest => .ok (b.push (.assertion .lineEnd), rest)
  | c :: rest =>
    if c = '?' ∨ c = '*' ∨ c = '+' then do
      let (operand, b) ← b.takeOperand
      let (q, left) := readOperator c rest
      return (b.push (.repetition q operand), left)
    else .ok (b.push (.literal ⟨c, false⟩), rest)

/-- Reads all items of the text, and leaves the blanks behind the last one. The first argument
bounds the number of items; the length of the text is enough. -/
def run : Nat → Builder → List Char → Except SyntaxFault (Parsed Builder)
  | 0, b, text => .ok (b, text)
  | n + 1, b, text =>
    match skipBlanks b.verbose text with
    | [] => .ok (b, text)
    | start =>
      match b.step start with
      | .error e => .error e
      | .ok (b, rest) => run n b rest

/-- The tree that was read, if every group is closed. -/
def finish (b : Builder) : Except SyntaxFault Tree :=
  if b.opened.isEmpty then .ok b.contents else .error .groupUnclosed

end Builder

/-- The syntax tree of a pattern. -/
def Tree.parse (text : List Char) : Except SyntaxFault Tree := do
  let (b, _) ← Builder.run text.length {} text
  let t ← b.finish
  if nestLimit < t.depth then .error .nestTooDeep else return t

end Telemetry.Regex
