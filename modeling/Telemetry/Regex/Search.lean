import Telemetry.Regex.Program
import Telemetry.Unicode.Property

/-!
# Search

A program is run over a text by depth-first search: threads wait on a stack in order of preference,
and a thread that comes to an instruction at a position where one has been before is dropped, since
the earlier one found nothing there or is still preferred. So a search takes time proportional to
the program times the text that it looks at. A search for all acceptances goes on where the other
one stops. Positions count characters. Main statements: `Visited.contains_insert` and
`Visited.index_inj`.
-/

namespace Telemetry.Regex

/-! ## Assertions -/

/-- Whether the character counts as part of a word. -/
def isWordChar (unicode : Bool) (c : Char) : Bool :=
  c.isAlphanum || c = '_' || (unicode && 128 ≤ c.toNat && Unicode.word.containsChar c)

/-- Whether a word boundary of the given kind lies between a word character or not (`before`) and
another (`after`). -/
def Boundary.holds (b : Boundary) (before after : Bool) : Bool :=
  match b with
  | .any => before != after
  | .none => before == after
  | .start => !before && after
  | .stop => before && !after
  | .startHalf => !before
  | .stopHalf => !after

/-- Whether an assertion holds between the characters `before` and `after`, which are absent at the
ends of the text. -/
def Look.holds (l : Look) (before after : Option Char) : Bool :=
  match l with
  | .textStart => before.isNone
  | .textEnd => after.isNone
  | .lineStart => before.all (· = '\n')
  | .lineEnd => after.all (· = '\n')
  | .lineStartCrlf => before.all (fun c => c = '\n' || (c = '\r' && after ≠ some '\n'))
  | .lineEndCrlf => after.all (fun c => c = '\r' || (c = '\n' && before ≠ some '\r'))
  | .boundary kind unicode =>
    kind.holds (before.any (isWordChar unicode)) (after.any (isWordChar unicode))

/-- The character before a position. -/
def charBefore (text : Array Char) (pos : Nat) : Option Char :=
  if pos = 0 then none else text[pos - 1]?

/-! ## Threads -/

/-- A run of the program: where it stands and what it noted, latest first. -/
structure Thread where
  /-- The address of the next instruction. -/
  pc : Nat
  /-- The position in the text. -/
  pos : Nat
  /-- The slots written so far with their positions. -/
  slots : List (Nat × Nat)
  deriving DecidableEq, Repr

/-- The threads that an instruction makes of a thread, in order of preference. -/
def Instruction.advance (i : Instruction) (text : Array Char) (t : Thread) : List Thread :=
  match i with
  | .chars s next =>
    match text[t.pos]? with
    | some c => if s.containsChar c then [⟨next, t.pos + 1, t.slots⟩] else []
    | none => []
  | .look l next =>
    if l.holds (charBefore text t.pos) text[t.pos]? then [{ t with pc := next }] else []
  | .split first second => [{ t with pc := first }, { t with pc := second }]
  | .jump next => [{ t with pc := next }]
  | .save slot next => [⟨next, t.pos, (slot, t.pos) :: t.slots⟩]
  | .accept => []

/-- Marks with the one at `i` set; they are made longer if they do not reach so far. -/
def setMark (marks : Array Bool) (i : Nat) : Array Bool :=
  if h : i < marks.size then marks.set i true h
  else (marks ++ Array.replicate (i - marks.size) false).push true

theorem getD_setMark (marks : Array Bool) (i j : Nat) :
    (setMark marks i)[j]?.getD false = (decide (i = j) || marks[j]?.getD false) := by
  unfold setMark
  split
  · rename_i h
    rw [Array.getElem?_set]
    split <;> simp_all
  · rename_i h
    rw [Array.getElem?_push, Array.getElem?_append, Array.size_append, Array.size_replicate,
      Nat.add_sub_cancel' (Nat.le_of_not_lt h)]
    by_cases hij : j = i
    · simp [hij]
    · by_cases hj : j < marks.size
      · simp [hij, hj, Ne.symm hij]
      · simp only [hij, hj, Ne.symm hij, if_false, decide_false, Bool.false_or,
          Array.getElem?_eq_none (Nat.le_of_not_lt hj), Array.getElem?_replicate]
        split <;> rfl

/-- The pairs of an address and a position that threads have been at. No position is before
`first`. -/
structure Visited where
  /-- One mark for each pair, the addresses of a position side by side, up to the last pair that is
  marked. -/
  marks : Array Bool
  /-- The number of addresses. -/
  addresses : Nat
  /-- The position that the marks begin with. -/
  first : Nat

namespace Visited

/-- No pair. -/
def empty (addresses first : Nat) : Visited := ⟨#[], addresses, first⟩

/-- Where the mark of a pair is. -/
def index (v : Visited) (pc pos : Nat) : Nat := (pos - v.first) * v.addresses + pc

/-- Whether a thread has been there. -/
def contains (v : Visited) (pc pos : Nat) : Bool := v.marks[v.index pc pos]?.getD false

/-- Marks a pair. -/
def insert (v : Visited) (pc pos : Nat) : Visited :=
  { v with marks := setMark v.marks (v.index pc pos) }

@[simp] theorem contains_empty (addresses first pc pos : Nat) :
    (empty addresses first).contains pc pos = false := by
  simp [empty, contains]

/-- To mark a pair marks no other one that has a mark of its own. -/
theorem contains_insert (v : Visited) (pc pos pc' pos' : Nat) :
    (v.insert pc pos).contains pc' pos' =
      (decide (v.index pc pos = v.index pc' pos') || v.contains pc' pos') :=
  getD_setMark v.marks _ _

/-- Pairs of addresses in range and positions from the first one on have marks of their own. -/
theorem index_inj (v : Visited) {pc pos pc' pos' : Nat} (hpc : pc < v.addresses)
    (hpc' : pc' < v.addresses) (hpos : v.first ≤ pos) (hpos' : v.first ≤ pos') :
    v.index pc pos = v.index pc' pos' ↔ pc = pc' ∧ pos = pos' := by
  refine ⟨fun h => ?_, by rintro ⟨rfl, rfl⟩; rfl⟩
  simp only [index] at h
  have hp : pc = pc' := by
    have := congrArg (· % v.addresses) h
    simpa [Nat.mul_add_mod', Nat.mod_eq_of_lt hpc, Nat.mod_eq_of_lt hpc'] using this
  subst hp
  have := Nat.eq_of_mul_eq_mul_right (Nat.zero_lt_of_lt hpc) (Nat.add_right_cancel h)
  exact ⟨rfl, by omega⟩

end Visited

/-- The thread that starts at a position. -/
def Thread.startingAt (pos : Nat) : Thread := ⟨0, pos, [(0, pos)]⟩

/-- Runs the threads on the stack until one accepts, and when none is left, those that start at
`start` or behind it. The first argument bounds the number of steps: a step takes a thread from the
stack or puts one that starts there. -/
def explore (program : Array Instruction) (text : Array Char) :
    Nat → Visited → Nat → List Thread → Option Thread
  | 0, _, _, _ => none
  | n + 1, visited, start, [] =>
    if start ≤ text.size then explore program text n visited (start + 1) [.startingAt start]
    else none
  | n + 1, visited, start, t :: rest =>
    if visited.contains t.pc t.pos then explore program text n visited start rest
    else
      match program[t.pc]? with
      | none => explore program text n visited start rest
      | some .accept => some t
      | some i =>
        explore program text n (visited.insert t.pc t.pos) start (i.advance text t ++ rest)

/-- Enough steps for any search: every start is put on the stack once, every pair of an address and
a position puts at most two threads on it, and what is put there is taken once. -/
def stepBound (addresses positions : Nat) : Nat := 2 * (addresses + 1) * positions + 1

/-- The thread that accepts with the greatest preference among those that start at `start` or
behind it; an earlier start is preferred. -/
def search (program : Array Instruction) (text : Array Char) (start : Nat) : Option Thread :=
  explore program text (stepBound program.size (text.size + 1)) (.empty program.size start) start []

/-- Runs the threads on the stack, and when none is left, those that start at `start` or behind it,
until nothing is left to run. The addresses where threads accept are added to `found`. The number of
steps is bounded as for `explore`. -/
def exploreAll (program : Array Instruction) (text : Array Char) :
    Nat → Visited → Nat → List Thread → List Nat → List Nat
  | 0, _, _, _, found => found
  | n + 1, visited, start, [], found =>
    if start ≤ text.size then
      exploreAll program text n visited (start + 1) [.startingAt start] found
    else found
  | n + 1, visited, start, t :: rest, found =>
    if visited.contains t.pc t.pos then exploreAll program text n visited start rest found
    else
      match program[t.pc]? with
      | none => exploreAll program text n visited start rest found
      | some .accept =>
        exploreAll program text n (visited.insert t.pc t.pos) start rest (found.insert t.pc)
      | some i =>
        exploreAll program text n (visited.insert t.pc t.pos) start (i.advance text t ++ rest) found

/-- The addresses where threads accept that start at `start` or behind it. -/
def acceptances (program : Array Instruction) (text : Array Char) (start : Nat) : List Nat :=
  exploreAll program text (stepBound program.size (text.size + 1)) (.empty program.size start) start
    [] []

/-! ## Matches -/

/-- A stretch of a text, from its first position to the one behind its last. -/
structure Span where
  /-- The position of the first character. -/
  start : Nat
  /-- The position behind the last character. -/
  stop : Nat
  /-- A stretch does not end before it starts. -/
  start_le_stop : start ≤ stop
  deriving DecidableEq, Repr

namespace Span

/-- Whether the stretch is empty. -/
def isEmpty (s : Span) : Bool := s.start = s.stop

/-- The characters of the stretch. -/
def textIn (s : Span) (text : Array Char) : String :=
  String.ofList (text.extract s.start s.stop).toList

end Span

/-- A match: what it covers and where its groups lie. -/
structure Match where
  /-- What the pattern covers. -/
  whole : Span
  /-- What the group with the given index covers, if it takes part. -/
  group? : Nat → Option Span

/-- The position that was noted last in a slot. -/
def Thread.slot? (t : Thread) (slot : Nat) : Option Nat := t.slots.lookup slot

/-- The stretch between the positions that were noted last in the slots of a group. -/
def Thread.span? (t : Thread) (index : Nat) : Option Span :=
  match t.slot? (2 * index), t.slot? (2 * index + 1) with
  | some start, some stop => if h : start ≤ stop then some ⟨start, stop, h⟩ else none
  | _, _ => none

/-- The match of a thread that accepted. -/
def Thread.match? (t : Thread) : Option Match :=
  match t.slot? 0 with
  | some start =>
    if h : start ≤ t.pos then
      let whole : Span := ⟨start, t.pos, h⟩
      some ⟨whole, fun i => if i = 0 then some whole else t.span? i⟩
    else none
  | none => none

end Telemetry.Regex
