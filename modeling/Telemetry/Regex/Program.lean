import Telemetry.Regex.Node

/-!
# Programs

A node is laid out as a list of instructions. `Node.code n start next` is the code of `n` at the
address `start`, which goes on at `next` after a match; `Node.size n` is its length, so every
address is known before the code is written. Main statement: `Node.length_code`.
-/

namespace Telemetry.Regex

open Unicode (CodePoints)

/-- One instruction. -/
inductive Instruction where
  /-- Goes on at `next` past a character of the set. -/
  | chars (s : CodePoints) (next : Nat)
  /-- Goes on at `next` where the assertion holds. -/
  | look (l : Look) (next : Nat)
  /-- Goes on at either address, `first` preferred. -/
  | split (first second : Nat)
  /-- Goes on at `next`. -/
  | jump (next : Nat)
  /-- Notes the position in a slot and goes on at `next`. -/
  | save (slot next : Nat)
  /-- The pattern has matched. -/
  | accept
  deriving DecidableEq, Repr

/-- A choice between going on at `more` and leaving for `exit`. -/
def choice (greedy : Bool) (more exit : Nat) : Instruction :=
  if greedy then .split more exit else .split exit more

/-- `k` copies of a code of `size` instructions, each going on at the next. -/
def copies (size : Nat) (code : Nat → Nat → List Instruction) : Nat → Nat → List Instruction
  | 0, _ => []
  | k + 1, start => code start (start + size) ++ copies size code k (start + size)

/-- `k` copies of a code, each of which may be left for `exit` before it starts. -/
def optionalCopies (greedy : Bool) (size : Nat) (code : Nat → Nat → List Instruction) (exit : Nat) :
    Nat → Nat → List Instruction
  | 0, _ => []
  | k + 1, start =>
    choice greedy (start + 1) exit ::
      (code (start + 1) (start + 1 + size) ++
        optionalCopies greedy size code exit k (start + 1 + size))

namespace Node

/-- The number of instructions of a node. -/
def size : Node → Nat
  | .empty | .chars _ _ | .look _ => 1
  | .capture _ _ n => n.size + 2
  | .seq n m => n.size + m.size
  | .alt n m => 1 + n.size + m.size
  | .repetition q n =>
    match q.max with
    | some max => q.min * n.size + (max - q.min) * (n.size + 1) + 1
    | none =>
      if q.min = 0 then (if n.isNullable then n.size + 2 else n.size + 1)
      else (q.min - 1) * n.size + n.size + 1

/-- The instructions of a node at the address `start`, going on at `next`. An unbounded repetition
of what may match the empty text first decides whether to enter at all, so that a first round that
matches nothing still counts as one. -/
def code : Node → Nat → Nat → List Instruction
  | .empty, _, next => [.jump next]
  | .chars s _, _, next => [.chars s next]
  | .look l, _, next => [.look l next]
  | .capture i _ n, start, next =>
    .save (2 * i) (start + 1) ::
      (n.code (start + 1) (start + 1 + n.size) ++ [.save (2 * i + 1) next])
  | .seq n m, start, next => n.code start (start + n.size) ++ m.code (start + n.size) next
  | .alt n m, start, next =>
    .split (start + 1) (start + 1 + n.size) ::
      (n.code (start + 1) next ++ m.code (start + 1 + n.size) next)
  | .repetition q n, start, next =>
    match q.max with
    | some max =>
      copies n.size n.code q.min start ++
        (optionalCopies q.greedy n.size n.code next (max - q.min) (start + q.min * n.size) ++
          [.jump next])
    | none =>
      if q.min = 0 then
        if n.isNullable then
          choice q.greedy (start + 1) next ::
            (n.code (start + 1) (start + 1 + n.size) ++ [choice q.greedy (start + 1) next])
        else choice q.greedy (start + 1) next :: n.code (start + 1) start
      else
        let last := start + (q.min - 1) * n.size
        copies n.size n.code (q.min - 1) start ++
          (n.code last (last + n.size) ++ [choice q.greedy last next])

/-- The program of a node: its code, then acceptance. -/
def program (n : Node) : List Instruction := n.code 0 n.size ++ [.accept]

theorem length_copies {size : Nat} {code : Nat → Nat → List Instruction}
    (h : ∀ start next, (code start next).length = size) (k start : Nat) :
    (copies size code k start).length = k * size := by
  induction k generalizing start with
  | zero => simp [copies]
  | succ k ih => simp [copies, h, ih, Nat.succ_mul, Nat.add_comm]

theorem length_optionalCopies {greedy : Bool} {size : Nat}
    {code : Nat → Nat → List Instruction}
    (h : ∀ start next, (code start next).length = size) (exit k start : Nat) :
    (optionalCopies greedy size code exit k start).length = k * (size + 1) := by
  induction k generalizing start with
  | zero => simp [optionalCopies]
  | succ k ih =>
    simp only [optionalCopies, List.length_cons, List.length_append, h, ih, Nat.succ_mul]
    omega

/-- The code of a node has the size that its addresses were computed with. -/
theorem length_code (n : Node) (start next : Nat) : (n.code start next).length = n.size := by
  induction n generalizing start next with
  | empty => rfl
  | chars s narrow => rfl
  | look l => rfl
  | capture i name n ih => simp [code, size, ih]
  | seq n m ihn ihm => simp [code, size, ihn, ihm]
  | alt n m ihn ihm => simp [code, size, ihn, ihm]; omega
  | repetition q n ih =>
    rw [code, size]
    split
    · simp only [List.length_append, length_copies ih, length_optionalCopies ih, List.length_cons,
        List.length_nil]
      omega
    · split
      · split <;> simp [ih]
      · simp only [List.length_append, length_copies ih, ih, List.length_cons, List.length_nil]
        omega

end Node

end Telemetry.Regex
