import Telemetry.Regex.Node

/-!
# Normal form of sequences and alternations

Sequences lean to the right and hold neither empty nodes nor sequences; alternations lean to the
right and hold no alternations. `Node.concat` and `Node.alternation` build them from nodes in normal
form. An alternation of literals, or of classes, is one class, and what all alternatives begin with
is taken in front of them: then its repetitions decide before the choice between the alternatives
does. Main statement: `Node.parts_concat`.
-/

namespace Telemetry.Regex

open Unicode (CodePoints)

namespace Node

/-! ## Sequences -/

/-- What the node is a sequence of. -/
def parts : Node → List Node
  | .empty => []
  | .seq n m => n.parts ++ m.parts
  | n => [n]

/-- The node with a part in front of it. -/
def cons (p : Node) : Node → Node
  | .empty => p
  | n => .seq p n

/-- One node behind another. -/
def append (n m : Node) : Node := n.parts.foldr cons m

/-- The sequence of some nodes. -/
def concat (ns : List Node) : Node := ns.foldr append .empty

theorem parts_cons (p n : Node) (h : p.parts = [p]) : (cons p n).parts = p :: n.parts := by
  cases n <;> simp [cons, parts, h]

theorem parts_of_mem_parts {p n : Node} (h : p ∈ n.parts) : p.parts = [p] := by
  induction n with
  | empty => simp [parts] at h
  | seq n m ihn ihm =>
    rw [parts, List.mem_append] at h
    exact h.elim ihn ihm
  | _ => simp only [parts, List.mem_singleton] at h; rw [h, parts] <;> simp

theorem parts_append (n m : Node) : (append n m).parts = n.parts ++ m.parts := by
  have step (ps : List Node) (h : ∀ p ∈ ps, p.parts = [p]) :
      (ps.foldr cons m).parts = ps ++ m.parts := by
    induction ps with
    | nil => rfl
    | cons p ps ih =>
      rw [List.foldr_cons, parts_cons _ _ (h p (by simp)),
        ih (fun q hq => h q (List.mem_cons_of_mem _ hq)), List.cons_append]
  exact step _ (fun _ => parts_of_mem_parts)

/-- A sequence has the parts of its nodes. -/
theorem parts_concat (ns : List Node) : (concat ns).parts = ns.flatMap parts := by
  induction ns with
  | nil => rfl
  | cons n ns ih => rw [concat, List.foldr_cons, parts_append, List.flatMap_cons, ← concat, ih]

/-! ## Alternations -/

/-- What the node chooses between. -/
def branches : Node → List Node
  | .alt n m => n.branches ++ m.branches
  | n => [n]

/-- The choice between some nodes, none of which is a choice itself; earlier ones are preferred. -/
def choose : List Node → Node
  | [] => .ofSet .empty false
  | [n] => n
  | n :: ns => .alt n (choose ns)

/-- The characters of a class. -/
def set? : Node → Option CodePoints
  | .chars s _ => some s
  | _ => none

/-- The union of all nodes, if all are literals or all are classes. -/
def merged? (ns : List Node) : Option CodePoints :=
  if ns.all isLiteral || ns.all (fun n => !n.isLiteral) then (ns.mapM set?).map CodePoints.unions
  else none

/-- The choice between some nodes, as one class if it can be. -/
def join (ns : List Node) : Node :=
  let ns := ns.flatMap branches
  match ns with
  | [n] => n
  | ns =>
    match merged? ns with
    | some s => .ofSet s false
    | none => choose ns

/-! ## Common beginnings -/

/-- Parts in groups that are kept together: neighbouring literals make one group. -/
def units : List Node → List (List Node)
  | [] => []
  | p :: ps =>
    match units ps with
    | [] => [[p]]
    | u :: us => if p.isLiteral && u.any isLiteral then (p :: u) :: us else [p] :: u :: us

/-- What two lists begin with. -/
def common [DecidableEq α] : List α → List α → List α
  | x :: xs, y :: ys => if x = y then x :: common xs ys else []
  | _, _ => []

/-- What all lists begin with. -/
def commonStart [DecidableEq α] : List (List α) → List α
  | [] => []
  | [xs] => xs
  | xs :: rest => common xs (commonStart rest)

/-- The nodes without what they begin with in common, which comes first. Only sequences are taken
apart. -/
def factored? (ns : List Node) : Option (List Node × List Node) :=
  let us := ns.map (fun n => units n.parts)
  if us.all (fun u => 2 ≤ u.length) then
    match commonStart us with
    | [] => none
    | start => some (start.flatten, us.map (fun u => concat (u.drop start.length).flatten))
  else none

/-- The alternation of some nodes, the first ones preferred. What is left of alternatives with a
common beginning has none, so they are taken apart once. -/
def alternation (ns : List Node) : Node :=
  match ns.flatMap branches with
  | [n] => n
  | ns =>
    match merged? ns with
    | some s => .ofSet s false
    | none =>
      match factored? ns with
      | some (start, rests) => concat (start ++ [join rests])
      | none => choose ns

end Node

end Telemetry.Regex
