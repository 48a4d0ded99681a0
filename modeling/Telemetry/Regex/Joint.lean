import Telemetry.Regex.Basic

/-!
# Patterns in one program

Patterns that are tried together are laid out side by side in one program. A thread goes into the
code of each of them and accepts behind that code, at an address which belongs to that pattern
alone: so a single search tells all the patterns that match.
-/

namespace Telemetry.Regex

namespace Node

/-- The codes of nodes side by side from the address `start` on. A thread goes into each of them;
behind the last one there is no instruction. -/
def jointCode : List Node → Nat → List Instruction
  | [], _ => []
  | n :: ns, start =>
    .split (start + 1) (start + n.size + 2) ::
      (n.code (start + 1) (start + n.size + 1) ++ .accept :: jointCode ns (start + n.size + 2))

/-- The addresses where the codes of nodes accept, in order of the nodes. -/
def exits : List Node → Nat → List Nat
  | [], _ => []
  | n :: ns, start => (start + n.size + 1) :: exits ns (start + n.size + 2)

end Node

/-- Patterns that are searched for together. -/
structure Joint where
  /-- The instructions that search for all of them. -/
  program : Array Instruction
  /-- The address where each pattern accepts. -/
  exits : List Nat

namespace Joint

/-- The program of nodes that are searched for together. -/
def ofNodes (nodes : List Node) : Joint := ⟨(Node.jointCode nodes 0).toArray, Node.exits nodes 0⟩

/-- Compiles texts of patterns into one program; their groups are not recorded. -/
def compile (sources : List String) : Except CompileFault Joint :=
  match sources.mapM (fun source => Node.parse source.toList) with
  | .error e => .error (.malformed e)
  | .ok nodes =>
    if weightLimit < Node.weight false nodes then .error .tooLarge else .ok (.ofNodes nodes)

/-- The places of the patterns that match somewhere in a text, in ascending order. -/
def matching (joint : Joint) (text : String) : List Nat :=
  let found := acceptances joint.program text.toList.toArray 0
  (joint.exits.zipIdx.filter (fun exit => found.contains exit.1)).map (·.2)

/-- Whether one of the patterns matches somewhere in a text. -/
def isMatch (joint : Joint) (text : String) : Bool :=
  (search joint.program text.toList.toArray 0).isSome

end Joint

end Telemetry.Regex
