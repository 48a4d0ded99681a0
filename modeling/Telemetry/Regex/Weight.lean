import Telemetry.Regex.Normal
import Telemetry.Unicode.Encoding

/-!
# The weight of a pattern

How many bytes a pattern takes as an automaton that reads bytes, one that reads the text forwards or
one that reads it backwards, whichever is larger. Every state takes the same room, and transitions
of states with several take more. The weight is computed from the node alone, so a pattern that is
too large is refused before any of it is built.
-/

namespace Telemetry.Regex

open Unicode (CodePoints)

/-- The room of a state. -/
def stateWeight : Nat := 32

/-- The room of a transition by a range of bytes, where a state has several. -/
def rangeWeight : Nat := 8

/-- The room of a transition that reads nothing, where a state may have several. -/
def branchWeight : Nat := 4

/-- How the text is read. -/
inductive Direction where
  | forwards | backwards
  deriving DecidableEq, Repr

/-- A piece of an automaton: its room, and what matters to the pieces around it. -/
structure Extent where
  /-- The room of its states and transitions. -/
  bytes : Nat
  /-- Whether its last state has several transitions, so that going on from it takes another one. -/
  branches : Bool
  /-- The text that it matches, if it is a literal. -/
  literal? : Option (List Char)

namespace Extent

/-- A single state. -/
def state : Extent := ⟨stateWeight, false, none⟩

/-- The room for going on behind the piece. -/
def link (e : Extent) : Nat := if e.branches then branchWeight else 0

/-- A piece that has no branching end and is no literal. -/
def ofBytes (bytes : Nat) : Extent := ⟨bytes, false, none⟩

/-- A character of a set. Its states for equal rests of the encoded form are shared in a forward
automaton, and those for equal beginnings in a backward one. -/
def ofSet (d : Direction) (s : CodePoints) : Extent :=
  match s.ranges with
  | [⟨lo, hi⟩] =>
    if lo = hi then
      let c := Char.ofNat lo
      ⟨c.utf8Size * stateWeight, false, some [c]⟩
    else wide
  | _ => wide
where
  /-- A set that is no single character. -/
  wide : Extent :=
    if s.allAtMost 0x7F then
      let k := s.ranges.length
      ofBytes (2 * stateWeight + if k = 1 then 0 else k * rangeWeight)
    else
      let seqs := s.encoded
      match d with
      | .forwards =>
        ofBytes ((Unicode.endings Unicode.maxEncodedLength seqs).eraseDups.foldl
          (fun n e => n + stateWeight + (Unicode.tailsByHead e).length * rangeWeight) stateWeight)
      | .backwards =>
        ofBytes (2 * stateWeight + seqs.length * branchWeight +
          Unicode.beginnings Unicode.maxEncodedLength seqs * stateWeight)

/-- One piece read behind another. -/
def followedBy (e f : Extent) : Extent where
  bytes := e.bytes + e.link + f.bytes
  branches := f.branches
  literal? := do return (← e.literal?) ++ (← f.literal?)

/-- Two pieces of which the first one comes first in the text. -/
def seq (d : Direction) (e f : Extent) : Extent :=
  match d with
  | .forwards => e.followedBy f
  | .backwards => { f.followedBy e with literal? := (e.followedBy f).literal? }

/-- The states of a tree of literals: one for each beginning that some literal goes on from, with
its transitions. -/
def treeWeight : Nat → List (List Char) → Nat
  | 0, _ => 0
  | n + 1, texts =>
    match texts.filter (!·.isEmpty) with
    | [] => 0
    | texts =>
      let heads := (texts.filterMap List.head?).eraseDups
      heads.foldl (fun k c =>
        k + rangeWeight + (c.utf8Size - 1) * (2 * stateWeight + branchWeight) +
          treeWeight n ((texts.filter (·.head? = some c)).map List.tail))
        (2 * stateWeight + branchWeight)

/-- A choice between pieces; literals share their beginnings. -/
def choice (es : List Extent) : Extent :=
  match es with
  | [e] => e
  | es =>
    match es.mapM literal? with
    | some texts =>
      ofBytes (stateWeight +
        treeWeight (texts.foldl (fun n t => max n t.length) 0 + 1) texts)
    | none => ofBytes (es.foldl (fun n e => n + branchWeight + e.bytes + e.link) (2 * stateWeight))

/-- A piece `k` times in a row. -/
def times (k : Nat) (e : Extent) : Extent :=
  if k = 0 then state else ⟨k * e.bytes + (k - 1) * e.link, e.branches, none⟩

/-- A repeated piece. `nullable` says whether it can match the empty text. -/
def repeated (q : Quantifier) (nullable : Bool) (e : Extent) : Extent :=
  let fork := stateWeight + branchWeight
  match q.max with
  | none =>
    if q.min = 0 then
      if nullable then ofBytes (e.bytes + e.link + 2 * fork + stateWeight + 2 * branchWeight)
      else ⟨e.bytes + e.link + fork, true, none⟩
    else ⟨q.min * (e.bytes + e.link) + fork, true, none⟩
  | some max =>
    if max = q.min then e.times max
    else if q.min = 0 && max = 1 then ofBytes (e.bytes + e.link + fork + branchWeight + stateWeight)
    else
      ofBytes ((e.times q.min).bytes + (if q.min = 0 then 0 else e.link) + stateWeight +
        (max - q.min) * (fork + branchWeight + e.bytes + e.link))

end Extent

namespace Node

/-- The pieces for the alternatives of a node; `captures` says whether its groups are recorded. -/
def extents (d : Direction) (captures : Bool) : Node → List Extent
  | .empty | .look _ => [.state]
  | .chars s _ => [.ofSet d s]
  | .capture _ _ n =>
    let e := Extent.choice (n.extents d captures)
    [if captures then .ofBytes (2 * stateWeight + e.bytes + e.link) else e]
  | .seq n m => [.seq d (.choice (n.extents d captures)) (.choice (m.extents d captures))]
  | .alt n m => n.extents d captures ++ m.extents d captures
  | .repetition q n => [.repeated q n.isNullable (.choice (n.extents d captures))]

/-- The room of a node. -/
def bytes (d : Direction) (captures : Bool) (n : Node) : Nat :=
  (Extent.choice (n.extents d captures)).bytes

/-- The room of what stands around the code of a pattern: the loop that looks for its start, and the
states that note its ends and accept. -/
def frameWeight : Nat := 6 * stateWeight + 2 * branchWeight

/-- The weight of patterns that are tried together; `captures` says whether their groups are
recorded. -/
def weight (captures : Bool) (ns : List Node) : Nat :=
  let total (d : Direction) (captures : Bool) :=
    ns.foldl (fun k n => k + stateWeight + branchWeight + n.bytes d captures) frameWeight
  max (total .forwards captures) (total .backwards false)

end Node

/-- The greatest weight that a compiled pattern, or a set of them, may have. -/
def weightLimit : Nat := 0x100000

end Telemetry.Regex
