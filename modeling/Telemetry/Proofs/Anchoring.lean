import Telemetry.Pattern
import Telemetry.Proofs.Regex.Explore
import Telemetry.Proofs.Regex.Normal
import Telemetry.Proofs.Regex.Wrapping

/-!
# Anchored patterns

A pattern that is compiled to match a whole text is put into a group between two anchors, as text.
Whatever the pattern says, this comes to the node of the pattern between two assertions
(`compile_full`), so the anchored pattern matches the texts that the pattern by itself can cover
from end to end, and has the same named groups. Main statement: `isMatch_full_iff`.
-/

namespace Telemetry

open Regex

/-! ## Nodes -/

namespace Regex

/-- The node of an anchored pattern. -/
def Node.anchored (n : Node) : Node := .append (.look .textStart) (.append n (.look .textEnd))

theorem Node.branches_append_look (n : Node) (l : Look) :
    (append n (.look l)).branches = [append n (.look l)] := by
  by_cases h : n.parts = []
  · rw [append, h]
    rfl
  · refine branches_of_two_le_parts ?_
    have := List.length_pos_iff.mpr h
    rw [parts_append, List.length_append]
    simp only [parts, List.length_singleton]
    omega

theorem Node.branches_anchored (n : Node) : n.anchored.branches = [n.anchored] := by
  refine branches_of_two_le_parts ?_
  rw [anchored, parts_append, parts_append]
  simp [parts]

/-- What an anchored tree matches is what the tree matches, anchored: no flag that is set inside of
the group reaches the anchors. -/
theorem Tree.meaning_anchored (t : Tree) :
    t.anchored.meaning = t.meaning.map Node.anchored := by
  have hflags : (({} : Flags).set {}) = {} := rfl
  have hstart : Node.alternation [.look .textStart] = .look .textStart :=
    Node.alternation_of_branches rfl
  have hend : Node.alternation [.look .textEnd] = .look .textEnd :=
    Node.alternation_of_branches rfl
  simp only [Tree.meaning, Tree.anchored, Tree.meanings, Except.map, bind, Except.bind, pure,
    Except.pure, Assertion.look, Bool.false_eq_true, if_false]
  rw [hflags]
  cases t.meanings {} with
  | error e => rfl
  | ok found =>
    simp only [Bool.false_eq_true, if_false, hstart, hend, Node.alternation_alternation,
      Node.alternation_of_branches (Node.branches_append_look _ _)]
    exact congrArg Except.ok (Node.alternation_of_branches (Node.branches_anchored _))

/-- An anchored node covers the whole text or nothing. -/
theorem Node.covers_anchored {text : Array Char} {n : Node} {i j : Nat} (hi : i ≤ text.size) :
    n.anchored.Covers text i j ↔ i = 0 ∧ j = text.size ∧ n.Covers text 0 text.size := by
  simp only [anchored, covers_append]
  constructor
  · rintro ⟨k, hstart, l, hn, hend⟩
    obtain ⟨rfl, rfl⟩ := (covers_textStart hi).mp hstart
    obtain ⟨rfl, rfl⟩ := (covers_textEnd (le_size_of_covers hn hi)).mp hend
    exact ⟨rfl, rfl, hn⟩
  · rintro ⟨rfl, rfl, hn⟩
    exact ⟨0, (covers_textStart hi).mpr ⟨rfl, rfl⟩, text.size, hn,
      (covers_textEnd (Nat.le_refl _)).mpr ⟨rfl, rfl⟩⟩

theorem Node.groups_anchored (n : Node) : n.anchored.groups = n.groups := by
  rw [anchored, groups_append, groups_append]
  simp [groups]

/-- The anchors neither shift the indices of named groups nor change their names. -/
theorem namedGroups_anchored (n : Node) :
    (ofNode n.anchored).namedGroups = (ofNode n).namedGroups := by
  simp only [namedGroups, groupCount, groupName?, ofNode, Node.groups_anchored]

/-- An anchored pattern reads as the anchored node of the pattern. -/
theorem Node.parse_anchored {source : String} {n m : Node}
    (hn : Node.parse source.toList = .ok n)
    (hm : Node.parse (Anchoring.full.source source).toList = .ok m) : m = n.anchored := by
  obtain ⟨t, ht, hn⟩ := Except.bind_eq_ok_iff.mp hn
  obtain ⟨u, hu, hm⟩ := Except.bind_eq_ok_iff.mp hm
  have htext : (Anchoring.full.source source).toList =
      '^' :: '(' :: '?' :: ':' :: (source.toList ++ closing) := by
    simp [Anchoring.source, closing]
  rw [htext] at hu
  obtain rfl := Tree.parse_anchored ht hu
  rw [Tree.meaning_anchored, hn] at hm
  exact (Except.ok.inj hm).symm

end Regex

/-! ## Patterns -/

namespace Pattern

/-- A pattern by itself can match the whole of a text. -/
def MatchesWhole (pattern : Pattern) (text : String) : Prop :=
  pattern.regex.node.Covers text.toList.toArray 0 text.toList.length

/-- A pattern can match a stretch of a text. -/
def OccursIn (pattern : Pattern) (text : String) : Prop :=
  ∃ i j, i ≤ text.toList.length ∧ pattern.regex.node.Covers text.toList.toArray i j

/-- A pattern that is not anchored matches the texts that it occurs in. -/
theorem isMatch_search_iff {source : String} {pattern : Pattern}
    (h : compile .search source = .ok pattern) (text : String) :
    pattern.isMatch text = true ↔ pattern.OccursIn text := by
  obtain ⟨n, -, rfl⟩ := exists_node_of_compile h
  exact isMatch_ofNode_iff n text

/-- A pattern that is not anchored occurs in the texts in which a first match of it is found. -/
theorem occursIn_iff_exists_firstMatch {source : String} {pattern : Pattern}
    (h : compile .search source = .ok pattern) (text : String) :
    pattern.OccursIn text ↔ ∃ m, pattern.regex.firstMatch text.toList.toArray = some m := by
  rw [← isMatch_search_iff h text, isMatch, Regex.isMatch, Option.isSome_iff_exists]

/-- A pattern that compiles anchored compiles by itself, and is the anchored node of what it is by
itself. -/
theorem compile_full {source : String} {full : Pattern} (h : compile .full source = .ok full) :
    ∃ n, compile .search source = .ok ⟨source, ofNode n⟩ ∧
      full = ⟨source, ofNode n.anchored⟩ := by
  unfold compile at h ⊢
  split at h
  · simp at h
  · next hlen =>
    rw [if_neg hlen]
    split at h
    · simp at h
    · next alone halone =>
      simp only at h
      split at h
      · simp at h
      · next r hr =>
        obtain ⟨n, hn, rfl⟩ := compile_eq_ok halone
        obtain ⟨m, hm, rfl⟩ := compile_eq_ok hr
        obtain rfl := Node.parse_anchored hn hm
        exact ⟨n, rfl, (Except.ok.inj h).symm⟩

/-- The anchored node of a pattern matches the texts that the pattern can match as a whole. -/
theorem isMatch_anchored (source : String) (n : Node) (text : String) :
    (⟨source, ofNode n.anchored⟩ : Pattern).isMatch text = true ↔
      (⟨source, ofNode n⟩ : Pattern).MatchesWhole text := by
  have hsize : text.toList.toArray.size = text.toList.length := rfl
  rw [isMatch, isMatch_ofNode_iff, MatchesWhole]
  constructor
  · rintro ⟨i, j, hi, h⟩
    obtain ⟨-, -, h⟩ := (Node.covers_anchored hi).mp h
    exact h
  · intro h
    exact ⟨0, _, Nat.zero_le _, (Node.covers_anchored (Nat.zero_le _)).mpr ⟨rfl, rfl, h⟩⟩

/-- The anchors of a pattern take nothing from its named groups and add none. -/
theorem groupNames_anchored (source : String) (n : Node) :
    (⟨source, ofNode n.anchored⟩ : Pattern).groupNames =
      (⟨source, ofNode n⟩ : Pattern).groupNames := by
  simp only [groupNames, Regex.groupNames, namedGroups_anchored]

/-- An anchored pattern is also a pattern by itself, with the same named groups in the same order,
and matches exactly the texts that the pattern by itself can match from end to end. -/
theorem isMatch_full_iff {source : String} {full : Pattern} (h : compile .full source = .ok full) :
    ∃ alone, compile .search source = .ok alone ∧ full.groupNames = alone.groupNames ∧
      ∀ text, full.isMatch text = true ↔ alone.MatchesWhole text := by
  obtain ⟨n, halone, rfl⟩ := compile_full h
  exact ⟨_, halone, groupNames_anchored source n, isMatch_anchored source n⟩

theorem isMatch_full_iff_alternatives :
    ∃ full, compile .full "a|ab" = .ok full ∧
      ∃ alone, compile .search "a|ab" = .ok alone ∧ full.groupNames = alone.groupNames ∧
        ∀ text, full.isMatch text = true ↔ alone.MatchesWhole text := by
  have hok : (compile .full "a|ab").isOk = true := by decide +kernel
  obtain ⟨full, h⟩ := Except.exists_of_isOk hok
  exact ⟨full, h, isMatch_full_iff h⟩

/-- The alternative that a search prefers does not keep the other one from the whole text. -/
example : (compile .full "a|ab").toOption.map (·.isMatch "ab") = some true := by decide +kernel

end Pattern

end Telemetry
