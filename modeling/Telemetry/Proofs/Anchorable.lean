import Mathlib.Tactic.SplitIfs
import Telemetry.Proofs.Anchoring

/-!
# Which patterns can be anchored

A pattern that compiles by itself need not compile between anchors, since these are put around its
text. If it ends in a comment of verbose mode, the comment takes the parenthesis that is put behind
it, and the group around the pattern stays open. The anchors and the group also nest the pattern two
levels deeper (`Tree.parse_between_anchors`) and make it a little heavier. Nothing else stands in the
way (`compile_full_eq`). Main statement: `exists_compile_full_iff`.
-/

namespace Telemetry

open Regex

namespace Regex

/-! ## Nesting -/

/-- How deep a pattern nests. -/
def nesting (pattern : List Char) : Nat :=
  match Tree.parse pattern with
  | .ok t => t.depth
  | .error _ => 0

theorem nesting_of_parse {pattern : List Char} {t : Tree} (h : Tree.parse pattern = .ok t) :
    nesting pattern = t.depth := by
  rw [nesting, h]

/-! ## Weight -/

/-- The room of a piece and of going on behind it. -/
def Extent.room (e : Extent) : Nat := e.bytes + e.link

/-- The room of a node and of going on behind it. -/
def Node.room (d : Direction) (captures : Bool) (n : Node) : Nat :=
  (Extent.choice (n.extents d captures)).room

/-- What the anchors add to the weight of a pattern at most. -/
def anchorWeight : Nat := 2 * stateWeight + branchWeight

theorem Extent.room_seq (d : Direction) (e f : Extent) : (seq d e f).room = e.room + f.room := by
  cases d with
  | forwards =>
    have hlink : (seq .forwards e f).link = f.link := rfl
    have hbytes : (seq .forwards e f).bytes = e.bytes + e.link + f.bytes := rfl
    rw [room, room, room, hlink, hbytes]
    omega
  | backwards =>
    have hlink : (seq .backwards e f).link = e.link := rfl
    have hbytes : (seq .backwards e f).bytes = f.bytes + f.link + e.bytes := rfl
    rw [room, room, room, hlink, hbytes]
    omega

theorem Node.room_look (d : Direction) (captures : Bool) (l : Look) :
    (look l).room d captures = stateWeight := rfl

theorem Node.room_seq (d : Direction) (captures : Bool) (n m : Node) :
    (seq n m).room d captures = n.room d captures + m.room d captures :=
  Extent.room_seq d _ _

theorem Node.room_cons_le (d : Direction) (captures : Bool) (n m : Node) :
    (cons n m).room d captures ≤ n.room d captures + m.room d captures := by
  cases m with
  | empty => exact Nat.le_add_right _ _
  | _ => exact Nat.le_of_eq (room_seq d captures n _)

/-- Nodes in a row take no more room than by themselves. -/
theorem Node.room_append_le (d : Direction) (captures : Bool) (n m : Node) :
    (append n m).room d captures ≤ n.room d captures + m.room d captures := by
  induction n generalizing m with
  | empty => exact Nat.le_add_left _ _
  | seq n₁ n₂ ih₁ ih₂ =>
    have heq : append (seq n₁ n₂) m = append n₁ (append n₂ m) := List.foldr_append
    calc (append (seq n₁ n₂) m).room d captures
        ≤ n₁.room d captures + (append n₂ m).room d captures := heq ▸ ih₁ _
      _ ≤ n₁.room d captures + (n₂.room d captures + m.room d captures) :=
        Nat.add_le_add_left (ih₂ m) _
      _ = (seq n₁ n₂).room d captures + m.room d captures := by
        rw [room_seq, Nat.add_assoc]
  | _ => exact room_cons_le d captures _ m

theorem Node.bytes_anchored_le (d : Direction) (captures : Bool) (n : Node) :
    n.anchored.bytes d captures ≤ n.bytes d captures + anchorWeight := by
  have hlink : (Extent.choice (n.extents d captures)).link ≤ branchWeight := by
    rw [Extent.link]
    split
    · exact Nat.le_refl _
    · exact Nat.zero_le _
  have hroom : n.room d captures = n.bytes d captures + (Extent.choice (n.extents d captures)).link :=
    rfl
  have houter := room_append_le d captures (.look .textStart) (append n (.look .textEnd))
  have hinner := room_append_le d captures n (.look .textEnd)
  have hbytes : n.anchored.bytes d captures ≤ n.anchored.room d captures := Nat.le_add_right _ _
  rw [room_look] at houter hinner
  rw [anchored] at hbytes ⊢
  rw [anchorWeight]
  omega

/-- Anchors make a pattern heavier by no more than `anchorWeight`. -/
theorem Node.weight_anchored_le (captures : Bool) (n : Node) :
    weight captures [n.anchored] ≤ weight captures [n] + anchorWeight := by
  have hforwards := bytes_anchored_le .forwards captures n
  have hbackwards := bytes_anchored_le .backwards false n
  simp only [weight, List.foldl_cons, List.foldl_nil]
  omega

/-! ## Patterns -/

/-- An anchored pattern reads as nothing if it ends in a comment or nests too deep, and as the
anchored node otherwise. -/
theorem Node.parse_full_eq {source : String} {n : Node} (h : Node.parse source.toList = .ok n) :
    Node.parse (Anchoring.full.source source).toList =
      if endsInComment source.toList then .error .groupUnclosed
      else if nestLimit < nesting source.toList + 2 then .error .nestTooDeep
      else .ok n.anchored := by
  obtain ⟨t, ht, hn⟩ := Except.bind_eq_ok_iff.mp h
  have htext : (Anchoring.full.source source).toList =
      '^' :: '(' :: '?' :: ':' :: (source.toList ++ closing) := by
    simp [Anchoring.source, closing]
  rw [htext, parse, Tree.parse_between_anchors ht, nesting_of_parse ht]
  split_ifs
  · rfl
  · rfl
  · exact (Tree.meaning_anchored t).trans (by rw [hn]; rfl)

theorem compile_full_source {source : String} {n : Node} (h : Node.parse source.toList = .ok n)
    (hweight : Node.weight true [n.anchored] ≤ weightLimit) :
    compile (Anchoring.full.source source) =
      if endsInComment source.toList then .error (.malformed .groupUnclosed)
      else if nestLimit < nesting source.toList + 2 then .error (.malformed .nestTooDeep)
      else .ok (ofNode n.anchored) := by
  rw [compile, Node.parse_full_eq h]
  split_ifs
  · rfl
  · rfl
  · exact if_neg (Nat.not_lt.mpr hweight)

end Regex

namespace Pattern

/-- A pattern that compiles by itself is compiled once more between anchors. -/
theorem compile_full_of_search {source : String} {alone : Pattern}
    (h : compile .search source = .ok alone) :
    compile .full source =
      match Regex.compile (Anchoring.full.source source) with
      | .error e => .error ⟨source, .notCompiled e⟩
      | .ok regex => .ok ⟨source, regex⟩ := by
  unfold compile at h ⊢
  split at h
  · cases h
  · next hlen =>
    rw [if_neg hlen]
    split at h
    · cases h
    · rfl

/-- What comes of a pattern between anchors, if it compiles by itself and is far enough from the
greatest weight: it is refused if it ends in a comment or nests too deep, and else is the anchored
node. -/
theorem compile_full_eq {source : String} {alone : Pattern}
    (h : compile .search source = .ok alone)
    (hweight : Node.weight true [alone.regex.node] + anchorWeight ≤ weightLimit) :
    compile .full source =
      if endsInComment source.toList then
        .error ⟨source, .notCompiled (.malformed .groupUnclosed)⟩
      else if nestLimit < nesting source.toList + 2 then
        .error ⟨source, .notCompiled (.malformed .nestTooDeep)⟩
      else .ok ⟨source, ofNode alone.regex.node.anchored⟩ := by
  obtain ⟨n, hn, rfl⟩ := exists_node_of_compile h
  rw [Anchoring.source_search] at hn
  have hanchored : Node.weight true [n.anchored] ≤ weightLimit :=
    Nat.le_trans (Node.weight_anchored_le true n) hweight
  rw [compile_full_of_search h, compile_full_source hn hanchored]
  split_ifs <;> rfl

/-- A pattern that compiles by itself, and is not so large that the anchors matter, compiles between
anchors exactly if it does not end in a comment and leaves room for two more levels. -/
theorem exists_compile_full_iff {source : String} {alone : Pattern}
    (h : compile .search source = .ok alone)
    (hweight : Node.weight true [alone.regex.node] + anchorWeight ≤ weightLimit) :
    (∃ full, compile .full source = .ok full) ↔
      endsInComment source.toList = false ∧ nesting source.toList + 2 ≤ nestLimit := by
  rw [compile_full_eq h hweight]
  cases endsInComment source.toList with
  | true => simp
  | false =>
    by_cases hdepth : nestLimit < nesting source.toList + 2
    · simp [hdepth]
    · simp [hdepth, Nat.not_lt.mp hdepth]

/-- A pattern that compiles by itself, with a check of its weight. -/
theorem exists_light {source : String}
    (h : (compile .search source).toOption.any (fun alone =>
      Node.weight true [alone.regex.node] + anchorWeight ≤ weightLimit) = true) :
    ∃ alone, compile .search source = .ok alone ∧
      Node.weight true [alone.regex.node] + anchorWeight ≤ weightLimit := by
  cases hcompile : compile .search source with
  | error e =>
    rw [hcompile] at h
    cases h
  | ok alone =>
    rw [hcompile] at h
    exact ⟨alone, rfl, of_decide_eq_true h⟩

/-- A comment that ends with its line stays in its place. -/
theorem exists_compile_full_iff_comment :
    ∃ alone full, compile .search "(?x)a # first\n" = .ok alone ∧
      Node.weight true [alone.regex.node] + anchorWeight ≤ weightLimit ∧
      compile .full "(?x)a # first\n" = .ok full := by
  obtain ⟨alone, h, hweight⟩ : ∃ alone, compile .search "(?x)a # first\n" = .ok alone ∧
      Node.weight true [alone.regex.node] + anchorWeight ≤ weightLimit :=
    exists_light (by decide +kernel)
  obtain ⟨full, hfull⟩ :=
    (exists_compile_full_iff h hweight).mpr ⟨by decide +kernel, by decide +kernel⟩
  exact ⟨alone, full, h, hweight, hfull⟩

/-- A comment at the end takes the parenthesis that closes the group around the pattern. -/
theorem compile_full_of_comment :
    ∃ alone, compile .search "(?x)a # c" = .ok alone ∧
      Node.weight true [alone.regex.node] + anchorWeight ≤ weightLimit ∧
      compile .full "(?x)a # c" =
        .error ⟨"(?x)a # c", .notCompiled (.malformed .groupUnclosed)⟩ := by
  obtain ⟨alone, h, hweight⟩ : ∃ alone, compile .search "(?x)a # c" = .ok alone ∧
      Node.weight true [alone.regex.node] + anchorWeight ≤ weightLimit :=
    exists_light (by decide +kernel)
  refine ⟨alone, h, hweight, ?_⟩
  rw [compile_full_eq h hweight]
  exact if_pos (by decide +kernel)

end Pattern

end Telemetry
