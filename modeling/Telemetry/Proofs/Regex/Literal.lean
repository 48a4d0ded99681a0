import Telemetry.Proofs.Anchoring
import Telemetry.Text.Bytes

/-!
# Literal patterns

A pattern without metacharacters says what it looks like. It reads as the sequence of its characters
(`parse_literal`), alone and anchored, and covers exactly the stretches of a text that are equal to
it (`covers_ofChars`). It takes one state for each byte, so a pattern of the greatest length is far
from the limit on what is compiled (`weight_le`).
-/

namespace Telemetry.Regex

/-- The characters that have a meaning of their own outside of bracketed classes. -/
def metacharacters : List Char :=
  ['\\', '.', '+', '*', '?', '(', ')', '|', '[', ']', '{', '}', '^', '$']

/-- None of the characters is a metacharacter. -/
def IsLiteral (text : List Char) : Prop := ∀ c ∈ text, c ∉ metacharacters

instance (text : List Char) : Decidable (IsLiteral text) :=
  List.decidableBAll (· ∉ metacharacters) text

/-! ## Reading -/

/-- The tree of a character that stands for itself. -/
def Tree.ofChar (c : Char) : Tree := .literal ⟨c, false⟩

/-- The tree of characters that stand for themselves. -/
def Tree.ofChars (text : List Char) : Tree := .sequence (text.map ofChar)

theorem Builder.step_of_not_meta {c : Char} (h : c ∉ metacharacters) (b : Builder)
    (rest : List Char) : b.step (c :: rest) = .ok (b.push (.ofChar c), rest) := by
  simp only [metacharacters, List.mem_cons, List.not_mem_nil, or_false, not_or] at h
  refine step_literal ?_ ?_ b rest
  · simp [h]
  · simp [h]

/-- Literal characters become items one after another, whatever stands behind them. -/
theorem Builder.run_literal {text : List Char} (h : IsLiteral text) {b : Builder}
    (hb : b.verbose = false) (n : Nat) (rest : List Char) :
    run (text.length + n) b (text ++ rest) =
      run n { b with items := (text.map Tree.ofChar).reverse ++ b.items } rest := by
  induction text generalizing b with
  | nil => rw [List.length_nil, Nat.zero_add]; rfl
  | cons c text ih =>
    obtain ⟨hc, htext⟩ := List.forall_mem_cons.mp h
    have hskip : skipBlanks b.verbose (c :: (text ++ rest)) = c :: (text ++ rest) := by
      rw [hb]
      rfl
    have hnext := ih htext (b := b.push (.ofChar c)) hb
    rw [List.length_cons, Nat.add_right_comm, List.cons_append, run, hskip]
    simp only [step_of_not_meta hc, hnext]
    simp [push]

theorem Builder.run_literal_whole {text : List Char} (h : IsLiteral text) :
    run text.length {} text = .ok ({ items := (text.map Tree.ofChar).reverse }, []) := by
  have hrun := run_literal h (b := {}) rfl 0 []
  rwa [Nat.add_zero, List.append_nil, List.append_nil] at hrun

/-- A sequence of characters nests to the first level at most. -/
theorem Tree.depth_ofChars_le (text : List Char) : (ofChars text).depth ≤ 1 := by
  have hstep (text : List Char) :
      (ofChars text).depth ≤ if (ofChars text).isSeq then 1 else 0 := by
    induction text with
    | nil => exact Nat.le_refl 0
    | cons c text ih =>
      cases text with
      | nil => exact Nat.le_refl 0
      | cons d text =>
        have heq : ofChars (c :: d :: text) = .seq (ofChar c) (ofChars (d :: text)) := rfl
        have hisSeq : (Tree.seq (ofChar c) (ofChars (d :: text))).isSeq = true := rfl
        have hchar : (ofChar c).depth = 0 := rfl
        rw [heq, if_pos hisSeq, depth, hchar]
        refine Nat.max_le.mpr ⟨Nat.le_refl 1, ?_⟩
        by_cases hseq : (ofChars (d :: text)).isSeq = true
        · rwa [if_pos hseq] at ih ⊢
        · rw [if_neg hseq] at ih ⊢
          omega
  refine (hstep text).trans ?_
  split
  · exact Nat.le_refl 1
  · exact Nat.zero_le 1

theorem Tree.parse_literal {text : List Char} (h : IsLiteral text) :
    parse text = .ok (ofChars text) := by
  have hcontents : Builder.contents { items := (text.map ofChar).reverse } = ofChars text :=
    congrArg sequence (List.reverse_reverse _)
  have hfinish : Builder.finish { items := (text.map ofChar).reverse } = .ok (ofChars text) :=
    Builder.finish_eq_ok_iff.mpr ⟨rfl, hcontents⟩
  have hdepth : (ofChars text).depth ≤ nestLimit := (depth_ofChars_le text).trans (by decide)
  rw [parse_eq_of_run (Builder.run_literal_whole h), hfinish]
  exact if_neg (Nat.not_lt.mpr hdepth)

/-- Literal characters read in the same way between anchors. -/
theorem Tree.parse_anchored_literal {text : List Char} (h : IsLiteral text) :
    parse ('^' :: '(' :: '?' :: ':' :: (text ++ closing)) = .ok (ofChars text).anchored := by
  have hcomment : endsInComment text = false := endsInComment_of_run (Builder.run_literal_whole h)
  have hdepth : (ofChars text).depth + 2 ≤ nestLimit :=
    (Nat.add_le_add_right (depth_ofChars_le text) 2).trans (by decide)
  rw [parse_between_anchors (parse_literal h), hcomment, if_neg Bool.false_ne_true,
    if_neg (Nat.not_lt.mpr hdepth)]

/-! ## Meaning -/

/-- What a character matches. -/
def Node.ofChar (c : Char) : Node := .chars (.singleton c) false

/-- What characters match one after another. -/
def Node.ofChars (text : List Char) : Node := concat (text.map ofChar)

theorem Node.ofChars_cons (c : Char) (text : List Char) :
    ofChars (c :: text) = cons (ofChar c) (ofChars text) := rfl

theorem Node.branches_ofChars (text : List Char) : (ofChars text).branches = [ofChars text] := by
  cases text with
  | nil => rfl
  | cons c text =>
    rw [ofChars_cons]
    cases ofChars text <;> rfl

theorem Tree.meaning_ofChars (text : List Char) :
    (ofChars text).meaning = .ok (Node.ofChars text) := by
  have hmeanings : (ofChars text).meanings {} = .ok ([Node.ofChars text], {}) := by
    induction text with
    | nil => rfl
    | cons c text ih =>
      cases text with
      | nil => rfl
      | cons d text =>
        have heq : ofChars (c :: d :: text) = .seq (ofChar c) (ofChars (d :: text)) := rfl
        have hchar : (ofChar c).meanings {} = .ok ([Node.ofChar c], {}) := rfl
        have hfirst : Node.alternation [Node.ofChar c] = Node.ofChar c :=
          Node.alternation_of_branches rfl
        have hrest := Node.alternation_of_branches (Node.branches_ofChars (d :: text))
        simp only [heq, meanings, hchar, ih, bind, Except.bind, hfirst, hrest]
        rfl
  rw [meaning, hmeanings]
  exact congrArg Except.ok (Node.alternation_of_branches (Node.branches_ofChars text))

theorem Node.covers_ofChar {text : Array Char} {c : Char} {i j : Nat} :
    (ofChar c).Covers text i j ↔ j = i + 1 ∧ text.toList[i]? = some c := by
  simp only [ofChar, Covers, Unicode.CodePoints.containsChar, Unicode.CodePoints.contains_singleton,
    decide_eq_true_eq, Array.getElem?_toList]
  constructor
  · rintro ⟨rfl, d, hd, hcode⟩
    obtain rfl : d = c := Char.toNat_inj.mp hcode
    exact ⟨rfl, hd⟩
  · rintro ⟨rfl, hc⟩
    exact ⟨rfl, c, hc, rfl⟩

/-- A list comes next in a longer one if its characters do. -/
theorem cons_prefix_drop_iff {text cs : List Char} {c : Char} {i : Nat} :
    c :: cs <+: text.drop i ↔ text[i]? = some c ∧ cs <+: text.drop (i + 1) := by
  by_cases hi : i < text.length
  · rw [List.drop_eq_getElem_cons hi, List.cons_prefix_cons, List.getElem?_eq_getElem hi,
      Option.some.injEq, eq_comm]
  · have hle := Nat.not_lt.mp hi
    simp [List.drop_eq_nil_of_le hle, List.getElem?_eq_none hle]

/-- A literal pattern covers the stretches of a text that are equal to it. -/
theorem Node.covers_ofChars {text : Array Char} {cs : List Char} {i j : Nat} :
    (ofChars cs).Covers text i j ↔ j = i + cs.length ∧ cs <+: text.toList.drop i := by
  induction cs generalizing i with
  | nil => simp [ofChars, concat, Covers, eq_comm]
  | cons c cs ih =>
    simp only [ofChars_cons, covers_cons, covers_ofChar, ih, cons_prefix_drop_iff, List.length_cons]
    constructor
    · rintro ⟨_, ⟨rfl, hc⟩, rfl, hcs⟩
      exact ⟨by omega, hc, hcs⟩
    · rintro ⟨rfl, hc, hcs⟩
      exact ⟨i + 1, ⟨rfl, hc⟩, by omega, hcs⟩

/-- A literal pattern covers no whole text but the one that is equal to it. -/
theorem Node.covers_ofChars_whole {text cs : List Char} :
    (ofChars cs).Covers text.toArray 0 text.length ↔ text = cs := by
  rw [covers_ofChars, List.drop_zero, Nat.zero_add]
  constructor
  · rintro ⟨hlength, hstarts⟩
    exact (hstarts.eq_of_length hlength.symm).symm
  · rintro rfl
    exact ⟨rfl, List.prefix_rfl⟩

/-! ## Weight -/

/-- The code of a node is one piece without a branching end, of the given room at most, however the
text is read. -/
def Node.Straight (n : Node) (room : Nat) : Prop :=
  ∀ d captures, ∃ e, n.extents d captures = [e] ∧ e.branches = false ∧ e.bytes ≤ room

namespace Node

theorem straight_empty : empty.Straight stateWeight :=
  fun _ _ => ⟨.state, rfl, rfl, Nat.le_refl _⟩

theorem straight_look (l : Look) : (look l).Straight stateWeight :=
  fun _ _ => ⟨.state, rfl, rfl, Nat.le_refl _⟩

/-- A character takes a state for each of its bytes. -/
theorem straight_ofChar (c : Char) : (ofChar c).Straight (c.utf8Size * stateWeight) := by
  intro d captures
  have hextent : Extent.ofSet d (.singleton c) = ⟨c.utf8Size * stateWeight, false, some [c]⟩ := by
    simp [Extent.ofSet, Unicode.CodePoints.singleton, Unicode.CodePoints.range]
  exact ⟨_, rfl, by rw [hextent], by rw [hextent]⟩

/-- Pieces without branching ends add up. -/
theorem Straight.cons {p n : Node} {k m : Nat} (hp : p.Straight k) (hn : n.Straight m) :
    (Node.cons p n).Straight (k + m) := by
  intro d captures
  obtain ⟨e, he, hbranches, hbytes⟩ := hp d captures
  obtain ⟨f, hf, hbranches', hbytes'⟩ := hn d captures
  have hlast : p.extents d captures = [e] ∧ e.branches = false ∧ e.bytes ≤ k + m :=
    ⟨he, hbranches, by omega⟩
  have hseq : (seq p n).extents d captures = [.seq d e f] := by
    rw [extents, he, hf]
    rfl
  have hboth : (Extent.seq d e f).branches = false ∧ (Extent.seq d e f).bytes ≤ k + m := by
    cases d <;>
      simp only [Extent.seq, Extent.followedBy, Extent.link, hbranches, hbranches',
        Bool.false_eq_true, if_false, true_and] <;>
      omega
  cases n with
  | empty => exact ⟨e, hlast⟩
  | _ => exact ⟨_, hseq, hboth⟩

theorem append_ofChars_cons (c : Char) (text : List Char) (m : Node) :
    append (ofChars (c :: text)) m = cons (ofChar c) (append (ofChars text) m) := by
  rw [ofChars_cons, append, parts_cons _ _ rfl]
  rfl

theorem straight_append_ofChars {m : Node} {room : Nat} (hm : m.Straight room) (text : List Char) :
    (append (ofChars text) m).Straight (Text.byteLength text * stateWeight + room) := by
  induction text with
  | nil =>
    rw [Text.byteLength_nil, Nat.zero_mul, Nat.zero_add]
    exact hm
  | cons c text ih =>
    rw [Text.byteLength_cons, Nat.add_mul, Nat.add_assoc, append_ofChars_cons]
    exact (straight_ofChar c).cons ih

theorem straight_ofChars (text : List Char) :
    (ofChars text).Straight (Text.byteLength text * stateWeight + stateWeight) := by
  induction text with
  | nil =>
    rw [Text.byteLength_nil, Nat.zero_mul, Nat.zero_add]
    exact straight_empty
  | cons c text ih =>
    rw [Text.byteLength_cons, Nat.add_mul, Nat.add_assoc]
    exact (straight_ofChar c).cons ih

/-- Anchors take a state each. -/
theorem straight_anchored_ofChars (text : List Char) :
    (ofChars text).anchored.Straight (Text.byteLength text * stateWeight + 2 * stateWeight) := by
  have hrest := straight_append_ofChars (straight_look .textEnd) text
  have hall := (straight_look .textStart).cons hrest
  rwa [show stateWeight + (Text.byteLength text * stateWeight + stateWeight) =
    Text.byteLength text * stateWeight + 2 * stateWeight by omega] at hall

/-- A node whose code has no branches weighs its room and what stands around every code. -/
theorem Straight.weight_le {n : Node} {room : Nat} (h : n.Straight room) (captures : Bool) :
    weight captures [n] ≤ frameWeight + stateWeight + branchWeight + room := by
  have hbytes (d : Direction) (captures : Bool) : n.bytes d captures ≤ room := by
    obtain ⟨e, he, -, hle⟩ := h d captures
    rw [bytes, he]
    exact hle
  simp only [weight, List.foldl_cons, List.foldl_nil]
  exact Nat.max_le.mpr ⟨Nat.add_le_add_left (hbytes _ _) _, Nat.add_le_add_left (hbytes _ _) _⟩

end Node

/-- The text of a pattern compiles if it reads as a node that has room. -/
theorem compile_of_straight {source : String} {n : Node} {room : Nat}
    (hparse : Node.parse source.toList = .ok n) (hn : n.Straight room)
    (hroom : Node.frameWeight + stateWeight + branchWeight + room ≤ weightLimit) :
    compile source = .ok (ofNode n) := by
  rw [compile, hparse]
  exact if_neg (Nat.not_lt.mpr ((hn.weight_le true).trans hroom))

end Telemetry.Regex

/-! ## Patterns -/

namespace Telemetry.Pattern

open Regex

/-- A literal pattern that is not too long compiles, by itself and anchored. -/
theorem compile_literal {source : String} (h : IsLiteral source.toList)
    (hlen : source.utf8ByteSize ≤ maxBytes) :
    compile .search source = .ok ⟨source, ofNode (Node.ofChars source.toList)⟩ ∧
      compile .full source = .ok ⟨source, ofNode (Node.ofChars source.toList).anchored⟩ := by
  have hbytes : Text.byteLength source.toList ≤ 4096 := (Text.byteLength_toList source).trans_le hlen
  have hparse : Node.parse source.toList = .ok (Node.ofChars source.toList) := by
    rw [Node.parse, Tree.parse_literal h]
    exact Tree.meaning_ofChars _
  have hparse' : Node.parse (Anchoring.full.source source).toList =
      .ok (Node.ofChars source.toList).anchored := by
    have htext : (Anchoring.full.source source).toList =
        '^' :: '(' :: '?' :: ':' :: (source.toList ++ closing) := by
      simp [Anchoring.source, closing]
    rw [Node.parse, htext, Tree.parse_anchored_literal h]
    refine (Tree.meaning_anchored _).trans ?_
    rw [Tree.meaning_ofChars]
    rfl
  have halone := compile_of_straight hparse (Node.straight_ofChars _)
    (by simp only [Node.frameWeight, stateWeight, branchWeight, weightLimit]; omega)
  have hanchored := compile_of_straight hparse' (Node.straight_anchored_ofChars _)
    (by simp only [Node.frameWeight, stateWeight, branchWeight, weightLimit]; omega)
  have hlong : ¬maxBytes < source.utf8ByteSize := Nat.not_lt.mpr hlen
  simp only [compile, hlong, if_false, halone, hanchored, and_self]

/-- A literal pattern can match one whole text, the one that it is written as. -/
theorem matchesWhole_ofChars_iff {source text : String} :
    (⟨source, ofNode (Node.ofChars source.toList)⟩ : Pattern).MatchesWhole text ↔ text = source := by
  rw [MatchesWhole, ofNode, Node.covers_ofChars_whole, String.toList_inj]

end Telemetry.Pattern
