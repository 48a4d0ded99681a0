import Telemetry.Regex.Normal
import Telemetry.Regex.Search

/-!
# The stretches that a pattern covers

`Node.Covers text n i j` says that `n` can match the stretch of `text` from the position `i` to the
position `j`. It says nothing of which match is preferred or found: that is the business of the
search, which `Telemetry.Proofs.Regex.Explore` compares with it. What `Normal` builds covers what it
is built of covers (`covers_append`).
-/

namespace Telemetry.Regex

/-- `k` rounds of what `covers` says, one behind another. -/
inductive Rounds (covers : Nat → Nat → Prop) : Nat → Nat → Nat → Prop where
  | none (i : Nat) : Rounds covers 0 i i
  | next {k i j l : Nat} : covers i j → Rounds covers k j l → Rounds covers (k + 1) i l

namespace Rounds

variable {covers : Nat → Nat → Prop}

theorem zero_iff {i j : Nat} : Rounds covers 0 i j ↔ i = j := by
  constructor
  · intro h
    cases h
    rfl
  · rintro rfl
    exact .none i

theorem succ_iff {k i l : Nat} :
    Rounds covers (k + 1) i l ↔ ∃ j, covers i j ∧ Rounds covers k j l := by
  constructor
  · intro h
    cases h with
    | next h hs => exact ⟨_, h, hs⟩
  · rintro ⟨j, h, hs⟩
    exact .next h hs

/-- Rounds can be cut anywhere. -/
theorem add_iff {k m i l : Nat} :
    Rounds covers (k + m) i l ↔ ∃ j, Rounds covers k i j ∧ Rounds covers m j l := by
  induction k generalizing i with
  | zero => simp [zero_iff]
  | succ k ih =>
    rw [Nat.add_right_comm]
    simp only [succ_iff, ih]
    constructor
    · rintro ⟨j, h, j', hk, hm⟩
      exact ⟨j', ⟨j, h, hk⟩, hm⟩
    · rintro ⟨j', ⟨j, h, hk⟩, hm⟩
      exact ⟨j, h, j', hk, hm⟩

/-- What holds from one end of a round to the other holds from one end of all to the other. -/
theorem invariant {P : Nat → Prop} (hP : ∀ i j, covers i j → P i → P j) {k i j : Nat}
    (h : Rounds covers k i j) (hi : P i) : P j := by
  induction h with
  | none => exact hi
  | next h _ ih => exact ih (hP _ _ h hi)

end Rounds

/-- Whether a node can match the stretch of a text from the first position to the second. -/
def Node.Covers (text : Array Char) : Node → Nat → Nat → Prop
  | .empty, i, j => i = j
  | .chars s _, i, j => j = i + 1 ∧ ∃ c, text[i]? = some c ∧ s.containsChar c = true
  | .look l, i, j => i = j ∧ l.holds (charBefore text i) text[i]? = true
  | .capture _ _ n, i, j => n.Covers text i j
  | .seq n m, i, j => ∃ k, n.Covers text i k ∧ m.Covers text k j
  | .alt n m, i, j => n.Covers text i j ∨ m.Covers text i j
  | .repetition q n, i, j =>
    ∃ more, (∀ max ∈ q.max, more ≤ max - q.min) ∧ Rounds (n.Covers text) (q.min + more) i j

namespace Node

variable {text : Array Char}

/-- A repetition covers its least number of rounds, and some more behind them. -/
theorem covers_repetition {q : Quantifier} {n : Node} {i j : Nat} :
    (repetition q n).Covers text i j ↔
      ∃ more, (∀ max ∈ q.max, more ≤ max - q.min) ∧
        ∃ k, Rounds (n.Covers text) q.min i k ∧ Rounds (n.Covers text) more k j := by
  simp only [Covers, Rounds.add_iff]

/-! ## Sequences -/

theorem covers_cons {p n : Node} {i j : Nat} :
    (cons p n).Covers text i j ↔ ∃ k, p.Covers text i k ∧ n.Covers text k j := by
  cases n with
  | empty => simp [cons, Covers]
  | _ => rfl

/-- A node covers what its parts cover, one behind another. -/
theorem covers_foldr_parts {n m : Node} {i j : Nat} :
    (n.parts.foldr cons m).Covers text i j ↔ ∃ k, n.Covers text i k ∧ m.Covers text k j := by
  induction n generalizing m i with
  | empty => simp [parts, Covers]
  | seq n₁ n₂ ih₁ ih₂ =>
    simp only [parts, List.foldr_append, ih₁, ih₂, Covers]
    constructor
    · rintro ⟨k, h₁, l, h₂, h⟩
      exact ⟨l, ⟨k, h₁, h₂⟩, h⟩
    · rintro ⟨l, ⟨k, h₁, h₂⟩, h⟩
      exact ⟨k, h₁, l, h₂, h⟩
  | _ => simp only [parts, List.foldr_cons, List.foldr_nil, covers_cons]

theorem covers_append {n m : Node} {i j : Nat} :
    (append n m).Covers text i j ↔ ∃ k, n.Covers text i k ∧ m.Covers text k j :=
  covers_foldr_parts

/-! ## Positions -/

/-- A stretch that starts in the text ends in it. -/
theorem le_size_of_covers {n : Node} {i j : Nat} (h : n.Covers text i j) (hi : i ≤ text.size) :
    j ≤ text.size := by
  induction n generalizing i j with
  | empty => exact h ▸ hi
  | chars s narrow =>
    obtain ⟨rfl, c, hc, -⟩ := h
    exact (Array.getElem?_eq_some_iff.mp hc).1
  | look l => exact h.1 ▸ hi
  | capture _ _ n ih => exact ih h hi
  | seq n m ihn ihm =>
    obtain ⟨k, hn, hm⟩ := h
    exact ihm hm (ihn hn hi)
  | alt n m ihn ihm => exact h.elim (ihn · hi) (ihm · hi)
  | repetition q n ih =>
    obtain ⟨more, -, h⟩ := h
    exact h.invariant (P := (· ≤ text.size)) (fun _ _ => ih) hi

theorem covers_textStart {i j : Nat} (hi : i ≤ text.size) :
    (look .textStart).Covers text i j ↔ i = 0 ∧ j = 0 := by
  simp only [Covers, Look.holds, charBefore]
  by_cases h : i = 0
  · simp [h, eq_comm]
  · have : text[i - 1]? ≠ none := by
      rw [ne_eq, Array.getElem?_eq_none_iff]
      omega
    simp [h, this]

theorem covers_textEnd {i j : Nat} (hi : i ≤ text.size) :
    (look .textEnd).Covers text i j ↔ i = text.size ∧ j = text.size := by
  simp only [Covers, Look.holds, Option.isNone_iff_eq_none, Array.getElem?_eq_none_iff]
  omega

end Node

end Telemetry.Regex
