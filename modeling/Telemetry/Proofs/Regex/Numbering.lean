import Telemetry.Proofs.Regex.Groups

/-!
# Indices and parentheses

Capturing groups get their indices in the order in which they open. So a group that is written
inside the parentheses of another one has the greater index (`Tree.lt_of_nests`), and what opens
between the two is written inside as well (`Tree.nests_of_between`).
-/

namespace Telemetry.Regex

/-- The indices of the groups of a tree, in order. -/
def Tree.indices (t : Tree) : List Nat := t.groups.map (·.1)

/-- Whether the group with the index `j` is written inside the parentheses of the one with the index
`i`. -/
def Tree.nests (i j : Nat) : Tree → Bool
  | .group (.capture k _) t => (k == i && t.indices.contains j) || t.nests i j
  | .group (.plain _) t | .repetition _ t => t.nests i j
  | .seq t u | .alt t u => t.nests i j || u.nests i j
  | _ => false

namespace Tree

variable {i j k : Nat}

theorem indices_capture (i : Nat) (name : Option String) (t : Tree) :
    (group (.capture i name) t).indices = i :: t.indices := rfl

theorem indices_seq (t u : Tree) : (seq t u).indices = t.indices ++ u.indices :=
  List.map_append

theorem indices_alt (t u : Tree) : (alt t u).indices = t.indices ++ u.indices :=
  List.map_append

/-- What is written inside a group stands right behind it. -/
theorem exists_indices_of_nests {t : Tree} (h : t.nests i j = true) :
    ∃ before inner after, t.indices = before ++ i :: (inner ++ after) ∧ j ∈ inner ∧
      ∀ k ∈ inner, t.nests i k = true := by
  induction t with
  | empty | flags | literal | dot | assertion | escaped | bracketed => cases h
  | repetition q t ih => exact ih h
  | group kind t ih =>
    cases kind with
    | plain d => exact ih h
    | capture l name =>
      rw [indices_capture]
      simp only [nests, Bool.or_eq_true, Bool.and_eq_true, beq_iff_eq, List.contains_iff_mem] at h ⊢
      rcases h with ⟨rfl, hj⟩ | h
      · exact ⟨[], t.indices, [], by simp, hj, fun k hk => .inl ⟨rfl, hk⟩⟩
      · obtain ⟨before, inner, after, heq, hj, hinner⟩ := ih h
        exact ⟨l :: before, inner, after, by rw [heq]; rfl, hj, fun k hk => .inr (hinner k hk)⟩
  | seq t u iht ihu | alt t u iht ihu =>
    simp only [indices_seq, indices_alt]
    simp only [nests, Bool.or_eq_true] at h ⊢
    rcases h with h | h
    · obtain ⟨before, inner, after, heq, hj, hinner⟩ := iht h
      exact ⟨before, inner, after ++ u.indices, by simp [heq], hj, fun k hk => .inl (hinner k hk)⟩
    · obtain ⟨before, inner, after, heq, hj, hinner⟩ := ihu h
      exact ⟨t.indices ++ before, inner, after, by simp [heq], hj, fun k hk => .inr (hinner k hk)⟩

theorem mem_indices_of_nests {t : Tree} (h : t.nests i j = true) : j ∈ t.indices := by
  obtain ⟨before, inner, after, heq, hj, -⟩ := exists_indices_of_nests h
  rw [heq]
  simp [hj]

/-- The indices of a pattern ascend. -/
theorem pairwise_indices_of_parse {text : List Char} {t : Tree} (h : Tree.parse text = .ok t) :
    t.indices.Pairwise (· < ·) := by
  obtain ⟨count, -, -, hcount⟩ := counted_of_parse h
  rw [indices, hcount]
  exact List.pairwise_lt_range'

variable {t : Tree}

/-- A group with another one inside of it is not the whole match. -/
theorem one_le_of_nests {text : List Char} (ht : Tree.parse text = .ok t)
    (h : t.nests i j = true) : 1 ≤ i := by
  obtain ⟨count, -, -, hcount⟩ := counted_of_parse ht
  obtain ⟨before, inner, after, heq, -, -⟩ := exists_indices_of_nests h
  have hmem : i ∈ t.indices := by
    rw [heq]
    simp
  rw [indices, hcount, List.mem_range'_1] at hmem
  exact hmem.1

/-- A group inside another one has the greater index. -/
theorem lt_of_nests (ht : t.indices.Pairwise (· < ·)) (h : t.nests i j = true) : i < j := by
  obtain ⟨before, inner, after, heq, hj, -⟩ := exists_indices_of_nests h
  rw [heq] at ht
  obtain ⟨-, ht, -⟩ := List.pairwise_append.mp ht
  exact (List.pairwise_cons.mp ht).1 j (List.mem_append_left after hj)

/-- A group that opens behind another one and before one inside of it is inside as well. -/
theorem nests_of_between (ht : t.indices.Pairwise (· < ·)) (h : t.nests i j = true)
    (hk : k ∈ t.indices) (hik : i < k) (hkj : k < j) : t.nests i k = true := by
  obtain ⟨before, inner, after, heq, hj, hinner⟩ := exists_indices_of_nests h
  rw [heq] at ht hk
  obtain ⟨-, ht, hbefore⟩ := List.pairwise_append.mp ht
  obtain ⟨-, ht⟩ := List.pairwise_cons.mp ht
  obtain ⟨-, -, hafter⟩ := List.pairwise_append.mp ht
  rcases List.mem_append.mp hk with hk | hk
  · exact absurd (hbefore k hk i List.mem_cons_self) (by omega)
  · rcases List.mem_cons.mp hk with rfl | hk
    · omega
    · rcases List.mem_append.mp hk with hk | hk
      · exact hinner k hk
      · exact absurd (hafter j hj k hk) (by omega)

end Tree

end Telemetry.Regex
