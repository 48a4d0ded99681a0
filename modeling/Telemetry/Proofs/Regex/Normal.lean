import Telemetry.Regex.Normal

/-!
# What normal form keeps

An alternation in normal form is built of branches that are no alternations themselves, so building
it again changes nothing (`alternation_alternation`). A sequence has the groups of its nodes
(`groups_append`).
-/

namespace Telemetry.Regex.Node

/-! ## Branches -/

theorem branches_of_mem_branches {p n : Node} (h : p ∈ n.branches) : p.branches = [p] := by
  induction n with
  | alt n m ihn ihm =>
    rw [branches, List.mem_append] at h
    exact h.elim ihn ihm
  | _ =>
    simp only [branches, List.mem_singleton] at h
    rw [h, branches]
    simp

theorem branches_ne_nil (n : Node) : n.branches ≠ [] := by
  induction n with
  | alt n m ihn ihm => simp [branches, ihn]
  | _ => exact List.cons_ne_nil _ _

/-- A node of several parts is a sequence, so it is its own only branch. -/
theorem branches_of_two_le_parts {n : Node} (h : 2 ≤ n.parts.length) : n.branches = [n] := by
  cases n with
  | alt n m => simp [parts] at h
  | _ => rfl

theorem branches_choose {ns : List Node} (hne : ns ≠ []) (h : ∀ n ∈ ns, n.branches = [n]) :
    (choose ns).branches = ns := by
  induction ns with
  | nil => exact absurd rfl hne
  | cons n ns ih =>
    cases ns with
    | nil => exact h n (List.mem_singleton_self n)
    | cons m ns =>
      rw [choose, branches, h n (.head _), ih (List.cons_ne_nil m ns) fun k hk => h k (.tail n hk)]
      · rfl
      · simp

theorem length_le_length_flatMap_branches (ns : List Node) :
    ns.length ≤ (ns.flatMap branches).length := by
  induction ns with
  | nil => exact Nat.le_refl _
  | cons n ns ih =>
    have := List.length_pos_iff.mpr n.branches_ne_nil
    rw [List.flatMap_cons, List.length_append, List.length_cons]
    omega

/-! ## Common beginnings -/

/-- The groups of parts are not empty and hold nothing but the parts. -/
theorem ne_nil_of_mem_units {ps u : List Node} (h : u ∈ units ps) :
    u ≠ [] ∧ ∀ p ∈ u, p ∈ ps := by
  induction ps generalizing u with
  | nil => simp [units] at h
  | cons p ps ih =>
    simp only [units] at h
    split at h
    · obtain rfl := List.mem_singleton.mp h
      simp
    · next v us hunits =>
      have hv := ih (hunits ▸ List.mem_cons_self : v ∈ units ps)
      have hus {w : List Node} (hw : w ∈ us) := ih (hunits ▸ List.mem_cons_of_mem v hw)
      split at h
      · rcases List.mem_cons.mp h with rfl | h
        · exact ⟨List.cons_ne_nil p v, List.forall_mem_cons.mpr
            ⟨List.mem_cons_self, fun q hq => List.mem_cons_of_mem p (hv.2 q hq)⟩⟩
        · exact ⟨(hus h).1, fun q hq => List.mem_cons_of_mem p ((hus h).2 q hq)⟩
      · rcases List.mem_cons.mp h with rfl | h
        · simp
        rcases List.mem_cons.mp h with rfl | h
        · exact ⟨hv.1, fun q hq => List.mem_cons_of_mem p (hv.2 q hq)⟩
        · exact ⟨(hus h).1, fun q hq => List.mem_cons_of_mem p ((hus h).2 q hq)⟩

theorem common_prefix [DecidableEq α] (xs ys : List α) : common xs ys <+: xs := by
  induction xs generalizing ys with
  | nil => simp [common]
  | cons x xs ih =>
    cases ys with
    | nil => simp [common]
    | cons y ys =>
      simp only [common]
      split
      · exact (List.prefix_cons_inj x).mpr (ih ys)
      · exact List.nil_prefix

theorem commonStart_prefix [DecidableEq α] (xs : List α) (rest : List (List α)) :
    commonStart (xs :: rest) <+: xs := by
  cases rest with
  | nil => exact List.prefix_rfl
  | cons ys rest => exact common_prefix xs _

/-- The choice between several nodes has parts. -/
theorem parts_join_ne_nil {ns : List Node} (h : 2 ≤ ns.length) : (join ns).parts ≠ [] := by
  have hlen := Nat.le_trans h (length_le_length_flatMap_branches ns)
  unfold join
  generalize ns.flatMap branches = ms at *
  match ms, hlen with
  | n :: m :: ms, _ =>
    simp only
    split
    · simp [ofSet, parts]
    · simp [choose, parts]

/-- What is taken in front of several alternatives makes a sequence with the choice between what is
left of them. -/
theorem branches_concat_of_factored? {ns start rests : List Node} (hns : 2 ≤ ns.length)
    (h : factored? ns = some (start, rests)) :
    (concat (start ++ [join rests])).branches = [concat (start ++ [join rests])] := by
  simp only [factored?] at h
  split at h
  case isFalse => simp at h
  split at h
  case h_1 => simp at h
  case h_2 hne =>
    obtain ⟨rfl, hrests⟩ := Prod.mk.inj (Option.some.inj h)
    have hjoin : (join rests).parts ≠ [] := parts_join_ne_nil (by
      rw [← hrests]
      simpa using hns)
    clear hrests h
    obtain ⟨n, ms, rfl⟩ := List.exists_cons_of_length_pos (Nat.lt_of_succ_lt hns)
    rw [List.map_cons] at hne ⊢
    have hstart := commonStart_prefix (units n.parts) (ms.map fun n => units n.parts)
    generalize commonStart (units n.parts :: ms.map fun n => units n.parts) = found at *
    obtain ⟨u, found, rfl⟩ := List.exists_cons_of_ne_nil hne
    obtain ⟨hu, hparts⟩ := ne_nil_of_mem_units (hstart.subset List.mem_cons_self)
    obtain ⟨p, hp⟩ := List.exists_mem_of_ne_nil u hu
    have hfirst : (u :: found).flatten.flatMap parts ≠ [] := by
      have hmem : p ∈ (u :: found).flatten.flatMap parts :=
        List.mem_flatMap.mpr ⟨p, List.mem_append_left _ hp, by
          rw [parts_of_mem_parts (hparts p hp)]; exact List.mem_singleton_self p⟩
      exact List.ne_nil_of_mem hmem
    refine branches_of_two_le_parts ?_
    rw [parts_concat, List.flatMap_append, List.length_append]
    have := List.length_pos_iff.mpr hfirst
    have := List.length_pos_iff.mpr hjoin
    rw [List.flatMap_cons, List.flatMap_nil, List.append_nil]
    omega

/-! ## Alternations -/

theorem alternation_of_branches {n : Node} (h : n.branches = [n]) : alternation [n] = n := by
  simp [alternation, h]

/-- To build an alternation again changes nothing. -/
theorem alternation_alternation (ns : List Node) :
    alternation [alternation ns] = alternation ns := by
  have hbranches : ∀ n ∈ ns.flatMap branches, n.branches = [n] := by
    intro n hn
    obtain ⟨m, -, hm⟩ := List.mem_flatMap.mp hn
    exact branches_of_mem_branches hm
  have hbuilt : (alternation ns).branches = [alternation ns] ∨
      (alternation ns).branches = ns.flatMap branches := by
    unfold alternation
    split
    · next n hn =>
      exact .inl (hbranches n (hn ▸ List.mem_singleton_self n))
    · next hsingle =>
      split
      · exact .inl rfl
      · next hmerged =>
        have hne : ns.flatMap branches ≠ [] := by
          intro hnil
          simp [hnil, merged?] at hmerged
        split
        · next start rests hfactored =>
          have hpos := List.length_pos_iff.mpr hne
          have hone : (ns.flatMap branches).length ≠ 1 := by
            intro h
            obtain ⟨n, hn⟩ := List.length_eq_one_iff.mp h
            exact hsingle n hn
          exact .inl (branches_concat_of_factored? (by omega) hfactored)
        · exact .inr (branches_choose hne hbranches)
  rcases hbuilt with h | h
  · exact alternation_of_branches h
  · -- the branches are the same, and nothing else is looked at
    have hsame : [alternation ns].flatMap branches = ns.flatMap branches := by
      rw [List.flatMap_cons, List.flatMap_nil, List.append_nil, h]
    rw [alternation, hsame]
    rfl

/-! ## Groups -/

theorem groups_cons (p n : Node) : (cons p n).groups = p.groups ++ n.groups := by
  cases n <;> simp [cons, groups]

theorem groups_foldr_parts (n m : Node) :
    (n.parts.foldr cons m).groups = n.groups ++ m.groups := by
  induction n generalizing m with
  | empty => rfl
  | seq n₁ n₂ ih₁ ih₂ => rw [parts, List.foldr_append, ih₁, ih₂, groups, List.append_assoc]
  | _ => rw [parts, List.foldr_cons, List.foldr_nil, groups_cons] <;> simp

/-- A sequence has the groups of both nodes. -/
theorem groups_append (n m : Node) : (append n m).groups = n.groups ++ m.groups :=
  groups_foldr_parts n m

end Telemetry.Regex.Node
