import Telemetry.Proofs.Regex.Explore
import Telemetry.Regex.Joint

/-!
# What a search for several patterns finds

In the program of several patterns a thread from the beginning goes into the code of one of them and
stays there: where it is accepted tells the pattern, and what lies behind it is a stretch that the
pattern covers (`covers_of_run_joint`). So the patterns do not come in each other's way, and those
are found that match by themselves (`Joint.mem_matching_iff`, `Joint.isMatch_iff`).
-/

namespace Telemetry.Regex

variable {program : Array Instruction} {text : Array Char} {nodes : List Node} {start : Nat}

/-! ## Addresses -/

/-- The codes of nodes stand in the program from the address `start` on, and nothing behind them. -/
structure HoldsJoint (program : Array Instruction) (nodes : List Node) (start : Nat) : Prop where
  code : Holds program start (Node.jointCode nodes start)
  stop : program[start + (Node.jointCode nodes start).length]? = none

/-- The program of nodes holds their codes. -/
theorem holdsJoint_ofNodes (nodes : List Node) :
    HoldsJoint (Joint.ofNodes nodes).program nodes 0 where
  code := by
    intro k i hi
    simpa [Joint.ofNodes] using hi
  stop := by simp [Joint.ofNodes]

namespace HoldsJoint

variable {n : Node}

theorem first (h : HoldsJoint program (n :: nodes) start) :
    program[start]? = some (.split (start + 1) (start + n.size + 2)) ∧
      Holds program (start + 1) (n.code (start + 1) (start + n.size + 1)) ∧
      program[start + n.size + 1]? = some .accept := by
  have hcode := h.code
  rw [Node.jointCode, holds_cons, holds_append, n.length_code, holds_cons] at hcode
  obtain ⟨hsplit, hfirst, haccept, -⟩ := hcode
  rw [Nat.add_right_comm] at haccept
  exact ⟨hsplit, hfirst, haccept⟩

theorem rest (h : HoldsJoint program (n :: nodes) start) :
    HoldsJoint program nodes (start + n.size + 2) where
  code := by
    have hcode := h.code
    rw [Node.jointCode, holds_cons, holds_append, n.length_code, holds_cons] at hcode
    obtain ⟨-, -, -, hrest⟩ := hcode
    rwa [show start + 1 + n.size + 1 = start + n.size + 2 by omega] at hrest
  stop := by
    have hstop := h.stop
    rw [Node.jointCode, List.length_cons, List.length_append, n.length_code,
      List.length_cons] at hstop
    rw [← hstop]
    congr 1
    omega

end HoldsJoint

/-- Every node accepts at an address behind the beginning. -/
theorem Node.lt_of_mem_exits {address : Nat} (h : address ∈ exits nodes start) :
    start < address := by
  induction nodes generalizing start with
  | nil => cases h
  | cons n nodes ih =>
    rcases List.mem_cons.mp h with rfl | h
    · omega
    · have := ih h
      omega

/-- No two nodes accept at the same address. -/
theorem Node.nodup_exits (nodes : List Node) (start : Nat) : (exits nodes start).Nodup := by
  induction nodes generalizing start with
  | nil => exact .nil
  | cons n nodes ih =>
    have hfirst : start + n.size + 1 ∉ exits nodes (start + n.size + 2) := by
      intro hmem
      have := lt_of_mem_exits hmem
      omega
    exact List.nodup_cons.mpr ⟨hfirst, ih _⟩

/-! ## Runs -/

/-- A thread at the beginning is accepted where one of the nodes accepts, behind a stretch that this
node covers. -/
theorem covers_of_run_joint (h : HoldsJoint program nodes start) {k : Nat} {t v : Thread}
    (ht : t.pc = start) (hrun : Run program text k t v) (hv : v.Accepted program) :
    ∃ (i : Nat) (n : Node), nodes[i]? = some n ∧ (Node.exits nodes start)[i]? = some v.pc ∧
      n.Covers text t.pos v.pos := by
  induction nodes generalizing start k t with
  | nil =>
    have hnone : program[t.pc]? = none := by
      rw [ht]
      exact h.stop
    cases hrun with
    | stay => simp [Thread.Accepted, hnone] at hv
    | step hi => simp [hnone] at hi
  | cons n nodes ih =>
    obtain ⟨hsplit, hcode, haccept⟩ := h.first
    have hchoice : program[t.pc]? = some (choice true (start + 1) (start + n.size + 2)) := by
      rw [ht]
      exact hsplit
    obtain ⟨k', -, u, hu, hrun⟩ := hrun.of_choice hchoice hv
    rcases hu with rfl | rfl
    · obtain ⟨_, -, w, hrest, hpc, hcov⟩ := (implements_code n hcode).passes rfl hrun hv
      have haccepted : w.Accepted program := by rw [Thread.Accepted, hpc, haccept]
      obtain rfl := hrest.eq_of_accepted haccepted
      exact ⟨0, n, rfl, by simp [Node.exits, hpc], hcov⟩
    · obtain ⟨i, m, hm, hexit, hcov⟩ := ih h.rest rfl hrun
      exact ⟨i + 1, m, hm, by simpa [Node.exits] using hexit, hcov⟩

/-- A thread at the beginning can be accepted behind every stretch that one of the nodes covers, and
where this node accepts. -/
theorem run_joint_of_covers (h : HoldsJoint program nodes start) {t : Thread} (ht : t.pc = start)
    {i j : Nat} {n : Node} (hn : nodes[i]? = some n) (hcov : n.Covers text t.pos j) :
    ∃ k v, Run program text k t v ∧ v.Accepted program ∧
      (Node.exits nodes start)[i]? = some v.pc := by
  induction nodes generalizing start t i with
  | nil => cases hn
  | cons m nodes ih =>
    obtain ⟨hsplit, hcode, haccept⟩ := h.first
    have hsplit : program[t.pc]? = some (.split (start + 1) (start + m.size + 2)) := by rwa [ht]
    cases i with
    | zero =>
      obtain rfl := Option.some.inj hn
      obtain ⟨k, v, hrun, hpc, -⟩ :=
        (implements_code m hcode).reaches (t := { t with pc := start + 1 }) rfl hcov
      exact ⟨k + 1, v, .step hsplit List.mem_cons_self hrun, by rw [Thread.Accepted, hpc, haccept],
        by simp [Node.exits, hpc]⟩
    | succ i =>
      obtain ⟨k, v, hrun, hv, hexit⟩ :=
        ih h.rest (t := { t with pc := start + m.size + 2 }) rfl hn hcov
      exact ⟨k + 1, v, .step hsplit (List.mem_cons_of_mem _ List.mem_cons_self) hrun, hv,
        by simpa [Node.exits] using hexit⟩

/-! ## Matches -/

namespace Joint

/-- The places in a list at which a test holds. -/
theorem mem_places_iff {α : Type _} {l : List α} {p : α → Bool} {i : Nat} :
    i ∈ (l.zipIdx.filter (fun e => p e.1)).map (·.2) ↔ ∃ a, l[i]? = some a ∧ p a = true := by
  simp [List.mem_zipIdx_iff_getElem?, and_comm]

/-- The patterns that match a text together are those that match it by themselves. -/
theorem mem_matching_iff {s : String} {i : Nat} :
    i ∈ (ofNodes nodes).matching s ↔ ∃ n, nodes[i]? = some n ∧ (ofNode n).isMatch s = true := by
  simp only [matching, mem_places_iff, List.contains_iff_mem, mem_acceptances_iff,
    isMatch_ofNode_iff]
  constructor
  · rintro ⟨address, haddress, pos, -, hsize, k, v, hrun, hv, rfl⟩
    obtain ⟨i', n, hn, hexit, hcov⟩ := covers_of_run_joint (holdsJoint_ofNodes nodes) rfl hrun hv
    have hlt : i < (Node.exits nodes 0).length := (List.getElem?_eq_some_iff.mp haddress).1
    obtain rfl : i = i' :=
      (List.getElem?_inj hlt (Node.nodup_exits nodes 0)).mp (haddress.trans hexit.symm)
    exact ⟨n, hn, pos, v.pos, hsize, hcov⟩
  · rintro ⟨n, hn, pos, j, hsize, hcov⟩
    obtain ⟨k, v, hrun, hv, hexit⟩ :=
      run_joint_of_covers (holdsJoint_ofNodes nodes) (t := .startingAt pos) rfl hn hcov
    exact ⟨v.pc, hexit, pos, Nat.zero_le _, hsize, k, v, hrun, hv, rfl⟩

/-- Something is found exactly if one of the patterns matches by itself. -/
theorem isMatch_iff {s : String} :
    (ofNodes nodes).isMatch s = true ↔ ∃ n ∈ nodes, (ofNode n).isMatch s = true := by
  simp only [isMatch, search_isSome_iff, isMatch_ofNode_iff]
  constructor
  · rintro ⟨pos, -, hsize, k, v, hrun, hv⟩
    obtain ⟨i, n, hn, -, hcov⟩ := covers_of_run_joint (holdsJoint_ofNodes nodes) rfl hrun hv
    exact ⟨n, List.mem_of_getElem? hn, pos, v.pos, hsize, hcov⟩
  · rintro ⟨n, hn, pos, j, hsize, hcov⟩
    obtain ⟨i, hi⟩ := List.mem_iff_getElem?.mp hn
    obtain ⟨k, v, hrun, hv, -⟩ :=
      run_joint_of_covers (holdsJoint_ofNodes nodes) (t := .startingAt pos) rfl hi hcov
    exact ⟨pos, Nat.zero_le _, hsize, k, v, hrun, hv⟩

theorem isMatch_iff_exists_mem_matching {s : String} :
    (ofNodes nodes).isMatch s = true ↔ ∃ i, i ∈ (ofNodes nodes).matching s := by
  simp only [isMatch_iff, mem_matching_iff]
  constructor
  · rintro ⟨n, hn, hmatch⟩
    obtain ⟨i, hi⟩ := List.mem_iff_getElem?.mp hn
    exact ⟨i, n, hi, hmatch⟩
  · rintro ⟨i, n, hi, hmatch⟩
    exact ⟨n, List.mem_of_getElem? hi, hmatch⟩

/-- The places are given in ascending order. -/
theorem pairwise_matching (joint : Joint) (s : String) :
    (joint.matching s).Pairwise (· < ·) := by
  have hplaces : (joint.exits.zipIdx.map (·.2)).Pairwise (· < ·) := by
    rw [List.zipIdx_map_snd]
    exact List.pairwise_lt_range' ..
  exact hplaces.sublist (List.filter_sublist.map _)

end Joint

end Telemetry.Regex
