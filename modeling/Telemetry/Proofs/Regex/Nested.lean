import Telemetry.Proofs.Regex.Matches
import Telemetry.Proofs.Regex.Numbering

/-!
# Groups inside of groups

The code of a group's body never goes on outside of it but by way of the instruction behind it,
which notes where the group ends (`Inside.cases`). A group that is written inside the parentheses of
another one has all its instructions in the body of that one (`inside_of_save`). So what it noted
last as its end is noted before the end of the other one, and lies no further on in the text
(`stop_le_of_nests`). It may start before the other one if it took part in an earlier round of a
repetition only.
-/

namespace Telemetry.Regex

/-! ## Where code goes on -/

/-- The instruction goes on, and at an address from `first` up to `last`. -/
def Instruction.GoesOnIn (first last : Nat) : Instruction → Prop
  | .chars _ next | .look _ next | .jump next | .save _ next => first ≤ next ∧ next ≤ last
  | .split next next' => (first ≤ next ∧ next ≤ last) ∧ first ≤ next' ∧ next' ≤ last
  | .accept => False

section GoesOnIn

variable {first last : Nat} {i : Instruction}

theorem Instruction.GoesOnIn.ne_accept (h : i.GoesOnIn first last) : i ≠ .accept := by
  rintro rfl
  exact h

theorem Instruction.GoesOnIn.bounds {text : Array Char} {t u : Thread}
    (h : i.GoesOnIn first last) (hu : u ∈ i.advance text t) : first ≤ u.pc ∧ u.pc ≤ last := by
  cases i <;> simp only [advance] at hu
  case chars =>
    split at hu
    · split at hu
      · obtain rfl := List.mem_singleton.mp hu
        exact h
      · simp at hu
    · simp at hu
  case look =>
    split at hu
    · obtain rfl := List.mem_singleton.mp hu
      exact h
    · simp at hu
  case split =>
    rcases List.mem_pair.mp hu with rfl | rfl
    · exact h.1
    · exact h.2
  case accept => exact h.elim
  all_goals
    obtain rfl := List.mem_singleton.mp hu
    exact h

theorem goesOnIn_choice {greedy : Bool} {more exit : Nat} (hmore : first ≤ more ∧ more ≤ last)
    (hexit : first ≤ exit ∧ exit ≤ last) : (choice greedy more exit).GoesOnIn first last := by
  cases greedy with
  | true => exact ⟨hmore, hexit⟩
  | false => exact ⟨hexit, hmore⟩

variable {size k start : Nat} {code : Nat → Nat → List Instruction}

theorem goesOnIn_copies
    (hcode : ∀ {start next : Nat}, first ≤ start → start + size ≤ last →
      first ≤ next ∧ next ≤ last → ∀ i ∈ code start next, i.GoesOnIn first last)
    (hfirst : first ≤ start) (hlast : start + k * size ≤ last) :
    ∀ i ∈ copies size code k start, i.GoesOnIn first last := by
  induction k generalizing start with
  | zero => simp [copies]
  | succ k ih =>
    rw [Nat.succ_mul] at hlast
    intro i hi
    rcases List.mem_append.mp hi with hi | hi
    · exact hcode hfirst (by omega) (by omega) i hi
    · exact ih (by omega) (by omega) i hi

theorem goesOnIn_optionalCopies {greedy : Bool} {exit : Nat}
    (hcode : ∀ {start next : Nat}, first ≤ start → start + size ≤ last →
      first ≤ next ∧ next ≤ last → ∀ i ∈ code start next, i.GoesOnIn first last)
    (hexit : first ≤ exit ∧ exit ≤ last) (hfirst : first ≤ start)
    (hlast : start + k * (size + 1) ≤ last) :
    ∀ i ∈ optionalCopies greedy size code exit k start, i.GoesOnIn first last := by
  induction k generalizing start with
  | zero => simp [optionalCopies]
  | succ k ih =>
    rw [Nat.succ_mul] at hlast
    intro i hi
    rcases List.mem_cons.mp hi with rfl | hi
    · exact goesOnIn_choice (by omega) hexit
    · rcases List.mem_append.mp hi with hi | hi
      · exact hcode (by omega) (by omega) (by omega) i hi
      · exact ih (by omega) (by omega) i hi

/-- The code of a node goes on in it, right behind it or at the address that it was told. -/
theorem Node.goesOnIn_code {n : Node} {start next : Nat} (hfirst : first ≤ start)
    (hlast : start + n.size ≤ last) (hnext : first ≤ next ∧ next ≤ last) :
    ∀ i ∈ n.code start next, i.GoesOnIn first last := by
  induction n generalizing start next with
  | empty | chars | look =>
    intro i hi
    obtain rfl := List.mem_singleton.mp hi
    exact hnext
  | capture index name n ih =>
    simp only [size] at hlast
    simp only [code, List.forall_mem_cons, List.forall_mem_append]
    refine ⟨?_, ih (by omega) (by omega) (by omega), hnext, List.forall_mem_nil _⟩
    show first ≤ start + 1 ∧ start + 1 ≤ last
    omega
  | seq n m ihn ihm =>
    simp only [size] at hlast
    simp only [code, List.forall_mem_append]
    exact ⟨ihn (by omega) (by omega) (by omega), ihm (by omega) (by omega) hnext⟩
  | alt n m ihn ihm =>
    simp only [size] at hlast
    simp only [code, List.forall_mem_cons, List.forall_mem_append]
    refine ⟨?_, ihn (by omega) (by omega) hnext, ihm (by omega) (by omega) hnext⟩
    show (first ≤ start + 1 ∧ start + 1 ≤ last) ∧
      first ≤ start + 1 + n.size ∧ start + 1 + n.size ≤ last
    omega
  | repetition q n ih =>
    cases hmax : q.max with
    | some max =>
      simp only [size, hmax] at hlast
      simp only [code, hmax, List.forall_mem_append, List.forall_mem_singleton]
      exact ⟨goesOnIn_copies ih hfirst (by omega),
        goesOnIn_optionalCopies ih hnext (by omega) (by omega), hnext⟩
    | none =>
      simp only [size, hmax] at hlast
      simp only [code, hmax]
      by_cases hmin : q.min = 0
      · by_cases hnullable : n.isNullable = true
        · simp only [hmin, hnullable, if_true] at hlast
          simp only [hmin, hnullable, if_true, List.forall_mem_cons, List.forall_mem_append]
          have hchoice : (choice q.greedy (start + 1) next).GoesOnIn first last :=
            goesOnIn_choice (by omega) hnext
          exact ⟨hchoice, ih (by omega) (by omega) (by omega), hchoice, List.forall_mem_nil _⟩
        · simp only [hmin, hnullable, Bool.false_eq_true, if_true, if_false] at hlast
          simp only [hmin, hnullable, Bool.false_eq_true, if_true, if_false, List.forall_mem_cons]
          exact ⟨goesOnIn_choice (by omega) hnext, ih (by omega) (by omega) (by omega)⟩
      · simp only [hmin, if_false] at hlast
        simp only [hmin, if_false, List.forall_mem_append, List.forall_mem_singleton]
        exact ⟨goesOnIn_copies ih hfirst (by omega), ih (by omega) (by omega) (by omega),
          goesOnIn_choice (by omega) hnext⟩

end GoesOnIn

/-! ## In a group -/

/-- The address is in the body of a group with the index `i`, or it is that of the instruction which
notes its end. -/
def Inside (program : Array Instruction) (i pc : Nat) : Prop :=
  ∃ name body start next, Holds program start ((Node.capture i name body).code start next) ∧
    start + 1 ≤ pc ∧ pc ≤ start + 1 + body.size

variable {program : Array Instruction} {i k pc : Nat}

/-- In a group the end of the group is noted, or the program goes on in the group. -/
theorem Inside.cases (h : Inside program i pc) {instruction : Instruction}
    (hpc : program[pc]? = some instruction) :
    (∃ next, instruction = .save (2 * i + 1) next) ∨
      (instruction ≠ .accept ∧ ∀ (text : Array Char) (t u : Thread),
        u ∈ instruction.advance text t → Inside program i u.pc) := by
  obtain ⟨name, body, start, next, hp, hstart, hstop⟩ := h
  have hcode := hp
  rw [Node.code, holds_cons, holds_append, holds_cons, Node.length_code] at hcode
  obtain ⟨-, hbody, hlast, -⟩ := hcode
  rcases Nat.eq_or_lt_of_le hstop with rfl | hlt
  · exact .inl ⟨next, Option.some.inj (hpc.symm.trans hlast)⟩
  · obtain ⟨k, rfl⟩ := Nat.exists_eq_add_of_le hstart
    have hk : k < (body.code (start + 1) (start + 1 + body.size)).length := by
      rw [Node.length_code]
      omega
    have hget := List.getElem?_eq_getElem hk
    have hmem : instruction ∈ body.code (start + 1) (start + 1 + body.size) := by
      obtain rfl := Option.some.inj (hpc.symm.trans (hbody k _ hget))
      exact List.getElem_mem hk
    have hstays : instruction.GoesOnIn (start + 1) (start + 1 + body.size) :=
      Node.goesOnIn_code (Nat.le_refl _) (Nat.le_refl _) (by omega) _ hmem
    exact .inr ⟨hstays.ne_accept, fun text t u hu =>
      ⟨name, body, start, next, hp, hstays.bounds hu⟩⟩

/-! ## Groups outside of a group -/

/-- Collects the indices of the groups that do not stand in the group with the index `i`. -/
def outside (i k : Nat) (_ : Option String) (inner : List Nat) : List Nat :=
  k :: if k = i then [] else inner

theorem grows_outside (i : Nat) : Grows (outside i) := by
  intro k name xs ys h
  rw [outside, outside]
  split
  · exact List.Subset.refl _
  · exact List.cons_subset_cons k h

namespace Tree

variable {j : Nat}

theorem collect_outside_subset (i : Nat) (t : Tree) : t.collect (outside i) ⊆ t.indices := by
  induction t with
  | empty | flags | literal | dot | assertion | escaped | bracketed =>
    simp [collect]
  | repetition q t ih => exact ih
  | group kind t ih =>
    cases kind with
    | plain d => exact ih
    | capture k name =>
      rw [collect, outside, indices_capture]
      split
      · exact List.cons_subset_cons k (List.nil_subset _)
      · exact List.cons_subset_cons k ih
  | seq t u iht ihu =>
    rw [collect, indices_seq]
    exact append_subset_append iht ihu
  | alt t u iht ihu =>
    rw [collect, indices_alt]
    exact append_subset_append iht ihu

/-- A group that is written inside another one stands nowhere else. -/
theorem not_mem_outside_of_nests {t : Tree} (ht : t.indices.Pairwise (· < ·))
    (h : t.nests i j = true) : j ∉ t.collect (outside i) := by
  induction t with
  | empty | flags | literal | dot | assertion | escaped | bracketed => cases h
  | repetition q t ih => exact ih ht h
  | group kind t ih =>
    cases kind with
    | plain d => exact ih ht h
    | capture k name =>
      rw [indices_capture] at ht
      obtain ⟨hlt, ht⟩ := List.pairwise_cons.mp ht
      simp only [nests, Bool.or_eq_true, Bool.and_eq_true, beq_iff_eq, List.contains_iff_mem] at h
      have hj : j ∈ t.indices := h.elim (·.2) mem_indices_of_nests
      have hne : j ≠ k := Nat.ne_of_gt (hlt j hj)
      rw [collect, outside]
      split
      · simpa using hne
      · next hk =>
        have hinner : t.nests i j = true := h.resolve_left fun hnested => hk hnested.1
        simpa [hne] using ih ht hinner
  | seq t u iht ihu | alt t u iht ihu =>
    simp only [indices_seq, indices_alt] at ht
    obtain ⟨ht, hu, hbefore⟩ := List.pairwise_append.mp ht
    simp only [nests, Bool.or_eq_true] at h
    simp only [collect, List.mem_append, not_or]
    rcases h with h | h
    · have hj := mem_indices_of_nests h
      refine ⟨iht ht h, fun hmem => ?_⟩
      exact Nat.lt_irrefl j (hbefore j hj j (collect_outside_subset i u hmem))
    · have hj := mem_indices_of_nests h
      refine ⟨fun hmem => ?_, ihu hu h⟩
      exact Nat.lt_irrefl j (hbefore j (collect_outside_subset i t hmem) j hj)

end Tree

/-- Where the end of a group is noted that stands nowhere but in the group with the index `i`, the
program goes on in that one. -/
theorem inside_of_save {n : Node} {start next goOn : Nat}
    (hp : Holds program start (n.code start next)) (hk : k ∉ n.collect (outside i))
    (h : Instruction.save (2 * k + 1) goOn ∈ n.code start next) : Inside program i goOn := by
  induction n generalizing start next with
  | empty | chars | look => simp [Node.code] at h
  | capture l name n ih =>
    rw [Node.collect, outside, List.mem_cons, not_or] at hk
    obtain ⟨hne, hk⟩ := hk
    have hbody : Instruction.save (2 * k + 1) goOn ∈ n.code (start + 1) (start + 1 + n.size) := by
      simp only [Node.code, List.mem_cons, List.mem_append, Instruction.save.injEq,
        List.not_mem_nil, or_false] at h
      rcases h with ⟨hslot, -⟩ | h | ⟨hslot, -⟩
      · omega
      · exact h
      · omega
    split at hk
    · next hl =>
      subst hl
      exact ⟨name, n, start, next, hp,
        Node.goesOnIn_code (Nat.le_refl _) (Nat.le_refl _) (by omega) _ hbody⟩
    · rw [Node.code, holds_cons, holds_append] at hp
      exact ih hp.2.1 hk hbody
  | seq n m ihn ihm =>
    rw [Node.collect, List.mem_append, not_or] at hk
    rw [Node.code, holds_append, Node.length_code] at hp
    rcases List.mem_append.mp h with h | h
    · exact ihn hp.1 hk.1 h
    · exact ihm hp.2 hk.2 h
  | alt n m ihn ihm =>
    rw [Node.collect, List.mem_append, not_or] at hk
    rw [Node.code, holds_cons, holds_append, Node.length_code] at hp
    simp only [Node.code, List.mem_cons, List.mem_append, reduceCtorEq, false_or] at h
    rcases h with h | h
    · exact ihn hp.2.1 hk.1 h
    · exact ihm hp.2.2 hk.2 h
  | repetition q n ih =>
    obtain ⟨_, _, hp, h⟩ := Node.exists_holds_of_save_mem_repetition hp h
    exact ih hp hk h

/-! ## Runs -/

variable {n : Node} {text : Array Char} {j : Nat}

/-- Where the thread noted the end of the group with the index `j`, it is still in the group with the
index `i`, or it has noted the end of that one there or further on. -/
def EndsIn (program : Array Instruction) (i j : Nat) (t : Thread) : Prop :=
  ∀ p, t.slot? (2 * j + 1) = some p →
    p ≤ t.pos ∧ (Inside program i t.pc ∨ ∃ q, p ≤ q ∧ t.slot? (2 * i + 1) = some q)

theorem EndsIn.advance (hj : j ∉ n.collect (outside i)) {t u : Thread} {instruction : Instruction}
    (hpc : n.program.toArray[t.pc]? = some instruction) (hu : u ∈ instruction.advance text t)
    (h : EndsIn n.program.toArray i j t) : EndsIn n.program.toArray i j u := by
  intro p hp
  have hle : t.pos ≤ u.pos := (Instruction.pos_le_of_mem_advance hu).1
  rcases Thread.slot?_of_mem_advance hu (2 * j + 1) with hkept | ⟨rfl, hnoted⟩
  · obtain ⟨hpos, hwhere⟩ := h p (hkept ▸ hp)
    refine ⟨Nat.le_trans hpos hle, ?_⟩
    rcases hwhere with hinside | ⟨q, hq, hslot⟩
    · rcases hinside.cases hpc with ⟨next, rfl⟩ | ⟨-, hstays⟩
      · -- the end of the group around is noted, and nothing ends behind where the thread stands
        obtain rfl := List.mem_singleton.mp hu
        exact .inr ⟨t.pos, hpos, by simp [Thread.slot?]⟩
      · exact .inl (hstays text t u hu)
    · rcases Thread.slot?_of_mem_advance hu (2 * i + 1) with hkept | ⟨-, hnoted⟩
      · exact .inr ⟨q, hq, hkept.trans hslot⟩
      · exact .inr ⟨t.pos, hpos, hnoted⟩
  · obtain rfl := Option.some.inj (hnoted.symm.trans hp)
    exact ⟨hle, .inl (inside_of_save (holds_program n).1 hj (Node.save_mem_code hpc))⟩

theorem EndsIn.start (program : Array Instruction) (i j pos : Nat) :
    EndsIn program i j (.startingAt pos) := by
  intro p hp
  simp [Thread.slot?, Thread.startingAt] at hp

/-- In a match that is found, a group that stands nowhere but in another one ends where that one
ends or before. -/
theorem stop_le_of_matchFrom (hi : 1 ≤ i) (hj : 1 ≤ j) (houtside : j ∉ n.collect (outside i))
    {start : Nat} {m : Match} {outer inner : Span}
    (hm : (ofNode n).matchFrom text start = some m) (houter : m.group? i = some outer)
    (hinner : m.group? j = some inner) : inner.stop ≤ outer.stop := by
  obtain ⟨v, hsearch, hmatch⟩ := Option.bind_eq_some_iff.mp hm
  obtain ⟨hv, pos, k, -, -, hrun, -⟩ := run_of_search_eq_some hsearch
  rw [group?_of_match? hmatch, if_neg (by omega)] at houter hinner
  have hends : EndsIn n.program.toArray i j v :=
    hrun.invariant (fun _ _ _ hpc hu => EndsIn.advance houtside hpc hu) (.start _ i j pos)
  obtain ⟨-, hinside | ⟨q, hq, hslot⟩⟩ := hends _ (Thread.slots_of_span? hinner).2
  · -- a thread that is accepted is in no group
    rcases hinside.cases hv with ⟨next, hsave⟩ | ⟨hne, -⟩
    · cases hsave
    · exact absurd rfl hne
  · obtain rfl := Option.some.inj (hslot.symm.trans (Thread.slots_of_span? houter).2)
    exact hq

/-- In a match that is found, a group that is written inside another one ends where that one ends or
before. -/
theorem stop_le_of_nests {source : List Char} {t : Tree} (ht : Tree.parse source = .ok t)
    (hn : Node.parse source = .ok n) (hnests : t.nests i j = true) {start : Nat} {m : Match}
    {outer inner : Span} (hm : (ofNode n).matchFrom text start = some m)
    (houter : m.group? i = some outer) (hinner : m.group? j = some inner) :
    inner.stop ≤ outer.stop := by
  have hpairwise := Tree.pairwise_indices_of_parse ht
  have hi : 1 ≤ i := Tree.one_le_of_nests ht hnests
  have hlt : i < j := Tree.lt_of_nests hpairwise hnests
  have houtside : j ∉ n.collect (outside i) := by
    obtain ⟨t', ht', hsubset⟩ := Node.collect_subset_of_parse (grows_outside i) hn
    obtain rfl := Except.ok.inj (ht.symm.trans ht')
    exact fun hmem => Tree.not_mem_outside_of_nests hpairwise hnests (hsubset hmem)
  exact stop_le_of_matchFrom hi (by omega) houtside hm houter hinner

end Telemetry.Regex
