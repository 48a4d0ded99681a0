import Telemetry.Proofs.Regex.Covers

/-!
# What the code of a pattern does

A thread runs through a program one instruction at a time. `Implements` says of two addresses what
stretches of the text lie between a thread at the first one and the same thread at the second one.
Each form of code has a lemma that says what it implements if its parts implement what they should;
from these the code of a node implements what the node covers (`implements_code`).
-/

namespace Telemetry.Regex

/-- A thread becomes another one in `k` steps. -/
inductive Run (program : Array Instruction) (text : Array Char) : Nat → Thread → Thread → Prop where
  | stay (t : Thread) : Run program text 0 t t
  | step {k : Nat} {t u v : Thread} {i : Instruction} : program[t.pc]? = some i →
      u ∈ i.advance text t → Run program text k u v → Run program text (k + 1) t v

/-- The program accepts the thread where it stands. -/
def Thread.Accepted (program : Array Instruction) (t : Thread) : Prop :=
  program[t.pc]? = some .accept

variable {program : Array Instruction} {text : Array Char}

/-- A choice makes a thread for each of its branches. -/
theorem mem_advance_choice {greedy : Bool} {more exit : Nat} {t u : Thread} :
    u ∈ (choice greedy more exit).advance text t ↔
      u = { t with pc := more } ∨ u = { t with pc := exit } := by
  cases greedy with
  | true => simp [choice, Instruction.advance]
  | false => simp [choice, Instruction.advance, or_comm]

namespace Run

theorem trans {k m : Nat} {t u v : Thread} (h : Run program text k t u)
    (h' : Run program text m u v) : Run program text (k + m) t v := by
  induction h with
  | stay => simpa using h'
  | step hi hu _ ih =>
    rw [Nat.add_right_comm]
    exact .step hi hu (ih h')

/-- What every instruction of the program keeps of a thread, a run keeps. -/
theorem invariant {P : Thread → Prop}
    (hP : ∀ (i : Instruction) (t u : Thread), program[t.pc]? = some i → u ∈ i.advance text t →
      P t → P u) {k : Nat} {t v : Thread} (h : Run program text k t v) (ht : P t) : P v := by
  induction h with
  | stay => exact ht
  | step hi hu _ ih => exact ih (hP _ _ _ hi hu ht)

/-- An accepted thread goes no further. -/
theorem eq_of_accepted {k : Nat} {t v : Thread} (h : Run program text k t v)
    (ht : t.Accepted program) : v = t := by
  cases h with
  | stay => rfl
  | step hi hu _ =>
    rw [Option.some.inj (hi.symm.trans ht)] at hu
    simp [Instruction.advance] at hu

/-- A run to an accepted thread that stands at a choice takes one of its branches. -/
theorem of_choice {greedy : Bool} {more exit k : Nat} {t v : Thread}
    (h : Run program text k t v) (hi : program[t.pc]? = some (choice greedy more exit))
    (hv : v.Accepted program) :
    ∃ k', k = k' + 1 ∧ ∃ u, (u = { t with pc := more } ∨ u = { t with pc := exit }) ∧
      Run program text k' u v := by
  cases h with
  | stay =>
    have : choice greedy more exit = .accept := Option.some.inj (hi.symm.trans hv)
    cases greedy <;> cases this
  | @step k _ u _ i hi' hu hrun =>
    obtain rfl := Option.some.inj (hi.symm.trans hi')
    exact ⟨k, rfl, u, mem_advance_choice.mp hu, hrun⟩

end Run

/-! ## Code in a program -/

/-- The code stands in the program from the address `start` on. -/
def Holds (program : Array Instruction) (start : Nat) (code : List Instruction) : Prop :=
  ∀ k i, code[k]? = some i → program[start + k]? = some i

theorem holds_cons {start : Nat} {i : Instruction} {code : List Instruction} :
    Holds program start (i :: code) ↔
      program[start]? = some i ∧ Holds program (start + 1) code := by
  constructor
  · intro h
    refine ⟨h 0 i rfl, fun k j hj => ?_⟩
    rw [Nat.add_right_comm]
    exact h (k + 1) j (by simpa using hj)
  · rintro ⟨hi, h⟩ k j hj
    cases k with
    | zero => simpa [← Option.some.inj hj] using hi
    | succ k =>
      rw [← Nat.add_assoc, Nat.add_right_comm]
      exact h k j (by simpa using hj)

theorem holds_append {start : Nat} {code code' : List Instruction} :
    Holds program start (code ++ code') ↔
      Holds program start code ∧ Holds program (start + code.length) code' := by
  induction code generalizing start with
  | nil => simp [Holds]
  | cons i code ih =>
    rw [List.cons_append, holds_cons, ih, holds_cons, List.length_cons, and_assoc,
      Nat.add_right_comm, Nat.add_assoc]

/-! ## What code implements -/

/-- Between the addresses `start` and `next` a thread moves as `covers` says: it can move so, and
if it is accepted in the end it has come to `next` in this way. -/
structure Implements (program : Array Instruction) (text : Array Char)
    (covers : Nat → Nat → Prop) (start next : Nat) : Prop where
  reaches : ∀ {t : Thread} {j : Nat}, t.pc = start → covers t.pos j →
    ∃ k u, Run program text k t u ∧ u.pc = next ∧ u.pos = j
  passes : ∀ {k : Nat} {t v : Thread}, t.pc = start → Run program text k t v →
    v.Accepted program →
    ∃ k' ≤ k, ∃ u, Run program text k' u v ∧ u.pc = next ∧ covers t.pos u.pos

namespace Implements

variable {covers covers' : Nat → Nat → Prop} {start mid next : Nat}

theorem congr (h : Implements program text covers start next)
    (hiff : ∀ i j, covers i j ↔ covers' i j) : Implements program text covers' start next := by
  have : covers = covers' := funext fun i => funext fun j => propext (hiff i j)
  exact this ▸ h

/-- No code at all implements staying where one is. -/
theorem refl (start : Nat) : Implements program text (· = ·) start start where
  reaches := fun {t _} ht hj => ⟨0, t, .stay t, ht, hj⟩
  passes := fun {k t _} ht h _ => ⟨k, Nat.le_refl k, t, h, ht, rfl⟩

theorem trans (h : Implements program text covers start mid)
    (h' : Implements program text covers' mid next) :
    Implements program text (fun i j => ∃ k, covers i k ∧ covers' k j) start next where
  reaches := by
    rintro t j ht ⟨p, hp, hj⟩
    obtain ⟨k, u, hu, hpc, rfl⟩ := h.reaches ht hp
    obtain ⟨m, v, hv, hpc', hpos⟩ := h'.reaches hpc hj
    exact ⟨k + m, v, hu.trans hv, hpc', hpos⟩
  passes := by
    intro k t v ht hrun hv
    obtain ⟨k', hk', u, hu, hpc, hcov⟩ := h.passes ht hrun hv
    obtain ⟨m, hm, w, hw, hpc', hcov'⟩ := h'.passes hpc hu hv
    exact ⟨m, Nat.le_trans hm hk', w, hw, hpc', u.pos, hcov, hcov'⟩

/-- An instruction implements what it does to the position of a thread. -/
theorem instruction {i : Instruction} (hi : program[start]? = some i) (hne : i ≠ .accept)
    (hadv : ∀ t u, u ∈ i.advance text t → u.pc = next ∧ covers t.pos u.pos)
    (hcov : ∀ t j, covers t.pos j → ∃ u ∈ i.advance text t, u.pos = j) :
    Implements program text covers start next where
  reaches := by
    intro t j ht hj
    obtain ⟨u, hu, hpos⟩ := hcov t j hj
    exact ⟨1, u, .step (ht ▸ hi) hu (.stay u), (hadv t u hu).1, hpos⟩
  passes := by
    intro k t v ht hrun hv
    cases hrun with
    | stay =>
      rw [Thread.Accepted, ht, hi] at hv
      exact absurd (Option.some.inj hv) hne
    | @step k _ u _ i' hi' hu hrun =>
      rw [ht, hi] at hi'
      obtain rfl := Option.some.inj hi'
      exact ⟨k, Nat.le_succ k, u, hrun, hadv t u hu⟩

/-- An instruction that only goes on to the next one implements staying where one is. -/
theorem goOn {i : Instruction} (hi : program[start]? = some i) (hne : i ≠ .accept)
    (hadv : ∀ t, ∃ slots, i.advance text t = [⟨next, t.pos, slots⟩]) :
    Implements program text (· = ·) start next := by
  refine instruction hi hne (fun t u hu => ?_) (fun t j hj => ?_)
  · obtain ⟨slots, h⟩ := hadv t
    rw [h, List.mem_singleton] at hu
    subst hu
    exact ⟨rfl, rfl⟩
  · obtain ⟨slots, h⟩ := hadv t
    exact ⟨⟨next, t.pos, slots⟩, by simp [h], hj⟩

/-- A choice implements what either of its branches does. -/
theorem choice {greedy : Bool} {more exit : Nat}
    (hi : program[start]? = some (Regex.choice greedy more exit))
    (h : Implements program text covers more next)
    (h' : Implements program text covers' exit next) :
    Implements program text (fun i j => covers i j ∨ covers' i j) start next where
  reaches := by
    rintro t j ht (hj | hj)
    · obtain ⟨k, u, hu, hpc, hpos⟩ := h.reaches (t := { t with pc := more }) rfl hj
      exact ⟨k + 1, u, .step (ht ▸ hi) (mem_advance_choice.mpr (.inl rfl)) hu, hpc, hpos⟩
    · obtain ⟨k, u, hu, hpc, hpos⟩ := h'.reaches (t := { t with pc := exit }) rfl hj
      exact ⟨k + 1, u, .step (ht ▸ hi) (mem_advance_choice.mpr (.inr rfl)) hu, hpc, hpos⟩
  passes := by
    intro k t v ht hrun hv
    obtain ⟨k, rfl, u, hu, hrun⟩ := hrun.of_choice (ht ▸ hi) hv
    rcases hu with rfl | rfl
    · obtain ⟨k', hk', w, hw, hpc, hcov⟩ := h.passes rfl hrun hv
      exact ⟨k', Nat.le_succ_of_le hk', w, hw, hpc, .inl hcov⟩
    · obtain ⟨k', hk', w, hw, hpc, hcov⟩ := h'.passes rfl hrun hv
      exact ⟨k', Nat.le_succ_of_le hk', w, hw, hpc, .inr hcov⟩

/-! ### Repetitions -/

/-- A loop: from `tail` a thread leaves for `exit`, or goes through the body at `head` once more. -/
theorem loop {greedy : Bool} {head tail exit : Nat}
    (hi : program[tail]? = some (Regex.choice greedy head exit))
    (hbody : Implements program text covers head tail) :
    Implements program text (fun i j => ∃ rounds, Rounds covers rounds i j) tail exit where
  reaches := by
    rintro t j ht ⟨rounds, hj⟩
    induction rounds generalizing t with
    | zero =>
      have leave : Run program text 1 t { t with pc := exit } :=
        .step (ht ▸ hi) (mem_advance_choice.mpr (.inr rfl)) (.stay _)
      exact ⟨1, { t with pc := exit }, leave, rfl, Rounds.zero_iff.mp hj⟩
    | succ rounds ih =>
      obtain ⟨p, hp, hj⟩ := Rounds.succ_iff.mp hj
      obtain ⟨k, u, hu, hpc, rfl⟩ := hbody.reaches (t := { t with pc := head }) rfl hp
      obtain ⟨m, v, hv, hpc', hpos⟩ := ih hpc hj
      exact ⟨k + m + 1, v, .step (ht ▸ hi) (mem_advance_choice.mpr (.inl rfl)) (hu.trans hv), hpc',
        hpos⟩
  passes := by
    -- every round takes a step of its own for the choice, so the runs that are left get shorter
    intro k
    induction k using Nat.strongRecOn with
    | ind k ih =>
      intro t v ht hrun hv
      obtain ⟨k, rfl, u, hu, hrun⟩ := hrun.of_choice (ht ▸ hi) hv
      rcases hu with rfl | rfl
      · obtain ⟨k', hk', w, hw, hpc, hcov⟩ := hbody.passes rfl hrun hv
        obtain ⟨m, hm, x, hx, hpc', rounds, hrounds⟩ := ih k' (Nat.lt_succ_of_le hk') hpc hw hv
        exact ⟨m, by omega, x, hx, hpc', rounds + 1, .next hcov hrounds⟩
      · exact ⟨k, Nat.le_succ k, _, hrun, rfl, 0, .none t.pos⟩

variable {size : Nat} {code : Nat → Nat → List Instruction}

theorem copies (hlen : ∀ start next, (code start next).length = size)
    (hcode : ∀ start next, Holds program start (code start next) →
      Implements program text covers start next)
    (k : Nat) (h : Holds program start (copies size code k start)) :
    Implements program text (Rounds covers k) start (start + k * size) := by
  induction k generalizing start with
  | zero =>
    rw [Nat.zero_mul, Nat.add_zero]
    exact (refl start).congr fun _ _ => Rounds.zero_iff.symm
  | succ k ih =>
    obtain ⟨hfirst, hrest⟩ := holds_append.mp h
    rw [hlen] at hrest
    have hnext : start + (k + 1) * size = start + size + k * size := by
      rw [Nat.succ_mul, Nat.add_assoc, Nat.add_comm size]
    rw [hnext]
    exact ((hcode _ _ hfirst).trans (ih hrest)).congr fun _ _ => Rounds.succ_iff.symm

theorem optionalCopies {greedy : Bool} {exit : Nat}
    (hlen : ∀ start next, (code start next).length = size)
    (hcode : ∀ start next, Holds program start (code start next) →
      Implements program text covers start next)
    (k : Nat)
    (h : Holds program start (optionalCopies greedy size code exit k start ++ [.jump exit])) :
    Implements program text (fun i j => ∃ more ≤ k, Rounds covers more i j) start exit := by
  induction k generalizing start with
  | zero =>
    have hjump := (holds_cons.mp h).1
    refine (goOn hjump (by simp) fun t => ⟨t.slots, rfl⟩).congr fun i j => ?_
    simp [Rounds.zero_iff]
  | succ k ih =>
    rw [Regex.optionalCopies, List.cons_append, List.append_assoc, holds_cons, holds_append,
      hlen] at h
    obtain ⟨hchoice, hfirst, hrest⟩ := h
    refine (choice hchoice ((hcode _ _ hfirst).trans (ih hrest)) (refl exit)).congr fun i j => ?_
    constructor
    · rintro (⟨p, hp, more, hmore, hrounds⟩ | rfl)
      · exact ⟨more + 1, Nat.succ_le_succ hmore, .next hp hrounds⟩
      · exact ⟨0, Nat.zero_le _, .none i⟩
    · rintro ⟨more, hmore, hrounds⟩
      cases more with
      | zero => exact .inr (Rounds.zero_iff.mp hrounds)
      | succ more =>
        obtain ⟨p, hp, hrounds⟩ := Rounds.succ_iff.mp hrounds
        exact .inl ⟨p, hp, more, Nat.le_of_succ_le_succ hmore, hrounds⟩

end Implements

/-! ## Nodes -/

/-- The code of an unbounded repetition implements its least number of rounds and any number
more. -/
theorem implements_unbounded {q : Quantifier} {n : Node} {start next : Nat}
    (hn : ∀ {start next : Nat}, Holds program start (n.code start next) →
      Implements program text (n.Covers text) start next)
    (hmax : q.max = none) (h : Holds program start ((Node.repetition q n).code start next)) :
    Implements program text
      (fun i j => ∃ more p, Rounds (n.Covers text) q.min i p ∧ Rounds (n.Covers text) more p j)
      start next := by
  simp only [Node.code, hmax] at h
  by_cases hmin : q.min = 0
  · simp only [hmin, if_true] at h
    simp only [hmin, Rounds.zero_iff, exists_eq_left']
    by_cases hnullable : n.isNullable = true
    · simp only [hnullable, if_true, holds_cons, holds_append, n.length_code] at h
      obtain ⟨henter, hbody, hagain, -⟩ := h
      -- the choice at the entrance leaves at once, the one behind the body leaves after a round
      have body := hn hbody
      have again := Implements.loop hagain body
      refine (Implements.choice henter (body.trans again) (.refl next)).congr fun i j => ?_
      constructor
      · rintro (⟨p, hp, rounds, h⟩ | rfl)
        · exact ⟨rounds + 1, .next hp h⟩
        · exact ⟨0, .none i⟩
      · rintro ⟨rounds, h⟩
        cases rounds with
        | zero => exact .inr (Rounds.zero_iff.mp h)
        | succ rounds =>
          obtain ⟨p, hp, h⟩ := Rounds.succ_iff.mp h
          exact .inl ⟨p, hp, rounds, h⟩
    · simp only [hnullable, Bool.false_eq_true, if_false, holds_cons] at h
      exact .loop h.1 (hn h.2)
  · simp only [hmin, if_false, holds_append, holds_cons, Node.length_copies n.length_code,
      n.length_code] at h
    obtain ⟨hcopies, hbody, hagain, -⟩ := h
    have first := Implements.copies n.length_code (fun _ _ => hn) _ hcopies
    refine ((first.trans (hn hbody)).trans (.loop hagain (hn hbody))).congr fun i j => ?_
    obtain ⟨m, hm⟩ : ∃ m, q.min = m + 1 := Nat.exists_eq_succ_of_ne_zero hmin
    rw [hm, Nat.add_sub_cancel]
    constructor
    · rintro ⟨p, ⟨p', hp', hp⟩, rounds, h⟩
      exact ⟨rounds, p, Rounds.add_iff.mpr ⟨p', hp', .next hp (.none p)⟩, h⟩
    · rintro ⟨rounds, p, hp, h⟩
      obtain ⟨p', hp', hlast⟩ := Rounds.add_iff.mp hp
      obtain ⟨_, hlast, hnone⟩ := Rounds.succ_iff.mp hlast
      exact ⟨p, ⟨p', hp', Rounds.zero_iff.mp hnone ▸ hlast⟩, rounds, h⟩

/-- The code of a node implements what the node covers. -/
theorem implements_code (n : Node) {start next : Nat}
    (h : Holds program start (n.code start next)) :
    Implements program text (n.Covers text) start next := by
  induction n generalizing start next with
  | empty => exact .goOn (holds_cons.mp h).1 (by simp) fun t => ⟨t.slots, rfl⟩
  | chars s narrow =>
    refine .instruction (holds_cons.mp h).1 (by simp) (fun t u hu => ?_) (fun t j hj => ?_)
    · simp only [Instruction.advance] at hu
      split at hu
      · next c hc =>
        split at hu
        · next hs =>
          obtain rfl := List.mem_singleton.mp hu
          exact ⟨rfl, rfl, c, hc, hs⟩
        · simp at hu
      · simp at hu
    · obtain ⟨rfl, c, hc, hs⟩ := hj
      exact ⟨⟨next, t.pos + 1, t.slots⟩, by simp [Instruction.advance, hc, hs], rfl⟩
  | look l =>
    refine .instruction (holds_cons.mp h).1 (by simp) (fun t u hu => ?_) (fun t j hj => ?_)
    · simp only [Instruction.advance] at hu
      split at hu
      · next hl =>
        obtain rfl := List.mem_singleton.mp hu
        exact ⟨rfl, rfl, hl⟩
      · simp at hu
    · obtain ⟨rfl, hl⟩ := hj
      exact ⟨{ t with pc := next }, by simp [Instruction.advance, hl], rfl⟩
  | capture i name n ih =>
    rw [Node.code, holds_cons, holds_append, Node.length_code, holds_cons] at h
    obtain ⟨hopen, hn, hclose, -⟩ := h
    have opened : Implements program text (· = ·) start (start + 1) :=
      .goOn hopen (by simp) fun t => ⟨_, rfl⟩
    have closed : Implements program text (· = ·) (start + 1 + n.size) next :=
      .goOn hclose (by simp) fun t => ⟨_, rfl⟩
    refine ((opened.trans (ih hn)).trans closed).congr fun i j => ?_
    simp [Node.Covers]
  | seq n m ihn ihm =>
    rw [Node.code, holds_append, Node.length_code] at h
    exact (ihn h.1).trans (ihm h.2)
  | alt n m ihn ihm =>
    rw [Node.code, holds_cons, holds_append, Node.length_code] at h
    have split : program[start]? = some (choice true (start + 1) (start + 1 + n.size)) := h.1
    exact .choice split (ihn h.2.1) (ihm h.2.2)
  | repetition q n ih =>
    cases hmax : q.max with
    | some max =>
      simp only [Node.code, hmax, holds_append, Node.length_copies n.length_code] at h
      refine ((Implements.copies n.length_code (fun _ _ => ih) _ h.1).trans
        (.optionalCopies n.length_code (fun _ _ => ih) _
          (holds_append.mpr ⟨h.2.1, h.2.2⟩))).congr fun i j => ?_
      simp only [Node.covers_repetition, hmax, Option.mem_some_iff, forall_eq']
      constructor
      · rintro ⟨p, hp, more, hmore, h⟩
        exact ⟨more, hmore, p, hp, h⟩
      · rintro ⟨more, hmore, p, hp, h⟩
        exact ⟨p, hp, more, hmore, h⟩
    | none =>
      refine (implements_unbounded ih hmax h).congr fun i j => ?_
      simp [Node.covers_repetition, hmax]

end Telemetry.Regex
