import Telemetry.Proofs.Regex.Explore

/-!
# The matches that are found

A search finds a stretch that the node of the pattern covers, and none before it is covered; the
groups that take part lie in it (`finds_of_matchFrom`). All matches of a text are found one behind
another until there is none left (`successive_allMatches`), so they lie apart and nothing between
them could have been matched (`Successive.apart`).
-/

namespace Telemetry.Regex

/-! ## Slots -/

theorem choice_ne_save {greedy : Bool} {more exit slot next : Nat} :
    choice greedy more exit ≠ .save slot next := by
  cases greedy <;> simp [choice]

/-! ## Code in code -/

section Copies

variable {program : Array Instruction} {size k start : Nat}
  {code : Nat → Nat → List Instruction} {i : Instruction}

theorem exists_holds_of_mem_copies (hlen : ∀ start next, (code start next).length = size)
    (hp : Holds program start (copies size code k start)) (h : i ∈ copies size code k start) :
    ∃ start next, Holds program start (code start next) ∧ i ∈ code start next := by
  induction k generalizing start with
  | zero => simp [copies] at h
  | succ k ih =>
    obtain ⟨hfirst, hrest⟩ := holds_append.mp hp
    rw [hlen] at hrest
    rcases List.mem_append.mp h with h | h
    · exact ⟨_, _, hfirst, h⟩
    · exact ih hrest h

theorem exists_holds_of_mem_optionalCopies {greedy : Bool} {exit : Nat}
    (hlen : ∀ start next, (code start next).length = size)
    (hp : Holds program start (optionalCopies greedy size code exit k start))
    (h : i ∈ optionalCopies greedy size code exit k start) :
    (∃ more exit, i = choice greedy more exit) ∨
      ∃ start next, Holds program start (code start next) ∧ i ∈ code start next := by
  induction k generalizing start with
  | zero => simp [optionalCopies] at h
  | succ k ih =>
    rw [optionalCopies, holds_cons, holds_append, hlen] at hp
    obtain ⟨-, hfirst, hrest⟩ := hp
    rcases List.mem_cons.mp h with h | h
    · exact .inl ⟨_, _, h⟩
    · rcases List.mem_append.mp h with h | h
      · exact .inr ⟨_, _, hfirst, h⟩
      · exact ih hrest h

end Copies

/-- The instructions of a repetition that note positions stand in the code of the node, of which the
code of the repetition holds copies. -/
theorem Node.exists_holds_of_save_mem_repetition {program : Array Instruction} {q : Quantifier}
    {n : Node} {start next slot goOn : Nat}
    (hp : Holds program start ((repetition q n).code start next))
    (h : Instruction.save slot goOn ∈ (repetition q n).code start next) :
    ∃ start next, Holds program start (n.code start next) ∧
      Instruction.save slot goOn ∈ n.code start next := by
  have hchoice {more exit : Nat} : Instruction.save slot goOn ≠ choice q.greedy more exit :=
    choice_ne_save.symm
  cases hmax : q.max with
  | some max =>
    simp only [code, hmax, holds_append, length_copies n.length_code] at hp
    simp only [code, hmax, List.mem_append, List.mem_singleton, reduceCtorEq, or_false] at h
    obtain ⟨hcopies, hoptional, -⟩ := hp
    rcases h with h | h
    · exact exists_holds_of_mem_copies n.length_code hcopies h
    · rcases exists_holds_of_mem_optionalCopies n.length_code hoptional h with ⟨_, _, h⟩ | h
      · exact absurd h hchoice
      · exact h
  | none =>
    by_cases hmin : q.min = 0
    · by_cases hnullable : n.isNullable = true
      · simp only [code, hmax, hmin, hnullable, if_true, holds_cons, holds_append] at hp
        simp only [code, hmax, hmin, hnullable, if_true, List.mem_cons, List.mem_append, hchoice,
          List.not_mem_nil, false_or, or_false] at h
        exact ⟨_, _, hp.2.1, h⟩
      · simp only [code, hmax, hmin, hnullable, Bool.false_eq_true, if_true, if_false,
          holds_cons] at hp
        simp only [code, hmax, hmin, hnullable, Bool.false_eq_true, if_true, if_false,
          List.mem_cons, hchoice, false_or] at h
        exact ⟨_, _, hp.2, h⟩
    · simp only [code, hmax, hmin, if_false, holds_append, length_copies n.length_code] at hp
      simp only [code, hmax, hmin, if_false, List.mem_append, List.mem_cons, hchoice,
        List.not_mem_nil, or_false] at h
      obtain ⟨hcopies, hlast, -⟩ := hp
      rcases h with h | h
      · exact exists_holds_of_mem_copies n.length_code hcopies h
      · exact ⟨_, _, hlast, h⟩

/-- Any code stands in some program. -/
theorem exists_holds (start : Nat) (code : List Instruction) : ∃ program, Holds program start code := by
  refine ⟨(List.replicate start Instruction.accept ++ code).toArray, fun k i hi => ?_⟩
  simp [List.getElem?_append, hi]

/-- The slot is one that a group notes its start or its end in. -/
def SlotOf (groups : List (Nat × Option String)) (slot : Nat) : Prop :=
  ∃ g ∈ groups, slot = 2 * g.1 ∨ slot = 2 * g.1 + 1

theorem SlotOf.of_subset {groups groups' : List (Nat × Option String)} {slot : Nat}
    (h : SlotOf groups slot) (hsubset : groups ⊆ groups') : SlotOf groups' slot := by
  obtain ⟨g, hg, hslot⟩ := h
  exact ⟨g, hsubset hg, hslot⟩

/-- The instructions of a node note positions for its groups only. -/
theorem Node.slotOf_of_save_mem_code {n : Node} {start next slot goOn : Nat}
    (h : Instruction.save slot goOn ∈ n.code start next) : SlotOf n.groups slot := by
  induction n generalizing start next with
  | empty | chars | look => simp [code] at h
  | capture index name n ih =>
    simp only [code, List.mem_cons, List.mem_append, Instruction.save.injEq, List.not_mem_nil,
      or_false] at h
    rcases h with ⟨rfl, -⟩ | h | ⟨rfl, -⟩
    · exact ⟨_, List.mem_cons_self, .inl rfl⟩
    · exact (ih h).of_subset (List.subset_cons_self _ _)
    · exact ⟨_, List.mem_cons_self, .inr rfl⟩
  | seq n m ihn ihm =>
    rcases List.mem_append.mp h with h | h
    · exact (ihn h).of_subset (List.subset_append_left _ _)
    · exact (ihm h).of_subset (List.subset_append_right _ _)
  | alt n m ihn ihm =>
    simp only [code, List.mem_cons, List.mem_append, reduceCtorEq, false_or] at h
    rcases h with h | h
    · exact (ihn h).of_subset (List.subset_append_left _ _)
    · exact (ihm h).of_subset (List.subset_append_right _ _)
  | repetition q n ih =>
    obtain ⟨program, hp⟩ := exists_holds start ((repetition q n).code start next)
    obtain ⟨_, _, -, h⟩ := exists_holds_of_save_mem_repetition hp h
    exact ih h

/-- What notes a position in the program of a node is in its code. -/
theorem Node.save_mem_code {n : Node} {pc slot goOn : Nat}
    (h : n.program.toArray[pc]? = some (.save slot goOn)) :
    Instruction.save slot goOn ∈ n.code 0 n.size := by
  rw [List.getElem?_toArray] at h
  simpa [program] using List.mem_of_getElem? h

variable {text : Array Char} {n : Node}

/-- Where no group has the index zero, a thread keeps the position that it started from. -/
theorem slot?_zero_of_run (hn : ∀ g ∈ n.groups, 1 ≤ g.1) {pos k : Nat} {v : Thread}
    (h : Run n.program.toArray text k (.startingAt pos) v) : v.slot? 0 = some pos := by
  refine h.invariant (P := fun t => t.slot? 0 = some pos) (fun i t u hi hu ht => ?_) rfl
  rcases Thread.slot?_of_mem_advance hu 0 with hkept | ⟨rfl, -⟩
  · exact hkept.trans ht
  · obtain ⟨g, hg, hslot⟩ := Node.slotOf_of_save_mem_code (Node.save_mem_code hi)
    have hindex : 1 ≤ g.1 := hn g hg
    omega

/-- The positions that a thread noted lie between where it started and where it stands. -/
theorem noted_of_run {pos k : Nat} {v : Thread}
    (h : Run n.program.toArray text k (.startingAt pos) v) :
    ∀ slot p, v.slot? slot = some p → pos ≤ p ∧ p ≤ v.pos := by
  let Noted (t : Thread) : Prop :=
    pos ≤ t.pos ∧ ∀ slot p, t.slot? slot = some p → pos ≤ p ∧ p ≤ t.pos
  have hstart : Noted (.startingAt pos) := by
    refine ⟨Nat.le_refl _, fun slot p hp => ?_⟩
    rw [Thread.slot?, Thread.startingAt, List.lookup_cons] at hp
    split at hp
    · obtain rfl := Option.some.inj hp
      exact ⟨Nat.le_refl _, Nat.le_refl _⟩
    · cases hp
  refine (h.invariant (P := Noted) (fun i t u _ hu ht => ?_) hstart).2
  obtain ⟨hpos, hnoted⟩ := ht
  have hle := (Instruction.pos_le_of_mem_advance hu).1
  refine ⟨Nat.le_trans hpos hle, fun slot p hp => ?_⟩
  rcases Thread.slot?_of_mem_advance hu slot with hkept | ⟨-, hnew⟩
  · obtain ⟨hbegin, hend⟩ := hnoted slot p (hkept ▸ hp)
    exact ⟨hbegin, Nat.le_trans hend hle⟩
  · obtain rfl := Option.some.inj (hnew.symm.trans hp)
    exact ⟨hpos, hle⟩

/-- The bounds of a group are what was noted last in its slots. -/
theorem Thread.slots_of_span? {v : Thread} {i : Nat} {span : Span} (h : v.span? i = some span) :
    v.slot? (2 * i) = some span.start ∧ v.slot? (2 * i + 1) = some span.stop := by
  rw [Thread.span?] at h
  split at h
  · next start stop hstart hstop =>
    split at h
    · obtain rfl := Option.some.inj h
      exact ⟨hstart, hstop⟩
    · cases h
  · cases h

/-! ## One match -/

/-- The groups that take part in a match lie in it. -/
def Match.Encloses (m : Match) : Prop :=
  ∀ i span, m.group? i = some span → m.whole.start ≤ span.start ∧ span.stop ≤ m.whole.stop

/-- The groups of a match are those that the thread noted, and the match itself. -/
theorem group?_of_match? {v : Thread} {m : Match} (hm : v.match? = some m) (i : Nat) :
    m.group? i = if i = 0 then some m.whole else v.span? i := by
  rw [Thread.match?] at hm
  split at hm
  · split at hm
    · obtain rfl := Option.some.inj hm
      rfl
    · cases hm
  · cases hm

/-- What a thread tells of its groups lies between the positions that it noted. -/
theorem encloses_of_match? {v : Thread} {m : Match} (hm : v.match? = some m)
    (h : ∀ slot p, v.slot? slot = some p → m.whole.start ≤ p ∧ p ≤ m.whole.stop) :
    m.Encloses := by
  intro i span hspan
  rw [group?_of_match? hm] at hspan
  split at hspan
  · obtain rfl := Option.some.inj hspan
    exact ⟨Nat.le_refl _, Nat.le_refl _⟩
  · obtain ⟨hstart, hstop⟩ := Thread.slots_of_span? hspan
    exact ⟨(h _ _ hstart).1, (h _ _ hstop).2⟩

/-- The match is of a stretch that the node covers, starting at the position `start` or behind it,
and the node covers no stretch that starts there or behind it and before the match. -/
structure Node.Finds (n : Node) (text : Array Char) (start : Nat) (m : Match) : Prop where
  start_le : start ≤ m.whole.start
  stop_le : m.whole.stop ≤ text.size
  covers : n.Covers text m.whole.start m.whole.stop
  leftmost : ∀ i j, start ≤ i → i < m.whole.start → ¬ n.Covers text i j
  encloses : m.Encloses

/-- A match that is found is of the first stretch that the node covers. -/
theorem finds_of_matchFrom (hn : ∀ g ∈ n.groups, 1 ≤ g.1) {start : Nat} {m : Match}
    (h : (ofNode n).matchFrom text start = some m) : n.Finds text start m := by
  obtain ⟨v, hsearch, hmatch⟩ := Option.bind_eq_some_iff.mp h
  obtain ⟨hv, pos, k, hpos, hsize, hrun, hbefore⟩ := run_of_search_eq_some hsearch
  have hcov : n.Covers text pos v.pos := covers_of_run rfl hrun hv
  have hwhole : m.whole.start = pos ∧ m.whole.stop = v.pos := by
    rw [Thread.match?, slot?_zero_of_run hn hrun] at hmatch
    simp only at hmatch
    split at hmatch
    · obtain rfl := Option.some.inj hmatch
      exact ⟨rfl, rfl⟩
    · cases hmatch
  obtain ⟨hstart, hstop⟩ := hwhole
  refine ⟨hstart ▸ hpos, hstop ▸ Node.le_size_of_covers hcov hsize, ?_,
    fun i j hi hlt hij => ?_, encloses_of_match? hmatch ?_⟩
  · rw [hstart, hstop]
    exact hcov
  · obtain ⟨k', u, hrun', hu⟩ := (run_program_iff n (.startingAt i) rfl).mpr ⟨j, hij⟩
    exact hbefore i k' u hi (hstart ▸ hlt) hrun' hu
  · rw [hstart, hstop]
    exact noted_of_run hrun

/-- Nothing is found exactly if the node covers no stretch from there on. -/
theorem matchFrom_eq_none_iff {start : Nat} :
    (ofNode n).matchFrom text start = none ↔
      ∀ i j, start ≤ i → i ≤ text.size → ¬ n.Covers text i j := by
  rw [← Option.not_isSome_iff_eq_none, matchFrom_isSome_iff]
  push Not
  rfl

/-! ## All matches -/

/-- The match behind one that ends at the position `last`, or the first one. It is the next that is
found, but an empty one right behind another one does not count; instead of it the next is taken
that is found one character further. -/
def matchBehind (r : Regex) (text : Array Char) : Option Nat → Option Match
  | none => r.firstMatch text
  | some last =>
    match r.matchFrom text last with
    | none => none
    | some m =>
      if m.whole.isEmpty = true ∧ m.whole.stop = last then r.matchFrom text (last + 1) else some m

/-- The matches behind one that ends at the position `last`, or all of them, one behind another
until there is none left. -/
inductive Successive (r : Regex) (text : Array Char) : Option Nat → List Match → Prop where
  | done {last : Option Nat} : matchBehind r text last = none → Successive r text last []
  | next {last : Option Nat} {m : Match} {ms : List Match} : matchBehind r text last = some m →
      Successive r text (some m.whole.stop) ms → Successive r text last (m :: ms)

/-- The match starts behind a position, or right there if it is not empty. -/
def Match.Behind (m : Match) (last : Nat) : Prop :=
  last ≤ m.whole.start ∧ (m.whole.isEmpty = true → last < m.whole.start)

namespace Match.Behind

variable {m : Match} {last : Nat}

theorem of_lt (h : last < m.whole.start) : m.Behind last := ⟨Nat.le_of_lt h, fun _ => h⟩

theorem of_le (h : m.Behind last) {l : Nat} (hle : l ≤ last) : m.Behind l :=
  ⟨Nat.le_trans hle h.1, fun hempty => Nat.lt_of_le_of_lt hle (h.2 hempty)⟩

theorem isEmpty_iff (m : Match) : m.whole.isEmpty = true ↔ m.whole.start = m.whole.stop := by
  simp [Span.isEmpty]

/-- A match behind a position ends further on. -/
theorem lt_stop (h : m.Behind last) : last < m.whole.stop := by
  obtain ⟨hle, hlt⟩ := h
  have hspan := m.whole.start_le_stop
  rw [isEmpty_iff] at hlt
  omega

end Match.Behind

/-- The match is of a stretch that the node covers, behind the position `last` if there is one, and
the node covers no stretch that starts between. -/
structure Node.FindsBehind (n : Node) (text : Array Char) (last : Option Nat) (m : Match) :
    Prop where
  behind : ∀ l ∈ last, m.Behind l
  stop_le : m.whole.stop ≤ text.size
  covers : n.Covers text m.whole.start m.whole.stop
  leftmost : ∀ i j, (∀ l ∈ last, l < i) → i < m.whole.start → ¬ n.Covers text i j
  encloses : m.Encloses

theorem findsBehind_of_matchBehind (hn : ∀ g ∈ n.groups, 1 ≤ g.1) {last : Option Nat} {m : Match}
    (h : matchBehind (ofNode n) text last = some m) : n.FindsBehind text last m := by
  cases last with
  | none =>
    have hfinds := finds_of_matchFrom hn h
    exact ⟨by simp, hfinds.stop_le, hfinds.covers,
      fun i j _ hlt => hfinds.leftmost i j (Nat.zero_le i) hlt, hfinds.encloses⟩
  | some last =>
    simp only [matchBehind] at h
    split at h
    · cases h
    · next found hfound =>
      split at h
      · have hfinds := finds_of_matchFrom hn h
        have hbehind : m.Behind last := .of_lt hfinds.start_le
        exact ⟨by simpa using hbehind, hfinds.stop_le, hfinds.covers,
          fun i j hi hlt => hfinds.leftmost i j (hi last rfl) hlt, hfinds.encloses⟩
      · next hcounts =>
        obtain rfl := Option.some.inj h
        have hfinds := finds_of_matchFrom hn hfound
        have hle := hfinds.start_le
        have hbehind : found.Behind last := by
          refine ⟨hle, fun hempty => ?_⟩
          have hstop := (Match.Behind.isEmpty_iff found).mp hempty
          have hne : found.whole.stop ≠ last := fun heq => hcounts ⟨hempty, heq⟩
          omega
        exact ⟨by simpa using hbehind, hfinds.stop_le, hfinds.covers,
          fun i j hi hlt => hfinds.leftmost i j (Nat.le_of_lt (hi last rfl)) hlt, hfinds.encloses⟩

theorem not_covers_of_matchBehind_eq_none {last : Option Nat}
    (h : matchBehind (ofNode n) text last = none) {i j : Nat} (hi : ∀ l ∈ last, l < i)
    (hsize : i ≤ text.size) : ¬ n.Covers text i j := by
  cases last with
  | none => exact matchFrom_eq_none_iff.mp h i j (Nat.zero_le i) hsize
  | some last =>
    have hlt : last < i := hi last rfl
    simp only [matchBehind] at h
    split at h
    · next hnone => exact matchFrom_eq_none_iff.mp hnone i j (Nat.le_of_lt hlt) hsize
    · split at h
      · exact matchFrom_eq_none_iff.mp h i j hlt hsize
      · cases h

/-- Matches of stretches that the node covers. They lie one behind another, none of them is empty
right behind another one, and every stretch that the node covers starts in one of them or where one
of them ends. -/
structure Node.Apart (n : Node) (text : Array Char) (ms : List Match) : Prop where
  covers : ∀ m ∈ ms, n.Covers text m.whole.start m.whole.stop
  stop_le : ∀ m ∈ ms, m.whole.stop ≤ text.size
  encloses : ∀ m ∈ ms, m.Encloses
  follow : ms.Pairwise fun m m' => m'.Behind m.whole.stop
  complete : ∀ i j, i ≤ text.size → n.Covers text i j →
    ∃ m ∈ ms, m.whole.start ≤ i ∧ i ≤ m.whole.stop

namespace Successive

variable {last : Option Nat} {ms : List Match}

theorem covers_and_behind (hn : ∀ g ∈ n.groups, 1 ≤ g.1)
    (h : Successive (ofNode n) text last ms) {m : Match} (hm : m ∈ ms) :
    n.Covers text m.whole.start m.whole.stop ∧ m.whole.stop ≤ text.size ∧ m.Encloses ∧
      ∀ l ∈ last, m.Behind l := by
  induction h with
  | done => cases hm
  | @next last first ms hfirst _ ih =>
    have hfinds := findsBehind_of_matchBehind hn hfirst
    rcases List.mem_cons.mp hm with rfl | hm
    · exact ⟨hfinds.covers, hfinds.stop_le, hfinds.encloses, hfinds.behind⟩
    · obtain ⟨hcovers, hstop, hencloses, hbehind⟩ := ih hm
      refine ⟨hcovers, hstop, hencloses, fun l hl => ?_⟩
      have hlt : l < first.whole.stop := (hfinds.behind l hl).lt_stop
      exact (hbehind _ rfl).of_le (Nat.le_of_lt hlt)

theorem pairwise_behind (hn : ∀ g ∈ n.groups, 1 ≤ g.1)
    (h : Successive (ofNode n) text last ms) :
    ms.Pairwise fun m m' => m'.Behind m.whole.stop := by
  induction h with
  | done => exact .nil
  | next _ hrest ih =>
    exact .cons (fun m' hm' => (hrest.covers_and_behind hn hm').2.2.2 _ rfl) ih

/-- No stretch is passed over. -/
theorem exists_of_covers (hn : ∀ g ∈ n.groups, 1 ≤ g.1) (h : Successive (ofNode n) text last ms)
    {i j : Nat} (hi : ∀ l ∈ last, l < i) (hsize : i ≤ text.size) (hij : n.Covers text i j) :
    ∃ m ∈ ms, m.whole.start ≤ i ∧ i ≤ m.whole.stop := by
  induction h with
  | done hnone => exact absurd hij (not_covers_of_matchBehind_eq_none hnone hi hsize)
  | @next last m ms hm _ ih =>
    have hfinds := findsBehind_of_matchBehind hn hm
    by_cases hstart : i < m.whole.start
    · exact absurd hij (hfinds.leftmost i j hi hstart)
    by_cases hstop : i ≤ m.whole.stop
    · exact ⟨m, List.mem_cons_self, Nat.not_lt.mp hstart, hstop⟩
    · obtain ⟨m', hm', hin⟩ := ih (by simpa using hstop)
      exact ⟨m', List.mem_cons_of_mem _ hm', hin⟩

/-- All matches of a text lie apart, and nothing between them could have been matched. -/
theorem apart (hn : ∀ g ∈ n.groups, 1 ≤ g.1) (h : Successive (ofNode n) text none ms) :
    n.Apart text ms where
  covers := fun _ hm => (h.covers_and_behind hn hm).1
  stop_le := fun _ hm => (h.covers_and_behind hn hm).2.1
  encloses := fun _ hm => (h.covers_and_behind hn hm).2.2.1
  follow := h.pairwise_behind hn
  complete := fun _ _ hsize hij => h.exists_of_covers hn (by simp) hsize hij

end Successive

/-! ## The end of the search -/

/-- The next match is searched for as `matchBehind` says. -/
theorem matchesFrom_succ (fuel : Nat) (last : Option Nat) :
    (ofNode n).matchesFrom text (fuel + 1) (last.getD 0) last =
      match matchBehind (ofNode n) text last with
      | none => []
      | some m => m :: (ofNode n).matchesFrom text fuel m.whole.stop (some m.whole.stop) := by
  have hbeyond {last : Nat} (h : ¬ last < text.size) :
      (ofNode n).matchFrom text (last + 1) = none := by
    refine matchFrom_eq_none_iff.mpr fun i j hi hsize => ?_
    omega
  rw [matchesFrom]
  cases last with
  | none =>
    simp only [Option.getD_none, matchBehind, firstMatch]
    cases (ofNode n).matchFrom text 0 <;> simp
  | some last =>
    simp only [Option.getD_some, matchBehind]
    cases (ofNode n).matchFrom text last with
    | none => rfl
    | some m =>
      have hiff : (m.whole.isEmpty && decide (some last = some m.whole.stop)) = true ↔
          m.whole.isEmpty = true ∧ m.whole.stop = last := by
        rw [Bool.and_eq_true, decide_eq_true_eq, Option.some.injEq, eq_comm (a := last)]
      by_cases hpassed : m.whole.isEmpty = true ∧ m.whole.stop = last
      · by_cases hsize : last < text.size
        · cases (ofNode n).matchFrom text (last + 1) <;>
            simp only [if_pos (hiff.mpr hpassed), if_pos hpassed, if_pos hsize]
        · simp only [if_pos (hiff.mpr hpassed), if_pos hpassed, if_neg hsize, hbeyond hsize]
      · simp only [if_neg (mt hiff.mp hpassed), if_neg hpassed]

/-- How many matches there is room for behind a position. -/
def room (text : Array Char) : Option Nat → Nat
  | none => text.size + 1
  | some last => text.size - last

theorem successive_matchesFrom (hn : ∀ g ∈ n.groups, 1 ≤ g.1) {fuel : Nat} {last : Option Nat}
    (hfuel : room text last < fuel) :
    Successive (ofNode n) text last
      ((ofNode n).matchesFrom text fuel (last.getD 0) last) := by
  induction fuel generalizing last with
  | zero => cases hfuel
  | succ fuel ih =>
    rw [matchesFrom_succ]
    cases hm : matchBehind (ofNode n) text last with
    | none => exact .done hm
    | some m =>
      -- the next match ends further on, so there is room for one match less behind it
      have hfinds := findsBehind_of_matchBehind hn hm
      have hstop := hfinds.stop_le
      have hroom : room text (some m.whole.stop) < room text last := by
        cases last with
        | none =>
          simp only [room]
          omega
        | some last =>
          have hlt : last < m.whole.stop := (hfinds.behind last rfl).lt_stop
          simp only [room]
          omega
      exact .next hm (ih (by omega))

/-- All matches are found. -/
theorem successive_allMatches (hn : ∀ g ∈ n.groups, 1 ≤ g.1) (text : Array Char) :
    Successive (ofNode n) text none ((ofNode n).allMatches text) :=
  successive_matchesFrom hn (Nat.lt_succ_self _)

end Telemetry.Regex
