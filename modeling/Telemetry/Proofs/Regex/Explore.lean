import Mathlib.Data.Finset.Prod
import Mathlib.Order.Interval.Finset.Nat
import Telemetry.Proofs.Regex.Run
import Telemetry.Regex.Basic

/-!
# What a search finds

A search drops threads that come where another one has been, and stops after a number of steps that
is fixed before it starts. Neither loses a match: a search finds one exactly if a run from one of
the starts is accepted (`search_isSome_iff`), and what it finds comes from the first of these starts
(`run_of_search_eq_some`). A search for all acceptances comes to each address where such a run is
accepted (`mem_acceptances_iff`). So a pattern matches a text exactly if its node covers a stretch
of it (`isMatch_ofNode_iff`).
-/

namespace Telemetry.Regex

variable {program : Array Instruction} {text : Array Char}

/-! ## One step -/

/-- An instruction makes at most two threads of one. -/
theorem Instruction.length_advance_le (i : Instruction) (text : Array Char) (t : Thread) :
    (i.advance text t).length ≤ 2 := by
  cases i <;> simp only [advance]
  case chars => split <;> [split; skip] <;> simp
  case look => split <;> simp
  all_goals simp

/-- What an instruction does to a thread: it may pass a character, and it may note the position. -/
theorem Instruction.mem_advance {i : Instruction} {t u : Thread} (h : u ∈ i.advance text t) :
    (u.pos = t.pos ∨ (u.pos = t.pos + 1 ∧ t.pos < text.size)) ∧
      (u.slots = t.slots ∨
        ∃ slot next, i = .save slot next ∧ u.slots = (slot, t.pos) :: t.slots) := by
  cases i <;> simp only [advance] at h
  case chars =>
    split at h
    · next c hc =>
      have hlt := (Array.getElem?_eq_some_iff.mp hc).1
      split at h
      · obtain rfl := List.mem_singleton.mp h
        exact ⟨.inr ⟨rfl, hlt⟩, .inl rfl⟩
      · simp at h
    · simp at h
  case look =>
    split at h
    · obtain rfl := List.mem_singleton.mp h
      exact ⟨.inl rfl, .inl rfl⟩
    · simp at h
  case split =>
    rcases List.mem_pair.mp h with rfl | rfl
    · exact ⟨.inl rfl, .inl rfl⟩
    · exact ⟨.inl rfl, .inl rfl⟩
  case jump =>
    obtain rfl := List.mem_singleton.mp h
    exact ⟨.inl rfl, .inl rfl⟩
  case save slot next =>
    obtain rfl := List.mem_singleton.mp h
    exact ⟨.inl rfl, .inr ⟨slot, next, rfl, rfl⟩⟩
  case accept => simp at h

/-- A slot keeps what was noted in it, unless the instruction notes the position there. -/
theorem Thread.slot?_of_mem_advance {i : Instruction} {t u : Thread} (h : u ∈ i.advance text t)
    (slot : Nat) :
    u.slot? slot = t.slot? slot ∨ (i = .save slot u.pc ∧ u.slot? slot = some t.pos) := by
  cases i with
  | save saved next =>
    obtain rfl := List.mem_singleton.mp h
    by_cases hslot : slot = saved
    · subst hslot
      exact .inr ⟨rfl, by simp [slot?]⟩
    · exact .inl (by simp [slot?, List.lookup_cons, beq_false_of_ne hslot])
  | _ =>
    rcases (Instruction.mem_advance h).2 with hslots | ⟨_, _, heq, -⟩
    · exact .inl (by rw [slot?, hslots, slot?])
    · cases heq

/-- No instruction moves a thread back or out of the text. -/
theorem Instruction.pos_le_of_mem_advance {i : Instruction} {t u : Thread}
    (h : u ∈ i.advance text t) :
    t.pos ≤ u.pos ∧ (t.pos ≤ text.size → u.pos ≤ text.size) := by
  have := (mem_advance h).1
  omega

/-- Where the threads go that an instruction makes does not depend on what a thread noted. -/
theorem Instruction.exists_mem_advance {i : Instruction} {t t' u : Thread}
    (hpc : t.pc = t'.pc) (hpos : t.pos = t'.pos) (h : u ∈ i.advance text t) :
    ∃ u' ∈ i.advance text t', u'.pc = u.pc ∧ u'.pos = u.pos := by
  obtain ⟨pc, pos, slots⟩ := t
  obtain ⟨pc', pos', slots'⟩ := t'
  simp only at hpc hpos
  subst hpc hpos
  cases i <;> simp only [advance] at h ⊢
  case chars =>
    split at h
    · next c hc =>
      split at h
      · next hs =>
        obtain rfl := List.mem_singleton.mp h
        simp [hs]
      · simp at h
    · simp at h
  case look =>
    split at h
    · next hl =>
      obtain rfl := List.mem_singleton.mp h
      simp [hl]
    · simp at h
  case split =>
    rcases List.mem_pair.mp h with rfl | rfl <;> simp
  case accept => simp at h
  all_goals
    obtain rfl := List.mem_singleton.mp h
    simp

/-! ## Marks -/

namespace Visited

/-- The number of pairs up to the position `last` that have no mark. -/
def unseen (v : Visited) (last : Nat) : Nat :=
  ((Finset.range v.addresses ×ˢ Finset.Icc v.first last).filter
    fun p => v.contains p.1 p.2 = false).card

/-- To mark a pair that has no mark leaves one pair less without. -/
theorem unseen_insert_lt {v : Visited} {last pc pos : Nat} (hpc : pc < v.addresses)
    (hfirst : v.first ≤ pos) (hlast : pos ≤ last) (h : v.contains pc pos = false) :
    (v.insert pc pos).unseen last < v.unseen last := by
  refine Finset.card_lt_card (Finset.ssubset_iff_of_subset ?_ |>.mpr ⟨(pc, pos), ?_, ?_⟩)
  · intro p hp
    simp only [Finset.mem_filter, contains_insert, Bool.or_eq_false_iff] at hp ⊢
    exact ⟨hp.1, hp.2.2⟩
  · simp [hpc, hfirst, hlast, h]
  · simp [contains_insert]

theorem unseen_le (v : Visited) (last : Nat) : v.unseen last ≤ v.addresses * (last + 1) := by
  calc v.unseen last
      ≤ (Finset.range v.addresses ×ˢ Finset.Icc v.first last).card := Finset.card_filter_le _ _
    _ = v.addresses * (last + 1 - v.first) := by simp
    _ ≤ v.addresses * (last + 1) := Nat.mul_le_mul_left _ (Nat.sub_le _ _)

/-- A thread that need not be looked at: one has been there, or there is no instruction. -/
def Covered (v : Visited) (program : Array Instruction) (t : Thread) : Prop :=
  v.contains t.pc t.pos = true ∨ program[t.pc]? = none

theorem Covered.insert {v : Visited} {t : Thread} (h : v.Covered program t) (pc pos : Nat) :
    (v.insert pc pos).Covered program t :=
  h.imp (fun h => by simp [contains_insert, h]) id

end Visited

/-- What a search knows while it runs: where a marked thread was accepted, its address has been
found, and where a marked thread goes on there is a mark or a thread on the stack. -/
structure Searching (program : Array Instruction) (text : Array Char) (found : List Nat)
    (visited : Visited) (start : Nat) (stack : List Thread) : Prop where
  addresses : visited.addresses = program.size
  first_le : visited.first ≤ start
  stack_mem : ∀ t ∈ stack, visited.first ≤ t.pos ∧ t.pos ≤ text.size
  noted : ∀ t : Thread, visited.first ≤ t.pos → visited.contains t.pc t.pos = true →
    t.Accepted program → t.pc ∈ found
  followed : ∀ (t u : Thread) (i : Instruction), visited.first ≤ t.pos →
    visited.contains t.pc t.pos = true → program[t.pc]? = some i → u ∈ i.advance text t →
    visited.Covered program u ∨ ∃ w ∈ stack, w.pc = u.pc ∧ w.pos = u.pos

namespace Searching

variable {found : List Nat} {visited : Visited} {start : Nat} {t : Thread} {rest : List Thread}

theorem initial (program : Array Instruction) (text : Array Char) (start : Nat) :
    Searching program text [] (.empty program.size start) start [] where
  addresses := rfl
  first_le := Nat.le_refl start
  stack_mem := by simp
  noted := by simp
  followed := by simp

/-- The next start is put on the stack. -/
theorem push (h : Searching program text found visited start []) (hle : start ≤ text.size) :
    Searching program text found visited (start + 1) [.startingAt start] where
  addresses := h.addresses
  first_le := Nat.le_succ_of_le h.first_le
  stack_mem := fun t ht => by
    obtain rfl := List.mem_singleton.mp ht
    exact ⟨h.first_le, hle⟩
  noted := h.noted
  followed := fun t u i hpos ht hi hu => by
    rcases h.followed t u i hpos ht hi hu with hseen | ⟨w, hw, _⟩
    · exact .inl hseen
    · simp at hw

/-- A thread that need not be looked at is taken from the stack. -/
theorem pop (h : Searching program text found visited start (t :: rest))
    (ht : visited.Covered program t) : Searching program text found visited start rest where
  addresses := h.addresses
  first_le := h.first_le
  stack_mem := fun u hu => h.stack_mem u (.tail t hu)
  noted := h.noted
  followed := fun t' u i hpos ht' hi hu => by
    rcases h.followed t' u i hpos ht' hi hu with hseen | ⟨w, hw, hpc, hpos'⟩
    · exact .inl hseen
    · rcases List.mem_cons.mp hw with rfl | hw
      · rw [Visited.Covered, hpc, hpos'] at ht
        exact .inl ht
      · exact .inr ⟨w, hw, hpc, hpos'⟩

/-- A mark belongs to the pair just marked or was there before. -/
theorem eq_or_contains (h : Searching program text found visited start (t :: rest))
    {i : Instruction} (hi : program[t.pc]? = some i) {t' : Thread} {i' : Instruction}
    (hi' : program[t'.pc]? = some i') (hpos : visited.first ≤ t'.pos)
    (hc : (visited.insert t.pc t.pos).contains t'.pc t'.pos = true) :
    (t.pc = t'.pc ∧ t.pos = t'.pos) ∨ visited.contains t'.pc t'.pos = true := by
  rw [Visited.contains_insert, Bool.or_eq_true, decide_eq_true_iff, visited.index_inj
    (h.addresses ▸ (Array.getElem?_eq_some_iff.mp hi).1)
    (h.addresses ▸ (Array.getElem?_eq_some_iff.mp hi').1)
    (h.stack_mem t (.head rest)).1 hpos] at hc
  exact hc

/-- A thread is marked, and replaced by those that its instruction makes of it. If it is accepted,
its address is found. -/
theorem visit (h : Searching program text found visited start (t :: rest)) {i : Instruction}
    (hi : program[t.pc]? = some i) {found' : List Nat} (hsubset : found ⊆ found')
    (haccept : i = .accept → t.pc ∈ found') :
    Searching program text found' (visited.insert t.pc t.pos) start
      (i.advance text t ++ rest) where
  addresses := h.addresses
  first_le := h.first_le
  stack_mem := fun u hu => by
    have ⟨hfirst, hsize⟩ := h.stack_mem t (.head rest)
    rcases List.mem_append.mp hu with hu | hu
    · have ⟨hle, hin⟩ := Instruction.pos_le_of_mem_advance hu
      exact ⟨Nat.le_trans hfirst hle, hin hsize⟩
    · exact h.stack_mem u (.tail t hu)
  noted := fun t' hpos hc hacc => by
    rcases h.eq_or_contains hi hacc hpos hc with ⟨hpc, -⟩ | hc
    · rw [Thread.Accepted, ← hpc, hi] at hacc
      exact hpc ▸ haccept (Option.some.inj hacc)
    · exact hsubset (h.noted t' hpos hc hacc)
  followed := fun t' u i' hpos hc hi' hu => by
    rcases h.eq_or_contains hi hi' hpos hc with ⟨hpc, hpos'⟩ | hc
    · obtain rfl : i = i' := Option.some.inj (hi.symm.trans (hpc ▸ hi'))
      obtain ⟨w, hw, hsame⟩ := Instruction.exists_mem_advance hpc.symm hpos'.symm hu
      exact .inr ⟨w, List.mem_append_left rest hw, hsame⟩
    · rcases h.followed t' u i' hpos hc hi' hu with hseen | ⟨w, hw, hpc, hpos'⟩
      · exact .inl (hseen.insert _ _)
      · rcases List.mem_cons.mp hw with rfl | hw
        · exact .inl (.inl (by simp [Visited.contains_insert, hpc, hpos']))
        · exact .inr ⟨w, List.mem_append_right _ hw, hpc, hpos'⟩

/-- When the stack is empty, all addresses have been found where threads with a mark are accepted
in the end. -/
theorem mem_of_run (h : Searching program text found visited start []) {k : Nat} {v : Thread}
    (ht : visited.Covered program t) (hpos : visited.first ≤ t.pos)
    (hrun : Run program text k t v) (hv : v.Accepted program) : v.pc ∈ found := by
  induction hrun with
  | stay t =>
    rcases ht with ht | ht
    · exact h.noted t hpos ht hv
    · simp [Thread.Accepted, ht] at hv
  | @step k t u v i hi hu _ ih =>
    rcases ht with ht | ht
    · rcases h.followed t u i hpos ht hi hu with hseen | ⟨w, hw, _⟩
      · exact ih hseen (Nat.le_trans hpos (Instruction.pos_le_of_mem_advance hu).1) hv
      · simp at hw
    · simp [ht] at hi

end Searching

/-- Marks that a search comes to: they cover what earlier marks did, the whole stack and the starts
before `stop`. No thread is left on the stack. -/
structure Closes (program : Array Instruction) (text : Array Char) (found : List Nat)
    (closed visited : Visited) (start stop : Nat) (stack : List Thread) : Prop where
  searching : ∃ last, Searching program text found closed last []
  first_eq : closed.first = visited.first
  mono : ∀ t, visited.Covered program t → closed.Covered program t
  stack : ∀ t ∈ stack, closed.Covered program t
  starts : ∀ pos, start ≤ pos → pos < stop → closed.Covered program (.startingAt pos)

namespace Closes

variable {found : List Nat} {closed visited : Visited} {start stop : Nat} {t : Thread}
  {rest : List Thread}

/-- Where the stack is empty, a search has come to the marks that it has. -/
theorem of_searching (h : Searching program text found visited start []) (hle : stop ≤ start) :
    Closes program text found visited visited start stop [] where
  searching := ⟨start, h⟩
  first_eq := rfl
  mono := fun _ => id
  stack := by simp
  starts := fun _ hpos hstop => absurd (Nat.lt_of_lt_of_le hstop hle) (Nat.not_lt.mpr hpos)

theorem of_push
    (h : Closes program text found closed visited (start + 1) stop [.startingAt start]) :
    Closes program text found closed visited start stop [] where
  searching := h.searching
  first_eq := h.first_eq
  mono := h.mono
  stack := by simp
  starts := fun pos hpos hstop => by
    rcases Nat.eq_or_lt_of_le hpos with rfl | hlt
    · exact h.stack _ (List.mem_singleton_self _)
    · exact h.starts pos hlt hstop

theorem of_pop (h : Closes program text found closed visited start stop rest)
    (ht : visited.Covered program t) :
    Closes program text found closed visited start stop (t :: rest) where
  searching := h.searching
  first_eq := h.first_eq
  mono := h.mono
  stack := List.forall_mem_cons.mpr ⟨h.mono t ht, h.stack⟩
  starts := h.starts

theorem of_visit {made : List Thread}
    (h : Closes program text found closed (visited.insert t.pc t.pos) start stop (made ++ rest)) :
    Closes program text found closed visited start stop (t :: rest) where
  searching := h.searching
  first_eq := h.first_eq
  mono := fun u hu => h.mono u (hu.insert _ _)
  stack := by
    refine List.forall_mem_cons.mpr ⟨h.mono t (.inl ?_), fun u hu => ?_⟩
    · simp [Visited.contains_insert]
    · exact h.stack u (List.mem_append_right _ hu)
  starts := h.starts

/-- The addresses have been found where threads from the starts that are covered are accepted. -/
theorem mem_of_run (h : Closes program text found closed visited start stop [])
    (hfirst : visited.first = start) {pos k : Nat} {v : Thread} (hpos : start ≤ pos)
    (hstop : pos < stop) (hrun : Run program text k (.startingAt pos) v)
    (hv : v.Accepted program) : v.pc ∈ found := by
  obtain ⟨last, hsearching⟩ := h.searching
  exact hsearching.mem_of_run (h.starts pos hpos hstop) (h.first_eq ▸ hfirst.symm ▸ hpos) hrun hv

end Closes

/-! ## What is found is reached -/

/-- Where a thread that a search finds comes from: a thread on the stack, or a later start. In the
second case all that comes before that start has been looked at in vain. -/
inductive Found (program : Array Instruction) (text : Array Char) (visited : Visited) (start : Nat)
    (stack : List Thread) (v : Thread) : Prop where
  | stack {t : Thread} {k : Nat} : t ∈ stack → Run program text k t v →
      Found program text visited start stack v
  | start {pos k : Nat} {closed : Visited} : start ≤ pos → pos ≤ text.size →
      Run program text k (.startingAt pos) v →
      Closes program text [] closed visited start pos stack →
      Found program text visited start stack v

namespace Found

variable {visited : Visited} {start : Nat} {t v : Thread} {rest : List Thread}

/-- The next start is put on the stack. -/
theorem of_push (h : Found program text visited (start + 1) [.startingAt start] v)
    (hs : Searching program text [] visited start []) (hle : start ≤ text.size) :
    Found program text visited start [] v := by
  cases h with
  | stack ht hrun =>
    obtain rfl := List.mem_singleton.mp ht
    exact .start (Nat.le_refl start) hle hrun (.of_searching hs (Nat.le_refl start))
  | start hpos hsize hrun hcloses =>
    exact .start (Nat.le_of_succ_le hpos) hsize hrun hcloses.of_push

/-- A thread that need not be looked at is taken from the stack. -/
theorem of_pop (h : Found program text visited start rest v) (ht : visited.Covered program t) :
    Found program text visited start (t :: rest) v := by
  cases h with
  | stack hu hrun => exact .stack (.tail t hu) hrun
  | start hpos hsize hrun hcloses => exact .start hpos hsize hrun (hcloses.of_pop ht)

/-- What the instruction of a thread makes of it comes from the thread. -/
theorem of_visit {i : Instruction} (hi : program[t.pc]? = some i)
    (h : Found program text (visited.insert t.pc t.pos) start (i.advance text t ++ rest) v) :
    Found program text visited start (t :: rest) v := by
  cases h with
  | stack hu hrun =>
    rcases List.mem_append.mp hu with hu | hu
    · exact .stack (.head rest) (.step hi hu hrun)
    · exact .stack (.tail t hu) hrun
  | start hpos hsize hrun hcloses => exact .start hpos hsize hrun hcloses.of_visit

end Found

/-- A thread that a search finds is accepted, and comes from the first thread that could run to
acceptance. -/
theorem found_of_explore_eq_some {fuel : Nat} {visited : Visited} {start : Nat}
    {stack : List Thread} {v : Thread}
    (h : explore program text fuel visited start stack = some v)
    (hs : Searching program text [] visited start stack) :
    v.Accepted program ∧ Found program text visited start stack v := by
  induction fuel generalizing visited start stack with
  | zero => simp [explore] at h
  | succ fuel ih =>
    cases stack with
    | nil =>
      simp only [explore] at h
      split at h
      · next hle =>
        obtain ⟨hv, hfound⟩ := ih h (hs.push hle)
        exact ⟨hv, hfound.of_push hs hle⟩
      · simp at h
    | cons t rest =>
      -- a thread that need not be looked at
      have skip (ht : visited.Covered program t)
          (h : explore program text fuel visited start rest = some v) :
          v.Accepted program ∧ Found program text visited start (t :: rest) v := by
        obtain ⟨hv, hfound⟩ := ih h (hs.pop ht)
        exact ⟨hv, hfound.of_pop ht⟩
      simp only [explore] at h
      split at h
      · next hc => exact skip (.inl hc) h
      · split at h
        · next hi => exact skip (.inr hi) h
        · next hi =>
          obtain rfl := Option.some.inj h
          exact ⟨hi, .stack (.head rest) (.stay t)⟩
        · next i hne hi =>
          have hvisit := hs.visit hi (List.Subset.refl _) (fun haccept => absurd haccept hne)
          obtain ⟨hv, hfound⟩ := ih h hvisit
          exact ⟨hv, hfound.of_visit hi⟩

/-- What a search finds comes from a thread that starts, and no thread that starts before it runs to
acceptance. -/
theorem run_of_search_eq_some {start : Nat} {v : Thread} (h : search program text start = some v) :
    v.Accepted program ∧
      ∃ pos k, start ≤ pos ∧ pos ≤ text.size ∧ Run program text k (.startingAt pos) v ∧
        ∀ pos' k' u, start ≤ pos' → pos' < pos → Run program text k' (.startingAt pos') u →
          ¬ u.Accepted program := by
  obtain ⟨hv, ht | ⟨hpos, hsize, hrun, hcloses⟩⟩ :=
    found_of_explore_eq_some h (.initial program text start)
  · simp at ht
  · exact ⟨hv, _, _, hpos, hsize, hrun, fun _ _ _ hpos' hlt hrun' hu =>
      List.not_mem_nil (hcloses.mem_of_run rfl hpos' hlt hrun' hu)⟩

/-! ## What is reached is found -/

/-- A search for all acceptances ends with marks for the whole stack and all the starts, if it is
given steps enough: two for each pair without a mark, two for each start, one for each thread on
the stack. -/
theorem closes_exploreAll {fuel : Nat} {visited : Visited} {start : Nat} {stack : List Thread}
    {found : List Nat} (hs : Searching program text found visited start stack)
    (hfuel : 2 * visited.unseen text.size + 2 * (text.size + 1 - start) + stack.length < fuel) :
    ∃ closed, Closes program text (exploreAll program text fuel visited start stack found) closed
      visited start (text.size + 1) stack := by
  induction fuel generalizing visited start stack found with
  | zero => simp at hfuel
  | succ fuel ih =>
    cases stack with
    | nil =>
      simp only [exploreAll]
      split
      · next hle =>
        obtain ⟨closed, hclosed⟩ :=
          ih (hs.push hle) (by simp only [List.length_nil, List.length_singleton] at *; omega)
        exact ⟨closed, hclosed.of_push⟩
      · next hgt => exact ⟨visited, .of_searching hs (Nat.not_le.mp hgt)⟩
    | cons t rest =>
      rw [List.length_cons] at hfuel
      -- a thread that need not be looked at
      have skip (ht : visited.Covered program t) :
          ∃ closed, Closes program text (exploreAll program text fuel visited start rest found)
            closed visited start (text.size + 1) (t :: rest) := by
        obtain ⟨closed, hclosed⟩ := ih (hs.pop ht) (by omega)
        exact ⟨closed, hclosed.of_pop ht⟩
      -- a thread that is marked, with what is found then
      have visit {i : Instruction} (hc : ¬ visited.contains t.pc t.pos = true)
          (hi : program[t.pc]? = some i) {found' : List Nat} (hsubset : found ⊆ found')
          (haccept : i = .accept → t.pc ∈ found') :
          ∃ closed, Closes program text
            (exploreAll program text fuel (visited.insert t.pc t.pos) start
              (i.advance text t ++ rest) found')
            closed visited start (text.size + 1) (t :: rest) := by
        have ⟨hfirst, hsize⟩ := hs.stack_mem t (.head rest)
        have hlt := Visited.unseen_insert_lt
          (hs.addresses ▸ (Array.getElem?_eq_some_iff.mp hi).1) hfirst hsize
          (Bool.eq_false_iff.mpr hc)
        have htwo := i.length_advance_le text t
        obtain ⟨closed, hclosed⟩ :=
          ih (hs.visit hi hsubset haccept) (by rw [List.length_append]; omega)
        exact ⟨closed, hclosed.of_visit⟩
      simp only [exploreAll]
      split
      · next hc => exact skip (.inl hc)
      · next hc =>
        split
        · next hi => exact skip (.inr hi)
        · next hi => exact visit hc hi (List.subset_insert _ _) (fun _ => List.mem_insert_self)
        · next i hne hi => exact visit hc hi (List.Subset.refl _) (fun h => absurd h hne)

/-- Where a search finds nothing, a search for all acceptances finds no more than it began with. -/
theorem exploreAll_of_explore_eq_none {fuel : Nat} {visited : Visited} {start : Nat}
    {stack : List Thread} (h : explore program text fuel visited start stack = none)
    (found : List Nat) : exploreAll program text fuel visited start stack found = found := by
  induction fuel generalizing visited start stack with
  | zero => rfl
  | succ fuel ih =>
    cases stack with
    | nil =>
      simp only [explore, exploreAll] at h ⊢
      split at h
      · next hle => rw [if_pos hle, ih h]
      · next hgt => rw [if_neg hgt]
    | cons t rest =>
      simp only [explore, exploreAll] at h ⊢
      split at h
      · next hc => rw [if_pos hc, ih h]
      · next hc =>
        rw [if_neg hc]
        cases hi : program[t.pc]? with
        | none => exact ih (by simpa [hi] using h)
        | some i => cases i <;> first | exact ih (by simpa [hi] using h) | simp [hi] at h

/-- Steps enough for a search of a whole text. -/
theorem unseen_lt_stepBound (program : Array Instruction) (text : Array Char) (start : Nat) :
    2 * (Visited.empty program.size start).unseen text.size + 2 * (text.size + 1 - start) +
      ([] : List Thread).length < stepBound program.size (text.size + 1) := by
  have hle : (Visited.empty program.size start).unseen text.size ≤
      program.size * (text.size + 1) := Visited.unseen_le _ _
  have hbound : stepBound program.size (text.size + 1) =
      2 * (program.size * (text.size + 1)) + 2 * (text.size + 1) + 1 := by
    rw [stepBound, Nat.mul_assoc, Nat.add_mul, Nat.one_mul, Nat.mul_add]
  rw [hbound, List.length_nil]
  omega

/-- Where a thread from one of the starts is accepted, a search for all acceptances comes to. -/
theorem mem_acceptances_of_run {start pos k : Nat} {v : Thread} (hpos : start ≤ pos)
    (hsize : pos ≤ text.size) (hrun : Run program text k (.startingAt pos) v)
    (hv : v.Accepted program) : v.pc ∈ acceptances program text start := by
  obtain ⟨closed, hclosed⟩ := closes_exploreAll (.initial program text start)
    (unseen_lt_stepBound program text start)
  exact hclosed.mem_of_run rfl hpos (Nat.lt_succ_of_le hsize) hrun hv

/-- A thread is accepted at an address that comes from the stack or from one of the starts. -/
def AcceptedAt (program : Array Instruction) (text : Array Char) (start : Nat)
    (stack : List Thread) (address : Nat) : Prop :=
  ∃ t k v, (t ∈ stack ∨ ∃ pos, start ≤ pos ∧ pos ≤ text.size ∧ t = Thread.startingAt pos) ∧
    Run program text k t v ∧ v.Accepted program ∧ v.pc = address

namespace AcceptedAt

variable {start address : Nat} {t : Thread} {rest : List Thread}

theorem of_push (hle : start ≤ text.size)
    (h : AcceptedAt program text (start + 1) [.startingAt start] address) :
    AcceptedAt program text start [] address := by
  obtain ⟨t, k, v, ht | ⟨pos, hpos, hsize, rfl⟩, hv⟩ := h
  · obtain rfl := List.mem_singleton.mp ht
    exact ⟨_, k, v, .inr ⟨start, Nat.le_refl start, hle, rfl⟩, hv⟩
  · exact ⟨_, k, v, .inr ⟨pos, Nat.le_of_succ_le hpos, hsize, rfl⟩, hv⟩

theorem of_pop (h : AcceptedAt program text start rest address) :
    AcceptedAt program text start (t :: rest) address := by
  obtain ⟨u, k, v, hu, hv⟩ := h
  exact ⟨u, k, v, hu.imp (List.mem_cons_of_mem t) id, hv⟩

theorem of_visit {i : Instruction} (hi : program[t.pc]? = some i)
    (h : AcceptedAt program text start (i.advance text t ++ rest) address) :
    AcceptedAt program text start (t :: rest) address := by
  obtain ⟨u, k, v, hu | hstart, hrun, hv⟩ := h
  · rcases List.mem_append.mp hu with hu | hu
    · exact ⟨t, k + 1, v, .inl List.mem_cons_self, .step hi hu hrun, hv⟩
    · exact ⟨u, k, v, .inl (List.mem_cons_of_mem t hu), hrun, hv⟩
  · exact ⟨u, k, v, .inr hstart, hrun, hv⟩

end AcceptedAt

/-- What a search for all acceptances adds is an address where a thread is accepted. -/
theorem acceptedAt_of_mem_exploreAll {fuel : Nat} {visited : Visited} {start : Nat}
    {stack : List Thread} {found : List Nat} {address : Nat}
    (h : address ∈ exploreAll program text fuel visited start stack found) :
    address ∈ found ∨ AcceptedAt program text start stack address := by
  induction fuel generalizing visited start stack found with
  | zero => exact .inl h
  | succ fuel ih =>
    cases stack with
    | nil =>
      simp only [exploreAll] at h
      split at h
      · next hle => exact (ih h).imp id (.of_push hle)
      · exact .inl h
    | cons t rest =>
      simp only [exploreAll] at h
      split at h
      · exact (ih h).imp id .of_pop
      · split at h
        · exact (ih h).imp id .of_pop
        · next hi =>
          rcases ih h with hfound | hrest
          · rcases List.mem_insert_iff.mp hfound with rfl | hfound
            · exact .inr ⟨t, 0, t, .inl List.mem_cons_self, .stay t, hi, rfl⟩
            · exact .inl hfound
          · exact .inr hrest.of_pop
        · next i _ hi => exact (ih h).imp id (.of_visit hi)

/-- A search for all acceptances finds the addresses where threads from the starts are accepted, and
no others. -/
theorem mem_acceptances_iff {start address : Nat} :
    address ∈ acceptances program text start ↔
      ∃ pos, start ≤ pos ∧ pos ≤ text.size ∧
        ∃ k v, Run program text k (.startingAt pos) v ∧ v.Accepted program ∧ v.pc = address := by
  constructor
  · intro h
    rcases acceptedAt_of_mem_exploreAll h with hnil | ⟨t, k, v, ht | ⟨pos, hpos, hsize, rfl⟩, hv⟩
    · exact absurd hnil List.not_mem_nil
    · exact absurd ht List.not_mem_nil
    · exact ⟨pos, hpos, hsize, k, v, hv⟩
  · rintro ⟨pos, hpos, hsize, k, v, hrun, hv, rfl⟩
    exact mem_acceptances_of_run hpos hsize hrun hv

/-- A search finds something exactly if a thread from one of the starts runs to acceptance. -/
theorem search_isSome_iff {start : Nat} :
    (search program text start).isSome = true ↔
      ∃ pos, start ≤ pos ∧ pos ≤ text.size ∧
        ∃ k v, Run program text k (.startingAt pos) v ∧ v.Accepted program := by
  constructor
  · intro h
    obtain ⟨v, hv⟩ := Option.isSome_iff_exists.mp h
    obtain ⟨hacc, pos, k, hpos, hsize, hrun, -⟩ := run_of_search_eq_some hv
    exact ⟨pos, hpos, hsize, k, v, hrun, hacc⟩
  · rintro ⟨pos, hpos, hsize, k, v, hrun, hacc⟩
    by_contra hnone
    have hnothing : acceptances program text start = [] :=
      exploreAll_of_explore_eq_none (Option.not_isSome_iff_eq_none.mp hnone) []
    have hfound := mem_acceptances_of_run hpos hsize hrun hacc
    rw [hnothing] at hfound
    exact List.not_mem_nil hfound

/-! ## Matches -/

/-- A thread keeps the position that it started from, or notes a later one in its place. -/
theorem Thread.match?_isSome_of_run {pos k : Nat} {v : Thread}
    (h : Run program text k (.startingAt pos) v) : v.match?.isSome = true := by
  have hslot : ∃ s ≤ v.pos, v.slot? 0 = some s := by
    refine h.invariant (P := fun t => ∃ s ≤ t.pos, t.slot? 0 = some s)
      (fun i t u _ hu ⟨s, hs, ht⟩ => ?_) ⟨pos, Nat.le_refl pos, rfl⟩
    have hle := (Instruction.pos_le_of_mem_advance hu).1
    rcases slot?_of_mem_advance hu 0 with hkept | ⟨-, hnoted⟩
    · exact ⟨s, Nat.le_trans hs hle, hkept.trans ht⟩
    · exact ⟨t.pos, hle, hnoted⟩
  obtain ⟨s, hs, hslot⟩ := hslot
  simp [match?, hslot, hs]

/-- The program of a node holds its code and accepts behind it. -/
theorem holds_program (n : Node) :
    Holds n.program.toArray 0 (n.code 0 n.size) ∧ n.program.toArray[n.size]? = some .accept := by
  have hholds : Holds n.program.toArray 0 (n.code 0 n.size ++ [.accept]) := by
    intro k i hi
    simpa [Node.program] using hi
  obtain ⟨hcode, hlast⟩ := holds_append.mp hholds
  rw [Node.length_code, Nat.zero_add, holds_cons] at hlast
  exact ⟨hcode, hlast.1⟩

/-- An accepted run of the program of a node covers a stretch that the node covers. -/
theorem covers_of_run {n : Node} {k : Nat} {t v : Thread} (ht : t.pc = 0)
    (hrun : Run n.program.toArray text k t v) (hv : v.Accepted n.program.toArray) :
    n.Covers text t.pos v.pos := by
  obtain ⟨hcode, hlast⟩ := holds_program n
  obtain ⟨_, -, u, hrest, hpc, hcov⟩ := (implements_code n hcode).passes ht hrun hv
  -- the program accepts at the address where the code goes on, so the thread goes no further
  have haccepted : u.Accepted n.program.toArray := by rw [Thread.Accepted, hpc, hlast]
  obtain rfl := hrest.eq_of_accepted haccepted
  exact hcov

/-- A thread at the beginning of the program of a node can be accepted if the node covers a stretch
from there on. -/
theorem run_program_iff (n : Node) (t : Thread) (ht : t.pc = 0) :
    (∃ k v, Run n.program.toArray text k t v ∧ v.Accepted n.program.toArray) ↔
      ∃ j, n.Covers text t.pos j := by
  constructor
  · rintro ⟨k, v, hrun, hv⟩
    exact ⟨v.pos, covers_of_run ht hrun hv⟩
  · rintro ⟨j, hj⟩
    obtain ⟨hcode, hlast⟩ := holds_program n
    obtain ⟨k, u, hrun, hpc, -⟩ := (implements_code n hcode).reaches ht hj
    exact ⟨k, u, hrun, by rw [Thread.Accepted, hpc, hlast]⟩

/-- A match is found exactly if the node covers a stretch that starts at `start` or behind it. -/
theorem matchFrom_isSome_iff (n : Node) (start : Nat) :
    ((ofNode n).matchFrom text start).isSome = true ↔
      ∃ i j, start ≤ i ∧ i ≤ text.size ∧ n.Covers text i j := by
  have hfound : ((ofNode n).matchFrom text start).isSome = true ↔
      (search n.program.toArray text start).isSome = true := by
    simp only [matchFrom, ofNode]
    cases hsearch : search n.program.toArray text start with
    | none => simp
    | some v =>
      obtain ⟨-, pos, k, -, -, hrun, -⟩ := run_of_search_eq_some hsearch
      simpa using Thread.match?_isSome_of_run hrun
  rw [hfound, search_isSome_iff]
  constructor
  · rintro ⟨pos, hpos, hsize, hrun⟩
    obtain ⟨j, hj⟩ := (run_program_iff n (.startingAt pos) rfl).mp hrun
    exact ⟨pos, j, hpos, hsize, hj⟩
  · rintro ⟨i, j, hstart, hi, hj⟩
    exact ⟨i, hstart, hi, (run_program_iff n (.startingAt i) rfl).mpr ⟨j, hj⟩⟩

/-- A pattern matches a text exactly if its node covers a stretch of it. -/
theorem isMatch_ofNode_iff (n : Node) (s : String) :
    (ofNode n).isMatch s = true ↔
      ∃ i j, i ≤ s.toList.length ∧ n.Covers s.toList.toArray i j := by
  rw [isMatch, firstMatch, matchFrom_isSome_iff]
  simp

end Telemetry.Regex
