import Telemetry.Proofs.Regex.Reading.Bracket
import Telemetry.Proofs.Regex.Reading.Group
import Telemetry.Regex.Basic

/-!
# Reading a pattern inside a group

The text of a pattern is anchored by putting it into a group between `^` and `$`. Reading the longer
text takes the same steps as reading the pattern alone, with one more group open around all others
(`Builder.run_inside`). What is left then is what stands behind the last item of the pattern, and a
comment that is open there takes the parenthesis. Main statement: `Tree.parse_between_anchors`.
-/

namespace Telemetry.Regex

namespace Builder

/-- The builder with more groups open, around all that are open. -/
def inside (b : Builder) (outer : List OpenGroup) : Builder := { b with opened := b.opened ++ outer }

variable {b b' : Builder} {g : OpenGroup}

theorem inside_nil (b : Builder) : b.inside [] = b := by
  rw [inside, List.append_nil]

/-- A group that is closed is not one of those around. -/
theorem closeGroup_inside (h : b.closeGroup = .ok b') (outer : List OpenGroup) :
    (b.inside outer).closeGroup = .ok (b'.inside outer) := by
  obtain ⟨verbose, alternatives, items, opened, captures, names⟩ := b
  cases opened with
  | nil => simp [closeGroup] at h
  | cons inner rest =>
    obtain rfl := Except.ok.inj h
    rfl

theorem apply_inside {o : Opening} (h : b.apply o = .ok b') (outer : List OpenGroup) :
    (b.inside outer).apply o = .ok (b'.inside outer) := by
  cases o with
  | directive d =>
    obtain rfl := Except.ok.inj h
    rfl
  | plain d =>
    obtain rfl := Except.ok.inj h
    rfl
  | capture name =>
    cases name with
    | none =>
      obtain rfl := Except.ok.inj h
      rfl
    | some name =>
      simp only [apply] at h ⊢
      split at h
      · simp at h
      · next hnew =>
        obtain rfl := Except.ok.inj h
        exact if_neg hnew

theorem takeOperand_inside {t : Tree} (h : b.takeOperand = .ok (t, b'))
    (outer : List OpenGroup) : (b.inside outer).takeOperand = .ok (t, b'.inside outer) := by
  obtain ⟨verbose, alternatives, items, opened, captures, names⟩ := b
  cases items with
  | nil => simp [takeOperand] at h
  | cons u items =>
    simp only [takeOperand, inside] at h ⊢
    split at h
    · next hu =>
      obtain ⟨rfl, rfl⟩ := Prod.mk.inj (Except.ok.inj h)
      rw [if_pos hu]
    · simp at h

theorem step_operator_inside {c : Char} (hc : c = '?' ∨ c = '*' ∨ c = '+')
    {rest left : List Char} (h : b.step (c :: rest) = .ok (b', left)) :
    left.length ≤ rest.length ∧
      ∀ outer, (b.inside outer).step (c :: (rest ++ closing)) =
        .ok (b'.inside outer, left ++ closing) := by
  have hstep (b : Builder) (rest : List Char) : b.step (c :: rest) =
      b.takeOperand >>= fun p =>
        .ok (p.2.push (.repetition (readOperator c rest).1 p.1), (readOperator c rest).2) := by
    rcases hc with rfl | rfl | rfl <;> rfl
  rw [hstep] at h
  obtain ⟨⟨operand, b₁⟩, htake, h⟩ := Except.bind_eq_ok_iff.mp h
  obtain ⟨rfl, rfl⟩ := Prod.mk.inj (Except.ok.inj h)
  refine ⟨length_readOperator_le c rest, fun outer => ?_⟩
  rw [hstep, readOperator_append]
  exact Except.bind_eq_ok_iff.mpr ⟨_, takeOperand_inside htake outer, rfl⟩

/-- Any character that begins no other item is a literal. -/
theorem step_literal {c : Char} (hmark : c ∉ ['(', ')', '|', '[', '{', '\\', '.', '^', '$'])
    (hop : ¬ (c = '?' ∨ c = '*' ∨ c = '+')) (b : Builder) (rest : List Char) :
    b.step (c :: rest) = .ok (b.push (.literal ⟨c, false⟩), rest) := by
  simp only [List.mem_cons, List.not_mem_nil, or_false, not_or] at hmark
  unfold step
  split
  case h_11 heq =>
    obtain ⟨rfl, rfl⟩ := List.cons.inj heq
    rw [if_neg hop]
  all_goals simp_all

/-- One item is read in the same way inside the groups around, with the same text left. -/
theorem step_inside {c : Char} {rest left : List Char}
    (h : b.step (c :: rest) = .ok (b', left)) :
    left.length ≤ rest.length ∧
      ∀ outer, (b.inside outer).step (c :: (rest ++ closing)) =
        .ok (b'.inside outer, left ++ closing) := by
  by_cases hop : c = '?' ∨ c = '*' ∨ c = '+'
  · exact step_operator_inside hop h
  by_cases hmark : c ∈ ['(', ')', '|', '[', '{', '\\', '.', '^', '$']
  · simp only [List.mem_cons, List.not_mem_nil, or_false] at hmark
    rcases hmark with rfl | rfl | rfl | rfl | rfl | rfl | rfl | rfl | rfl
    · obtain ⟨⟨opening, left⟩, hread, h⟩ := Except.bind_eq_ok_iff.mp h
      obtain ⟨b₁, happly, h⟩ := Except.bind_eq_ok_iff.mp h
      obtain ⟨rfl, rfl⟩ := Prod.mk.inj (Except.pure_eq_ok_iff.mp h)
      obtain ⟨hlen, hread'⟩ := steady_readOpening b.verbose rest _ _ hread
      exact ⟨hlen, fun outer => Except.bind_eq_ok_iff.mpr ⟨_, hread',
        Except.bind_eq_ok_iff.mpr ⟨_, apply_inside happly outer, rfl⟩⟩⟩
    · obtain ⟨b₁, hclose, h⟩ := Except.bind_eq_ok_iff.mp h
      obtain ⟨rfl, rfl⟩ := Prod.mk.inj (Except.pure_eq_ok_iff.mp h)
      exact ⟨Nat.le_refl _, fun outer =>
        Except.bind_eq_ok_iff.mpr ⟨_, closeGroup_inside hclose outer, rfl⟩⟩
    · obtain ⟨rfl, rfl⟩ := Prod.mk.inj (Except.ok.inj h)
      exact ⟨Nat.le_refl _, fun _ => rfl⟩
    · obtain ⟨⟨t, left⟩, hread, h⟩ := Except.bind_eq_ok_iff.mp h
      obtain ⟨rfl, rfl⟩ := Prod.mk.inj (Except.pure_eq_ok_iff.mp h)
      obtain ⟨hlen, hread'⟩ := steady_readClass b.verbose rest _ _ hread
      exact ⟨hlen, fun _ => Except.bind_eq_ok_iff.mpr ⟨_, hread', rfl⟩⟩
    · obtain ⟨⟨operand, b₁⟩, htake, h⟩ := Except.bind_eq_ok_iff.mp h
      obtain ⟨⟨q, left⟩, hread, h⟩ := Except.bind_eq_ok_iff.mp h
      obtain ⟨rfl, rfl⟩ := Prod.mk.inj (Except.pure_eq_ok_iff.mp h)
      obtain ⟨hlen, hread'⟩ := steady_readCount b₁.verbose rest _ _ hread
      exact ⟨hlen, fun outer => Except.bind_eq_ok_iff.mpr
        ⟨_, takeOperand_inside htake outer, Except.bind_eq_ok_iff.mpr ⟨_, hread', rfl⟩⟩⟩
    · obtain ⟨⟨p, left⟩, hread, h⟩ := Except.bind_eq_ok_iff.mp h
      obtain ⟨rfl, rfl⟩ := Prod.mk.inj (Except.pure_eq_ok_iff.mp h)
      obtain ⟨hlen, hread'⟩ := steady_readEscape b.verbose rest _ _ hread
      exact ⟨hlen, fun _ => Except.bind_eq_ok_iff.mpr ⟨_, hread', rfl⟩⟩
    all_goals
      obtain ⟨rfl, rfl⟩ := Prod.mk.inj (Except.ok.inj h)
      exact ⟨Nat.le_refl _, fun _ => rfl⟩
  · rw [step_literal hmark hop] at h
    obtain ⟨rfl, rfl⟩ := Prod.mk.inj (Except.ok.inj h)
    exact ⟨Nat.le_refl _, fun outer => step_literal hmark hop _ _⟩

/-- Reading a text inside of groups takes all its items in the same way, and then goes on with what
is behind the last one. How it goes on does not depend on the number of steps. -/
theorem run_inside {n : Nat} {text blanks : List Char} (hn : text.length ≤ n)
    (h : run n b text = .ok (b', blanks)) :
    skipBlanks b'.verbose blanks = [] ∧
      ∀ m, (text ++ closing).length ≤ m → ∃ k, (blanks ++ closing).length ≤ k ∧
        ∀ outer, run m (b.inside outer) (text ++ closing) =
          run k (b'.inside outer) (blanks ++ closing) := by
  induction n generalizing b text with
  | zero =>
    obtain rfl := List.length_eq_zero_iff.mp (Nat.le_zero.mp hn)
    obtain ⟨rfl, rfl⟩ := Prod.mk.inj (Except.ok.inj h)
    refine ⟨?_, fun m hm => ⟨m, hm, fun _ => rfl⟩⟩
    cases b.verbose <;> rfl
  | succ n ih =>
    rw [run] at h
    cases hs : skipBlanks b.verbose text with
    | nil =>
      rw [hs] at h
      obtain ⟨rfl, rfl⟩ := Prod.mk.inj (Except.ok.inj h)
      exact ⟨hs, fun m hm => ⟨m, hm, fun _ => rfl⟩⟩
    | cons c rest =>
      have hlen := length_lt_of_skipBlanks hs
      cases hstep : b.step (c :: rest) with
      | error e => simp [hs, hstep] at h
      | ok found =>
        obtain ⟨b₁, left⟩ := found
        simp only [hs, hstep] at h
        obtain ⟨hle, hstep'⟩ := step_inside hstep
        obtain ⟨hblanks, hruns⟩ := ih (b := b₁) (by omega) h
        refine ⟨hblanks, fun m hm => ?_⟩
        rw [List.length_append] at hm
        obtain ⟨m, rfl⟩ : ∃ k, m = k + 1 := Nat.exists_eq_add_one.mpr (by omega)
        obtain ⟨k, hk, hrun⟩ := hruns m (by rw [List.length_append]; omega)
        refine ⟨k, hk, fun outer => ?_⟩
        rw [run, show (b.inside outer).verbose = b.verbose from rfl, skipBlanks_append hs]
        simp only [hstep']
        exact hrun outer

/-- Blanks are left. -/
theorem run_blanks {text : List Char} (h : skipBlanks b.verbose text = []) (n : Nat) :
    run n b text = .ok (b, text) := by
  cases n with
  | zero => rfl
  | succ n => rw [run, h]

/-- The group around a pattern is closed behind it, and the anchor follows. -/
theorem run_closing {k : Nat} {text : List Char} (hopened : b.opened = [])
    (hskip : skipBlanks b.verbose text = closing) :
    run (k + 2) (b.inside [g]) text =
      .ok ({ b with
        verbose := g.verbose, alternatives := g.alternatives
        items := .assertion .lineEnd :: .group g.kind b.contents :: g.items, opened := [] }, []) := by
  obtain ⟨verbose, alternatives, items, opened, captures, names⟩ := b
  obtain ⟨kind, outerVerbose, outerAlternatives, outerItems⟩ := g
  subst hopened
  rw [run, show (inside _ _).verbose = verbose from rfl, hskip]
  cases outerVerbose <;> cases k <;> rfl

/-- A parenthesis that closes no group is a fault. -/
theorem run_closing_alone {n : Nat} {text : List Char} (hopened : b.opened = [])
    (hskip : skipBlanks b.verbose text = closing) : run (n + 1) b text = .error .groupUnopened := by
  obtain ⟨verbose, alternatives, items, opened, captures, names⟩ := b
  subst hopened
  rw [run, hskip]
  rfl

/-- A builder with open groups is not finished. -/
theorem finish_inside : (b.inside [g]).finish = .error .groupUnclosed := by
  simp [finish, inside]

theorem finish_eq_ok_iff {t : Tree} : b.finish = .ok t ↔ b.opened = [] ∧ b.contents = t := by
  simp only [finish, List.isEmpty_iff]
  split <;> simp_all

end Builder

/-! ## Comments at the end -/

/-- Whether a pattern ends in a comment: it is verbose behind its last item, and the blanks and
comments that are left there end within a comment. -/
def endsInComment (pattern : List Char) : Bool :=
  match Builder.run pattern.length {} pattern with
  | .ok (b, blanks) => b.verbose && endsCommented false blanks
  | .error _ => false

theorem endsInComment_of_run {text blanks : List Char} {b : Builder}
    (h : Builder.run text.length {} text = .ok (b, blanks)) :
    endsInComment text = (b.verbose && endsCommented false blanks) := by
  rw [endsInComment, h]

/-- A mark that is escaped begins no comment. -/
example : endsInComment "(?x)a \\# c".toList = false := by decide +kernel

/-! ## Trees -/

namespace Tree

variable {text : List Char} {t : Tree}

theorem parse_eq_of_run {b : Builder} {blanks : List Char}
    (h : Builder.run text.length {} text = .ok (b, blanks)) :
    parse text = b.finish >>= fun t =>
      if nestLimit < t.depth then .error .nestTooDeep else .ok t := by
  rw [parse, h]
  rfl

theorem parse_eq_ok (h : parse text = .ok t) :
    ∃ b blanks, Builder.run text.length {} text = .ok (b, blanks) ∧ b.finish = .ok t ∧
      t.depth ≤ nestLimit := by
  obtain ⟨⟨b, blanks⟩, hrun, h⟩ := Except.bind_eq_ok_iff.mp h
  obtain ⟨u, hfinish, h⟩ := Except.bind_eq_ok_iff.mp h
  split at h
  · cases h
  · next hdepth =>
    obtain rfl := Except.pure_eq_ok_iff.mp h
    exact ⟨b, blanks, hrun, hfinish, Nat.not_lt.mp hdepth⟩

/-- The tree of a pattern between the two anchors. -/
def anchored (t : Tree) : Tree :=
  .seq (.assertion .lineStart) (.seq (.group (.plain {}) t) (.assertion .lineEnd))

theorem depth_anchored (t : Tree) : t.anchored.depth = t.depth + 2 := by
  simp only [anchored, depth, isSeq, if_true, Bool.false_eq_true, if_false]
  omega

/-- A comment at the end of a pattern takes what is put behind it. Without one, a parenthesis there
closes no group. -/
theorem parse_append_closing (h : parse text = .ok t) :
    parse (text ++ closing) = if endsInComment text then .ok t else .error .groupUnopened := by
  obtain ⟨b, blanks, hrun, hfinish, hdepth⟩ := parse_eq_ok h
  obtain ⟨hopened, -⟩ := Builder.finish_eq_ok_iff.mp hfinish
  obtain ⟨hblanks, hruns⟩ := Builder.run_inside (Nat.le_refl _) hrun
  obtain ⟨k, hk, halone⟩ := hruns (text ++ closing).length (Nat.le_refl _)
  have hread : Builder.run (text ++ closing).length {} (text ++ closing) =
      Builder.run k b (blanks ++ closing) := by
    have := halone []
    rwa [Builder.inside_nil, Builder.inside_nil] at this
  have hskip := skipBlanks_append_closing hblanks
  rw [endsInComment_of_run hrun]
  split at hskip
  · next hcomment =>
    rw [parse_eq_of_run (hread.trans (Builder.run_blanks hskip k)), hfinish, if_pos hcomment]
    exact if_neg (Nat.not_lt.mpr hdepth)
  · next hcomment =>
    obtain ⟨k, rfl⟩ : ∃ n, k = n + 1 := Nat.exists_eq_add_one.mpr (by simp [closing] at hk; omega)
    rw [parse, hread, Builder.run_closing_alone hopened hskip, if_neg hcomment]
    rfl

/-- Between the anchors, a pattern that ends in a comment leaves the group around it open. Any other
one is closed, and reads as the anchored tree unless that nests too deep. -/
theorem parse_between_anchors (h : parse text = .ok t) :
    parse ('^' :: '(' :: '?' :: ':' :: (text ++ closing)) =
      if endsInComment text then .error .groupUnclosed
      else if nestLimit < t.depth + 2 then .error .nestTooDeep
      else .ok t.anchored := by
  obtain ⟨b, blanks, hrun, hfinish, -⟩ := parse_eq_ok h
  obtain ⟨hopened, rfl⟩ := Builder.finish_eq_ok_iff.mp hfinish
  obtain ⟨hblanks, hruns⟩ := Builder.run_inside (Nat.le_refl _) hrun
  obtain ⟨k, hk, hinside⟩ := hruns ((text ++ closing).length + 2) (Nat.le_add_right _ 2)
  let g : OpenGroup := ⟨.plain {}, false, [], [.assertion .lineStart]⟩
  have hread : Builder.run ('^' :: '(' :: '?' :: ':' :: (text ++ closing)).length {}
      ('^' :: '(' :: '?' :: ':' :: (text ++ closing)) =
        Builder.run k (b.inside [g]) (blanks ++ closing) := hinside [g]
  have hskip := skipBlanks_append_closing hblanks
  rw [endsInComment_of_run hrun]
  split at hskip
  · next hcomment =>
    have hopen := Builder.run_blanks (b := b.inside [g]) hskip k
    rw [parse_eq_of_run (hread.trans hopen), Builder.finish_inside, if_pos hcomment]
    rfl
  · next hcomment =>
    obtain ⟨k, rfl⟩ : ∃ n, k = n + 2 :=
      Nat.exists_eq_add_of_le' (by simp [closing] at hk; omega)
    rw [parse_eq_of_run (hread.trans (Builder.run_closing hopened hskip)), if_neg hcomment,
      ← depth_anchored]
    rfl

/-- A pattern that reads as a tree reads as the anchored one between the anchors, if it reads as
anything there. -/
theorem parse_anchored {u : Tree} (h : parse text = .ok t)
    (hu : parse ('^' :: '(' :: '?' :: ':' :: (text ++ closing)) = .ok u) : u = t.anchored := by
  rw [parse_between_anchors h] at hu
  split at hu
  · cases hu
  · split at hu
    · cases hu
    · exact (Except.ok.inj hu).symm

end Tree

end Telemetry.Regex
