import Mathlib.Data.List.TakeWhile
import Telemetry.Proofs.Regex.Reading

/-!
# Reading on in brackets

The readers of a bracketed class are steady (`steady_readClass`): a class that is closed does not
depend on what is behind its closing bracket.
-/

namespace Telemetry.Regex

open Unicode (isBlank)

/-! ## Items -/

theorem takeWhile_append_of_dropWhile {p : Char → Bool} {text : List Char}
    (h : text.dropWhile p ≠ []) : (text ++ closing).takeWhile p = text.takeWhile p := by
  rw [List.takeWhile_append, if_neg]
  intro hlen
  have hsplit := congrArg List.length (List.takeWhile_append_dropWhile (p := p) (l := text))
  rw [List.length_append, hlen] at hsplit
  exact h (List.length_eq_zero_iff.mp (by omega))

/-- What is put behind a text ends no name. -/
theorem readAsciiName?_append (negated : Bool) (text : List Char) :
    readAsciiName? negated (text ++ closing) =
      (readAsciiName? negated text).map fun (item, left) => (item, left ++ closing) := by
  unfold readAsciiName?
  have hclosing : closing.dropWhile (· ≠ ':') = [] := by decide
  rw [List.dropWhile_append]
  cases hdrop : text.dropWhile (· ≠ ':') with
  | nil => rw [List.isEmpty_nil, if_pos rfl, hclosing]; rfl
  | cons c left =>
    rw [takeWhile_append_of_dropWhile (by rw [hdrop]; exact List.cons_ne_nil c left)]
    by_cases hc : c = ':'
    · subst hc
      cases left with
      | nil => rfl
      | cons d left =>
        by_cases hd : d = ']'
        · subst hd
          simp [Function.comp_def]
        · simp [hd]
    · simp [hc]

/-- Text is a named class, or is none, whatever is behind it. -/
theorem readAsciiClass?_append (text : List Char) :
    readAsciiClass? (text ++ closing) =
      (readAsciiClass? text).map fun (item, left) => (item, left ++ closing) := by
  cases text with
  | nil => rfl
  | cons c rest =>
    by_cases hc : c = ':'
    · subst hc
      cases rest with
      | nil => rfl
      | cons d rest =>
        by_cases hd : d = '^'
        · subst hd
          exact readAsciiName?_append true rest
        · simp only [readAsciiClass?, List.cons_append, List.cons.injEq, hd, false_and, imp_self,
            implies_true]
          exact readAsciiName?_append false (d :: rest)
    · simp [readAsciiClass?, hc]

theorem length_le_of_readAsciiName? {negated : Bool} {text left : List Char} {item : ClassSet}
    (h : readAsciiName? negated text = some (item, left)) : left.length ≤ text.length := by
  unfold readAsciiName? at h
  have hlen := List.length_dropWhile_le (· ≠ ':') text
  split at h
  · next hdrop =>
    obtain ⟨kind, -, heq⟩ := Option.map_eq_some_iff.mp h
    obtain ⟨-, rfl⟩ := Prod.mk.inj heq
    rw [hdrop] at hlen
    simp only [List.length_cons] at hlen
    omega
  · simp at h

theorem length_le_of_readAsciiClass? {text left : List Char} {item : ClassSet}
    (h : readAsciiClass? text = some (item, left)) : left.length ≤ text.length := by
  unfold readAsciiClass? at h
  split at h
  · exact Nat.le_succ_of_le (Nat.le_succ_of_le (length_le_of_readAsciiName? h))
  · exact Nat.le_succ_of_le (length_le_of_readAsciiName? h)
  · simp at h

/-- Two characters tell whether an operator stands there. -/
theorem readSetOperator?_append (c d : Char) (rest : List Char) :
    readSetOperator? (c :: d :: (rest ++ closing)) =
      (readSetOperator? (c :: d :: rest)).map fun (op, left) => (op, left ++ closing) := by
  unfold readSetOperator?
  split <;> simp_all

theorem length_le_of_readSetOperator? {text left : List Char} {op : SetOperator}
    (h : readSetOperator? text = some (op, left)) : left.length ≤ text.length := by
  unfold readSetOperator? at h
  split at h
  case h_4 => simp at h
  all_goals
    obtain ⟨-, rfl⟩ := Prod.mk.inj (Option.some.inj h)
    exact Nat.le_succ_of_le (Nat.le_succ _)

theorem steady_readClassItem (verbose : Bool) : Steady (readClassItem verbose) := by
  intro text
  cases text with
  | nil => exact .error
  | cons c rest =>
    by_cases hb : c = '\\'
    · subst hb
      exact (steady_readEscape verbose rest).mono (Nat.le_succ _)
    · simp only [readClassItem, List.cons_append]
      exact .ok (Nat.le_succ _)

/-- At the end of the text, the parenthesis is what is significant next. -/
theorem peekSignificant_append (verbose : Bool) (text : List Char) {c : Char} (hc : c ≠ ')') :
    peekSignificant verbose (text ++ closing) = some c ↔ peekSignificant verbose text = some c := by
  have hhead (s : List Char) : (s ++ closing).head? = some c ↔ s.head? = some c := by
    cases s with
    | nil => simp [closing, hc.symm]
    | cons d s => rfl
  cases verbose with
  | false => exact hhead text
  | true =>
    simp only [peekSignificant, if_true, dropWhile_isBlank_append]
    cases text.dropWhile isBlank with
    | nil => exact hhead []
    | cons d s =>
      by_cases hd : d = '#'
      · subst hd
        simp only [List.cons_append, dropWhile_isBlank_append]
        exact hhead _
      · simp [hd]

theorem steady_readClassRange (verbose : Bool) : Steady (readClassRange verbose) := by
  intro text
  unfold readClassRange
  refine (steady_readClassItem verbose text).bind fun first left hlen => ?_
  simp only
  cases hs : skipBlanks verbose left with
  | nil => exact .error
  | cons c rest =>
    have hrest := length_lt_of_skipBlanks hs
    have hle : (c :: rest).length ≤ text.length := Nat.le_trans hrest hlen
    rw [skipBlanks_append hs]
    by_cases hb : c = '-'
    · subst hb
      simp only [peekSignificant_append verbose rest (by decide : ']' ≠ ')'),
        peekSignificant_append verbose rest (by decide : '-' ≠ ')')]
      split
      · exact .after fun item => .ok hle
      · cases hr : skipBlanks verbose rest with
        | nil => exact .error
        | cons d inner =>
          have hinner := length_lt_of_skipBlanks hr
          have hle : (d :: inner).length ≤ text.length := by
            rw [List.length_cons] at hle ⊢
            omega
          rw [skipBlanks_append hr]
          refine ((steady_readClassItem verbose (d :: inner)).mono hle).bind
            fun last left hlen => .after fun lo => .after fun hi => ?_
          dsimp only
          split
          · exact .ok hlen
          · exact .error
    · simp only [List.cons.injEq, hb, false_and, imp_self, implies_true]
      exact .after fun item => .ok hle

/-- An item is not complete before what follows it. -/
theorem readClassRange_singleton (verbose : Bool) (c : Char) :
    ∃ e, readClassRange verbose [c] = .error e := by
  by_cases hc : c = '\\'
  · subst hc
    exact ⟨_, rfl⟩
  · refine ⟨.classUnclosed, ?_⟩
    cases verbose <;> simp [readClassRange, readClassItem, skipBlanks, skipBlanks.go, bind,
      Except.bind]

/-! ## Classes -/

theorem leadingHyphens_append {verbose : Bool} {n m : Nat} {items found : List ClassSet}
    {text left : List Char} (hne : text ≠ []) (hn : text.length ≤ n)
    (hm : (text ++ closing).length ≤ m)
    (h : leadingHyphens verbose n items text = .ok (found, left)) :
    left ≠ [] ∧ left.length ≤ text.length ∧
      leadingHyphens verbose m items (text ++ closing) = .ok (found, left ++ closing) := by
  induction n generalizing m items text with
  | zero => exact absurd (List.length_eq_zero_iff.mp (Nat.le_zero.mp hn)) hne
  | succ n ih =>
    obtain ⟨c, rest, rfl⟩ := List.exists_cons_of_ne_nil hne
    obtain ⟨m, rfl⟩ : ∃ k, m = k + 1 := Nat.exists_eq_add_one.mpr (by simp at hm; omega)
    by_cases hc : c = '-'
    · subst hc
      simp only [leadingHyphens, List.cons_append] at h ⊢
      cases hs : skipBlanks verbose rest with
      | nil => simp [hs] at h
      | cons d s =>
        have hlen := length_lt_of_skipBlanks hs
        rw [hs] at h
        rw [skipBlanks_append hs]
        simp only [List.length_cons, List.cons_append, List.length_append] at hn hm
        obtain ⟨hleft, hle, hlonger⟩ := ih (m := m) (List.cons_ne_nil d s)
          (by rw [List.length_cons]; omega)
          (by rw [List.length_append, List.length_cons]; omega) h
        exact ⟨hleft, Nat.le_succ_of_le (Nat.le_trans hle hlen), hlonger⟩
    · simp only [leadingHyphens, List.cons_append, List.cons.injEq, hc, false_and, imp_self,
        implies_true] at h ⊢
      obtain ⟨rfl, rfl⟩ := Prod.mk.inj (Except.ok.inj h)
      exact ⟨hne, Nat.le_refl _, rfl⟩

/-- A class is negated in the same way if something is left of it. -/
theorem readNegation_append {verbose negated : Bool} {text left : List Char} {c : Char}
    (h : readNegation verbose text = (negated, c :: left)) :
    readNegation verbose (text ++ closing) = (negated, c :: (left ++ closing)) := by
  unfold readNegation at h ⊢
  cases hs : skipBlanks verbose text with
  | nil => simp [hs] at h
  | cons d rest =>
    rw [hs] at h
    rw [skipBlanks_append hs]
    by_cases hd : d = '^'
    · subst hd
      obtain ⟨rfl, hr⟩ := Prod.mk.inj h
      exact Prod.ext rfl (skipBlanks_append hr closing)
    · simp only [List.cons.injEq, hd, false_and, imp_self, implies_true] at h ⊢
      obtain ⟨rfl, hr⟩ := Prod.mk.inj h
      obtain ⟨rfl, rfl⟩ := List.cons.inj hr
      rfl

theorem length_readNegation_le (verbose : Bool) (text : List Char) :
    (readNegation verbose text).2.length ≤ text.length := by
  have hlen := length_skipBlanks_le verbose text
  unfold readNegation
  split
  · next rest hs =>
    rw [hs, List.length_cons] at hlen
    exact Nat.le_trans (length_skipBlanks_le verbose rest) (by omega)
  · exact hlen

theorem steady_openClass (verbose : Bool) : Steady (openClass verbose) := by
  intro text
  refine Agrees.mono ?_ (length_readNegation_le verbose text)
  unfold openClass
  cases hstart : readNegation verbose text with
  | mk negated start =>
    cases start with
    | nil => exact .error
    | cons c rest =>
      rw [readNegation_append hstart]
      have hhyphens : Agrees (c :: rest).length
          (leadingHyphens verbose (c :: rest).length [] (c :: rest))
          (leadingHyphens verbose (c :: (rest ++ closing)).length [] (c :: (rest ++ closing))) := by
        intro found left h
        obtain ⟨-, hle, hlonger⟩ := leadingHyphens_append (List.cons_ne_nil c rest) (Nat.le_refl _)
          (Nat.le_refl _) h
        exact ⟨hle, hlonger⟩
      refine hhyphens.bind fun items left hlen => ?_
      cases items with
      | cons item items => exact .ok hlen
      | nil =>
        cases left with
        | nil => exact .ok hlen
        | cons d left =>
          by_cases hd : d = ']'
          · subst hd
            simp only [List.cons_append]
            cases hs : skipBlanks verbose left with
            | nil => exact .error
            | cons e inner =>
              rw [skipBlanks_append hs]
              have := length_lt_of_skipBlanks hs
              exact .ok (Nat.le_trans this (Nat.le_of_succ_le hlen))
          · simp only [List.cons_append, List.cons.injEq, hd, false_and, imp_self, implies_true]
            exact .ok hlen

theorem readClassBody_agrees (verbose : Bool) {n m : Nat} (hle : n ≤ m) (current : OpenClass)
    (outer : List OpenClass) (text : List Char) :
    Agrees text.length (readClassBody verbose n current outer text)
      (readClassBody verbose m current outer (text ++ closing)) := by
  induction n generalizing m current outer text with
  | zero => exact .error
  | succ n ih =>
    obtain ⟨m, rfl⟩ : ∃ k, m = k + 1 := Nat.exists_eq_add_one.mpr (by omega)
    have hle := Nat.le_of_succ_le_succ hle
    simp only [readClassBody]
    cases hs : skipBlanks verbose text with
    | nil => exact .error
    | cons c rest =>
      have hlen := length_lt_of_skipBlanks hs
      refine Agrees.mono ?_ hlen
      rw [skipBlanks_append hs]
      by_cases hopen : c = '['
      · subst hopen
        simp only [readAsciiClass?_append]
        cases hascii : readAsciiClass? rest with
        | some found =>
          obtain ⟨item, left⟩ := found
          have := length_le_of_readAsciiClass? hascii
          exact (ih hle _ _ left).mono (Nat.le_succ_of_le this)
        | none =>
          exact ((steady_openClass verbose rest).mono (Nat.le_succ _)).bind
            fun opened left hlen => (ih hle _ _ left).mono hlen
      by_cases hclose : c = ']'
      · subst hclose
        cases outer with
        | nil => exact .ok (Nat.le_succ _)
        | cons enclosing outer => exact (ih hle _ _ rest).mono (Nat.le_succ _)
      simp only [List.cons.injEq, hopen, hclose, false_and, imp_self, implies_true]
      cases rest with
      | nil =>
        have hop : readSetOperator? [c] = none := by simp [readSetOperator?]
        obtain ⟨e, he⟩ := readClassRange_singleton verbose c
        rw [hop, he]
        exact .error
      | cons d rest =>
        rw [List.cons_append, readSetOperator?_append]
        cases hop : readSetOperator? (c :: d :: rest) with
        | some found =>
          obtain ⟨op, left⟩ := found
          have := length_le_of_readSetOperator? hop
          exact (ih hle _ _ left).mono this
        | none =>
          exact (steady_readClassRange verbose (c :: d :: rest)).bind
            fun s left hlen => (ih hle _ _ left).mono hlen

theorem steady_readClass (verbose : Bool) : Steady (readClass verbose) := by
  intro text
  refine (steady_openClass verbose text).bind fun opened left hlen => ?_
  have hlonger : left.length + 1 ≤ (left ++ closing).length + 1 := by
    rw [List.length_append]
    omega
  exact ((readClassBody_agrees verbose hlonger opened [] left).mono hlen).bind
    fun _ _ hlen => .ok hlen

end Telemetry.Regex
