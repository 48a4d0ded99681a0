import Mathlib.Data.List.TakeWhile
import Telemetry.Proofs.Regex.Reading

/-!
# Reading on in groups

The readers of what follows an opening parenthesis and of counted repetitions are steady
(`steady_readOpening`, `steady_readCount`).
-/

namespace Telemetry.Regex

open Unicode (isBlank)

/-! ## Opening parentheses -/

/-- Flags are read up to a character, which is left. -/
theorem readFlags_append {f : FlagScan} {text : List Char} {change : FlagChange}
    {left : List Char} (h : readFlags f text = .ok (change, left)) :
    left.length ≤ text.length ∧ left ≠ [] ∧
      readFlags f (text ++ closing) = .ok (change, left ++ closing) := by
  induction text generalizing f with
  | nil => simp [readFlags] at h
  | cons c rest ih =>
    simp only [readFlags, List.cons_append] at h ⊢
    split at h
    · split at h
      · simp at h
      · next hend hdangling =>
        obtain ⟨rfl, rfl⟩ := Prod.mk.inj (Except.ok.inj h)
        simp [hend, hdangling]
    · next hend =>
      split at h
      · simp at h
      · next g hadd =>
        obtain ⟨hlen, hne, hlonger⟩ := ih h
        exact ⟨Nat.le_succ_of_le hlen, hne, by simp only [hend, if_false, hlonger]⟩

theorem steady_readFlagged : Steady readFlagged := by
  intro text
  unfold readFlagged
  cases hflags : readFlags {} text with
  | error e => exact .error
  | ok found =>
    obtain ⟨flags, left⟩ := found
    obtain ⟨hle, hne, hlonger⟩ := readFlags_append hflags
    obtain ⟨c, left, rfl⟩ := List.exists_cons_of_ne_nil hne
    have hleft : left.length ≤ text.length := Nat.le_of_succ_le hle
    rw [hlonger]
    by_cases hc : c = ')'
    · subst hc
      simp only [List.cons_append]
      split
      · exact .error
      · exact .ok hleft
    · simp only [List.cons_append, List.cons.injEq, hc, false_and, imp_self, implies_true]
      exact .ok hleft

theorem steady_readGroupName (seen : List Char) : Steady (readGroupName seen) := by
  intro text
  induction text generalizing seen with
  | nil => exact .error
  | cons c rest ih =>
    simp only [readGroupName, List.cons_append]
    split
    · split
      · exact .error
      · exact .ok (Nat.le_succ _)
    · generalize (if seen.isEmpty = true then isNameStart c else isNameChar c) = allowed
      cases allowed with
      | true => exact (ih _).mono (Nat.le_succ _)
      | false => exact .error

/-- A parenthesis without a question mark behind it begins a numbered group. -/
theorem readOpening_of_ne {verbose : Bool} {text : List Char}
    (h : ∀ rest, skipBlanks verbose text ≠ '?' :: rest) :
    readOpening verbose text = .ok (.capture none, text) := by
  unfold readOpening
  split
  case h_9 => rfl
  all_goals exact absurd ‹_› (h _)

theorem steady_readOpening (verbose : Bool) : Steady (readOpening verbose) := by
  intro text
  by_cases hmark : ∃ rest, skipBlanks verbose text = '?' :: rest
  · obtain ⟨rest, hs⟩ := hmark
    have hlen := length_lt_of_skipBlanks hs
    unfold readOpening
    rw [skipBlanks_append hs, hs]
    split
    case h_1 | h_2 | h_3 | h_4 | h_7 => exact .error
    case h_5 name heq =>
      obtain rfl := (List.cons.inj heq).2
      simp only [List.length_cons] at hlen
      exact ((steady_readGroupName [] name).mono (by omega)).map
        fun name => Opening.capture (some name)
    case h_6 name heq hne hrest =>
      obtain rfl := (List.cons.inj hrest).2
      cases name with
      | nil => exact .error
      | cons c name =>
        have hc : c ≠ '=' := fun h => heq name (h ▸ rfl)
        have hc' : c ≠ '!' := fun h => hne name (h ▸ rfl)
        have hle : (c :: name).length ≤ text.length := Nat.le_of_succ_le (Nat.le_of_lt hlen)
        simp only [List.cons_append, List.cons.injEq, hc, hc', false_and, imp_self, implies_true]
        exact ((steady_readGroupName [] (c :: name)).mono hle).map
          fun name => Opening.capture (some name)
    case h_8 flags heq hne _ _ _ hname hnil hrest =>
      obtain rfl := (List.cons.inj hrest).2
      obtain ⟨c, tail, rfl⟩ := List.exists_cons_of_ne_nil hnil
      have hc : c ≠ '=' := fun h => heq tail (h ▸ rfl)
      have hc' : c ≠ '!' := fun h => hne tail (h ▸ rfl)
      have hc'' : c ≠ '<' := fun h => hname tail (h ▸ rfl)
      have hread := (steady_readFlagged (c :: tail)).mono (Nat.le_of_lt hlen)
      by_cases hP : c = 'P'
      · -- no flag has the letter that may begin the name of a group
        subst hP
        exact .error
      · simp only [List.cons.injEq, List.cons_append, hc, hc', hc'', hP, false_and, imp_self,
          implies_true] at hread ⊢
        exact hread
    case h_9 hnone => exact absurd rfl (hnone rest)
  · have hne := not_exists.mp hmark
    rw [readOpening_of_ne hne, readOpening_of_ne (skipBlanks_append_ne (by decide) hne)]
    exact .ok (Nat.le_refl _)

/-! ## Repetitions -/

theorem readGreed_of_ne {verbose : Bool} {text : List Char}
    (h : ∀ rest, skipBlanks verbose text ≠ '?' :: rest) : readGreed verbose text = (true, text) := by
  unfold readGreed
  split
  · next rest hs => exact absurd hs (h rest)
  · rfl

theorem readGreed_append (verbose : Bool) (text : List Char) :
    readGreed verbose (text ++ closing) =
      ((readGreed verbose text).1, (readGreed verbose text).2 ++ closing) := by
  by_cases hmark : ∃ rest, skipBlanks verbose text = '?' :: rest
  · obtain ⟨rest, hs⟩ := hmark
    simp only [readGreed, skipBlanks_append hs, hs]
  · have hne := not_exists.mp hmark
    rw [readGreed_of_ne hne, readGreed_of_ne (skipBlanks_append_ne (by decide) hne)]

theorem length_readGreed_le (verbose : Bool) (text : List Char) :
    (readGreed verbose text).2.length ≤ text.length := by
  unfold readGreed
  split
  · next rest hs => exact Nat.le_of_lt (length_lt_of_skipBlanks hs)
  · exact Nat.le_refl _

theorem readOperator_append (c : Char) (text : List Char) :
    readOperator c (text ++ closing) =
      ((readOperator c text).1, (readOperator c text).2 ++ closing) := by
  simp only [readOperator, readGreed_append]

theorem length_readOperator_le (c : Char) (text : List Char) :
    (readOperator c text).2.length ≤ text.length :=
  length_readGreed_le false text

theorem length_readDecimal_le (verbose : Bool) (text : List Char) :
    (readDecimal verbose text).2.length ≤ text.length :=
  calc (readDecimal verbose text).2.length
      ≤ (spanText verbose Char.isDigit (text.dropWhile isBlank)).2.length :=
        List.length_dropWhile_le isBlank _
    _ ≤ (text.dropWhile isBlank).length := length_spanSkipping_le verbose _ _ _
    _ ≤ text.length := List.length_dropWhile_le isBlank text

/-- A number is read in the same way, or is none in the same way, if something is left behind it. -/
theorem readDecimal_append {verbose : Bool} {text left : List Char} {c : Char}
    {value : Except SyntaxFault Nat} (h : readDecimal verbose text = (value, c :: left)) :
    readDecimal verbose (text ++ closing) = (value, c :: (left ++ closing)) := by
  unfold readDecimal at h ⊢
  rw [dropWhile_isBlank_append]
  cases hspan : spanText verbose Char.isDigit (text.dropWhile isBlank) with
  | mk digits rest =>
    rw [hspan] at h
    obtain ⟨rfl, hleft⟩ := Prod.mk.inj h
    cases rest with
    | nil => cases hleft
    | cons d rest =>
      rw [spanText_append hspan]
      simp only
      rw [← List.cons_append, dropWhile_isBlank_append, hleft, List.cons_append]

theorem length_lt_of_readDecimal {verbose : Bool} {text left : List Char} {c : Char}
    {value : Except SyntaxFault Nat} (h : readDecimal verbose text = (value, c :: left)) :
    left.length < text.length := by
  have hlen := length_readDecimal_le verbose text
  rwa [h] at hlen

/-- Bounds are read in the same way if something is left behind them. -/
theorem readBounds_append {verbose : Bool} {text left : List Char} {c : Char}
    {bounds : Nat × Option Nat} (h : readBounds verbose text = .ok (bounds, c :: left)) :
    left.length < text.length ∧
      readBounds verbose (text ++ closing) = .ok (bounds, c :: (left ++ closing)) := by
  unfold readBounds at h ⊢
  cases hs : skipBlanks verbose text with
  | nil => simp [hs] at h
  | cons d start =>
    have hlen := length_lt_of_skipBlanks hs
    rw [skipBlanks_append hs]
    simp only [hs] at h
    simp only
    cases hleast : readDecimal verbose (d :: start) with
    | mk least rest =>
      rw [hleast] at h
      cases rest with
      | nil => cases h
      | cons e rest =>
        have hrest := length_lt_of_readDecimal hleast
        rw [List.length_cons] at hrest
        rw [← List.cons_append, readDecimal_append hleast]
        by_cases he : e = ','
        · subst he
          simp only at h ⊢
          cases hr : skipBlanks verbose rest with
          | nil => simp [hr] at h
          | cons f inner =>
            have hinner := length_lt_of_skipBlanks hr
            rw [skipBlanks_append hr]
            rw [hr] at h
            by_cases hf : f = '}'
            · subst hf
              obtain ⟨min, rfl, h⟩ := Except.bind_eq_ok_iff.mp h
              obtain ⟨rfl, hleft⟩ := Prod.mk.inj (Except.pure_eq_ok_iff.mp h)
              obtain ⟨rfl, rfl⟩ := List.cons.inj hleft
              exact ⟨by omega, rfl⟩
            · simp only [List.cons.injEq, hf, false_and, imp_self, implies_true] at h ⊢
              obtain ⟨min, rfl, hread⟩ := Except.bind_eq_ok_iff.mp h
              obtain ⟨max, hmax, hread⟩ := Except.bind_eq_ok_iff.mp hread
              obtain ⟨rfl, hleft⟩ := Prod.mk.inj (Except.pure_eq_ok_iff.mp hread)
              have hmost : readDecimal verbose (f :: inner) = (.ok max, c :: left) :=
                Prod.ext hmax hleft
              have hlast := length_lt_of_readDecimal hmost
              rw [List.length_cons] at hlast
              rw [← List.cons_append, readDecimal_append hmost]
              exact ⟨by omega, rfl⟩
        · simp only [List.cons.injEq, he, false_and, imp_self, implies_true] at h ⊢
          obtain ⟨n, rfl, h⟩ := Except.bind_eq_ok_iff.mp h
          obtain ⟨rfl, hleft⟩ := Prod.mk.inj (Except.pure_eq_ok_iff.mp h)
          obtain ⟨rfl, rfl⟩ := List.cons.inj hleft
          exact ⟨by omega, rfl⟩

theorem steady_closeCount (verbose : Bool) (bounds : Nat × Option Nat) :
    Steady (closeCount verbose bounds) := by
  intro text
  cases text with
  | nil => exact .error
  | cons c rest =>
    by_cases hb : c = '}'
    · subst hb
      simp only [closeCount, List.cons_append, readGreed_append]
      split
      · exact .error
      · exact .ok (Nat.le_succ_of_le (length_readGreed_le verbose rest))
    · simp only [closeCount, List.cons_append, List.cons.injEq, hb, false_and, imp_self,
        implies_true]
      exact .error

theorem steady_readCount (verbose : Bool) : Steady (readCount verbose) := by
  intro text q left h
  obtain ⟨⟨bounds, rest⟩, hbounds, hclose⟩ := Except.bind_eq_ok_iff.mp h
  cases rest with
  | nil => cases hclose
  | cons c rest =>
    obtain ⟨hlen, hlonger⟩ := readBounds_append hbounds
    obtain ⟨hle, hclose⟩ := steady_closeCount verbose bounds (c :: rest) q left hclose
    exact ⟨Nat.le_trans hle hlen, Except.bind_eq_ok_iff.mpr ⟨_, hlonger, hclose⟩⟩

end Telemetry.Regex
