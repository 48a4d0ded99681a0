import Telemetry.Proofs.Compiling
import Telemetry.Regex.Parser

/-!
# Reading on

The readers of a pattern look ahead, skip blanks and comments, and treat the end of the text as a
fault in many places. `Steady` says of a reader that none of this makes a difference if a closing
parenthesis and a dollar sign are put behind the text: whatever it reads without a fault, it reads
in the same way from the longer text, and leaves what was put behind it. The readers of blanks and
escapes have their lemmas here (`steady_readEscape`).
-/

namespace Telemetry.Regex

open Unicode (isBlank)

/-- What is put behind a text. -/
def closing : List Char := [')', '$']

/-- The second result is the first one read from a longer text, unless that is a fault; and no more
than `bound` characters are left of the shorter one. -/
def Agrees {α : Type} (bound : Nat) (r r' : Except SyntaxFault (Parsed α)) : Prop :=
  ∀ x left, r = .ok (x, left) → left.length ≤ bound ∧ r' = .ok (x, left ++ closing)

namespace Agrees

variable {α β : Type} {bound : Nat} {r r' : Except SyntaxFault (Parsed α)}

theorem error {e : SyntaxFault} : Agrees bound (.error e) r' := by
  intro x left h
  cases h

theorem ok {x : α} {left : List Char} (hlen : left.length ≤ bound) :
    Agrees bound (.ok (x, left)) (.ok (x, left ++ closing)) := by
  intro y rest h
  obtain ⟨rfl, rfl⟩ := Prod.mk.inj (Except.ok.inj h)
  exact ⟨hlen, rfl⟩

theorem mono {bound' : Nat} (h : Agrees bound r r') (hle : bound ≤ bound') :
    Agrees bound' r r' :=
  fun x left hr => ⟨Nat.le_trans (h x left hr).1 hle, (h x left hr).2⟩

/-- A reader may go on with what another one left. -/
theorem bind (h : Agrees bound r r') {f f' : Parsed α → Except SyntaxFault (Parsed β)}
    (hf : ∀ x left, left.length ≤ bound → Agrees bound (f (x, left)) (f' (x, left ++ closing))) :
    Agrees bound (r >>= f) (r' >>= f') := by
  intro y rest hy
  obtain ⟨⟨x, left⟩, hx, hfx⟩ := Except.bind_eq_ok_iff.mp hy
  obtain ⟨hlen, hx'⟩ := h x left hx
  rw [hx']
  exact hf x left hlen y rest hfx

/-- What both go on from may fail, as it does so for both. -/
theorem after {x : Except SyntaxFault β} {f f' : β → Except SyntaxFault (Parsed α)}
    (hf : ∀ b, Agrees bound (f b) (f' b)) : Agrees bound (x >>= f) (x >>= f') := by
  cases x with
  | error e => exact .error
  | ok b => exact hf b

theorem map (h : Agrees bound r r') (f : α → β) :
    Agrees bound (r.map fun (x, left) => (f x, left)) (r'.map fun (x, left) => (f x, left)) := by
  intro y rest hy
  obtain ⟨⟨x, left⟩, hx, heq⟩ := Except.map_eq_ok_iff.mp hy
  obtain ⟨rfl, rfl⟩ := Prod.mk.inj heq
  obtain ⟨hlen, hx'⟩ := h x left hx
  exact ⟨hlen, by rw [hx']; rfl⟩

end Agrees

/-- A reader leaves no more than it was given, and reads the same from a longer text. -/
def Steady {α : Type} (read : List Char → Except SyntaxFault (Parsed α)) : Prop :=
  ∀ text, Agrees text.length (read text) (read (text ++ closing))

/-! ## Blanks -/

theorem length_skipBlanks_go_le (inComment : Bool) (text : List Char) :
    (skipBlanks.go inComment text).length ≤ text.length := by
  induction text generalizing inComment with
  | nil => cases inComment <;> exact Nat.le_refl 0
  | cons c rest ih =>
    cases inComment with
    | true => exact Nat.le_succ_of_le (ih _)
    | false =>
      simp only [skipBlanks.go]
      split
      · exact Nat.le_succ_of_le (ih _)
      · split
        · exact Nat.le_succ_of_le (ih _)
        · exact Nat.le_refl _

theorem length_skipBlanks_le (verbose : Bool) (text : List Char) :
    (skipBlanks verbose text).length ≤ text.length := by
  cases verbose with
  | true => exact length_skipBlanks_go_le false text
  | false => exact Nat.le_refl _

theorem length_lt_of_skipBlanks {verbose : Bool} {text rest : List Char} {c : Char}
    (h : skipBlanks verbose text = c :: rest) : rest.length < text.length := by
  have := length_skipBlanks_le verbose text
  rwa [h] at this

theorem skipBlanks_go_append {inComment : Bool} {text rest : List Char} {c : Char}
    (h : skipBlanks.go inComment text = c :: rest) (tail : List Char) :
    skipBlanks.go inComment (text ++ tail) = c :: (rest ++ tail) := by
  induction text generalizing inComment with
  | nil => cases inComment <;> cases h
  | cons d text ih =>
    cases inComment with
    | true => exact ih h
    | false =>
      simp only [List.cons_append, skipBlanks.go] at h ⊢
      split at h
      · next hblank => rw [if_pos hblank, ih h]
      · next hblank =>
        rw [if_neg hblank]
        split at h
        · next hmark => rw [if_pos hmark, ih h]
        · next hmark =>
          obtain ⟨rfl, rfl⟩ := List.cons.inj h
          rw [if_neg hmark]

/-- Blanks and comments that end are skipped in the same way from a longer text. -/
theorem skipBlanks_append {verbose : Bool} {text rest : List Char} {c : Char}
    (h : skipBlanks verbose text = c :: rest) (tail : List Char) :
    skipBlanks verbose (text ++ tail) = c :: (rest ++ tail) := by
  cases verbose with
  | true => exact skipBlanks_go_append h tail
  | false =>
    obtain rfl : text = c :: rest := h
    rfl

/-- Whether a text of blanks and comments ends within a comment; `inComment` if it begins in one. -/
def endsCommented (inComment : Bool) : List Char → Bool
  | [] => inComment
  | c :: rest => endsCommented (if inComment then c ≠ '\n' else c = '#') rest

theorem skipBlanks_go_append_closing {inComment : Bool} {text : List Char}
    (h : skipBlanks.go inComment text = []) :
    skipBlanks.go inComment (text ++ closing) =
      if endsCommented inComment text then [] else closing := by
  induction text generalizing inComment with
  | nil => cases inComment <;> rfl
  | cons c text ih =>
    cases inComment with
    | true => exact ih h
    | false =>
      simp only [List.cons_append, skipBlanks.go] at h ⊢
      split at h
      · next hblank =>
        have hmark : c ≠ '#' := by
          rintro rfl
          exact absurd hblank (by decide)
        rw [if_pos hblank, ih h, endsCommented]
        simp [hmark]
      · next hblank =>
        split at h
        · next hmark =>
          rw [if_neg hblank, if_pos hmark, ih h, endsCommented]
          simp [hmark]
        · cases h

/-- What is put behind blanks and comments is taken by a comment that is open there. -/
theorem skipBlanks_append_closing {verbose : Bool} {text : List Char}
    (h : skipBlanks verbose text = []) :
    skipBlanks verbose (text ++ closing) =
      if verbose && endsCommented false text then [] else closing := by
  cases verbose with
  | true => exact skipBlanks_go_append_closing h
  | false =>
    obtain rfl : text = [] := h
    rfl

/-- Behind the blanks, a longer text begins with no other character than the shorter one, unless that
is the parenthesis. -/
theorem skipBlanks_append_ne {verbose : Bool} {text : List Char} {c : Char} (hc : c ≠ ')')
    (h : ∀ rest, skipBlanks verbose text ≠ c :: rest) (rest : List Char) :
    skipBlanks verbose (text ++ closing) ≠ c :: rest := by
  intro heq
  cases hs : skipBlanks verbose text with
  | nil =>
    rw [skipBlanks_append_closing hs] at heq
    split at heq
    · cases heq
    · exact hc (List.cons.inj heq).1.symm
  | cons d left =>
    rw [skipBlanks_append hs] at heq
    exact h left (by rw [hs, (List.cons.inj heq).1])

theorem dropWhile_isBlank_append (text : List Char) :
    (text ++ closing).dropWhile isBlank = text.dropWhile isBlank ++ closing := by
  rw [List.dropWhile_append]
  cases text.dropWhile isBlank with
  | nil => rfl
  | cons c rest => rfl

/-- Characters are taken in the same way if something is left behind them. -/
theorem spanSkipping_append {verbose : Bool} {p : Char → Bool} {n m : Nat}
    {text taken left : List Char} {c : Char} (hn : text.length ≤ n)
    (hm : (text ++ closing).length ≤ m) (h : spanSkipping verbose p n text = (taken, c :: left)) :
    spanSkipping verbose p m (text ++ closing) = (taken, c :: (left ++ closing)) := by
  induction n generalizing m text taken with
  | zero =>
    obtain rfl := List.length_eq_zero_iff.mp (Nat.le_zero.mp hn)
    cases h
  | succ n ih =>
    cases text with
    | nil => cases h
    | cons d rest =>
      obtain ⟨m, rfl⟩ : ∃ k, m = k + 1 := Nat.exists_eq_add_one.mpr (by simp at hm; omega)
      simp only [spanSkipping, List.cons_append] at h ⊢
      split at h
      · next hd =>
        obtain ⟨rfl, hleft⟩ := Prod.mk.inj h
        rw [if_pos hd]
        cases hs : skipBlanks verbose rest with
        | nil =>
          rw [hs] at hleft
          cases n <;> cases hleft
        | cons e s =>
          have hlen := length_lt_of_skipBlanks hs
          have hrest : spanSkipping verbose p n (e :: s) =
              ((spanSkipping verbose p n (e :: s)).1, c :: left) := Prod.ext rfl (hs ▸ hleft)
          simp only [List.length_cons, List.length_append] at hn hm
          rw [skipBlanks_append hs, ← List.cons_append, ih (by rw [List.length_cons]; omega)
            (by rw [List.length_append, List.length_cons]; omega) hrest]
      · next hd =>
        obtain ⟨rfl, heq⟩ := Prod.mk.inj h
        obtain ⟨rfl, rfl⟩ := List.cons.inj heq
        rw [if_neg hd]

theorem spanText_append {verbose : Bool} {p : Char → Bool} {text taken left : List Char} {c : Char}
    (h : spanText verbose p text = (taken, c :: left)) :
    spanText verbose p (text ++ closing) = (taken, c :: (left ++ closing)) :=
  spanSkipping_append (Nat.le_refl _) (Nat.le_refl _) h

theorem length_spanSkipping_le (verbose : Bool) (p : Char → Bool) (n : Nat) (text : List Char) :
    (spanSkipping verbose p n text).2.length ≤ text.length := by
  induction n generalizing text with
  | zero => exact Nat.le_refl _
  | succ n ih =>
    cases text with
    | nil => exact Nat.le_refl _
    | cons c rest =>
      simp only [spanSkipping]
      split
      · exact Nat.le_trans (ih _) (Nat.le_succ_of_le (length_skipBlanks_le verbose rest))
      · exact Nat.le_refl _

theorem length_lt_of_spanText {verbose : Bool} {p : Char → Bool} {text taken left : List Char}
    {c : Char} (h : spanText verbose p text = (taken, c :: left)) : left.length < text.length := by
  have := length_spanSkipping_le verbose p text.length text
  rwa [← spanText, h] at this

/-! ## Escapes -/

theorem steady_readHexDigits (verbose : Bool) (n value : Nat) :
    Steady (readHexDigits verbose n value) := by
  intro text
  induction n generalizing value text with
  | zero => exact .ok (Nat.le_refl _)
  | succ n ih =>
    simp only [readHexDigits]
    cases hs : skipBlanks verbose text with
    | nil => exact .error
    | cons c rest =>
      rw [skipBlanks_append hs]
      simp only
      split
      · exact (ih _ rest).mono (Nat.le_of_lt (length_lt_of_skipBlanks hs))
      · exact .error

theorem steady_readHex (verbose : Bool) (digits : Nat) : Steady (readHex verbose digits) := by
  intro text
  unfold readHex
  cases hs : skipBlanks verbose text with
  | nil => exact .error
  | cons c rest =>
    have hlen := length_lt_of_skipBlanks hs
    rw [skipBlanks_append hs]
    by_cases hb : c = '{'
    · subst hb
      simp only
      cases hr : skipBlanks verbose rest with
      | nil => exact .error
      | cons d inner =>
        have hinner := length_lt_of_skipBlanks hr
        rw [skipBlanks_append hr, ← List.cons_append]
        cases hspan : spanText verbose isHexDigit (d :: inner) with
        | mk hex left =>
          cases left with
          | nil => exact .error
          | cons e left =>
            have hleft := length_lt_of_spanText hspan
            rw [spanText_append hspan]
            by_cases he : e = '}'
            · subst he
              simp only
              split
              · exact .error
              · split
                · rw [List.length_cons] at hleft
                  exact .ok (by omega)
                · exact .error
            · simp only [List.cons.injEq, he, false_and, imp_self, implies_true]
              exact .error
    · simp only [List.cons.injEq, hb, false_and, imp_self, implies_true]
      refine ((steady_readHexDigits verbose digits 0 (c :: rest)).mono hlen).bind
        fun value left hlen => ?_
      cases scalar? value with
      | some c => exact .ok hlen
      | none => exact .error

theorem steady_readProperty (verbose negated : Bool) : Steady (readProperty verbose negated) := by
  intro text
  unfold readProperty
  cases hs : skipBlanks verbose text with
  | nil => exact .error
  | cons c rest =>
    have hlen := length_lt_of_skipBlanks hs
    rw [skipBlanks_append hs]
    by_cases hb : c = '{'
    · subst hb
      simp only
      cases hr : skipBlanks verbose rest with
      | nil => exact .error
      | cons d inner =>
        have hinner := length_lt_of_skipBlanks hr
        rw [skipBlanks_append hr, ← List.cons_append]
        cases hspan : spanText verbose (· ≠ '}') (d :: inner) with
        | mk query left =>
          cases left with
          | nil => exact .error
          | cons e left =>
            have hleft := length_lt_of_spanText hspan
            rw [List.length_cons] at hleft
            rw [spanText_append hspan]
            exact .ok (by omega)
    · by_cases he : c = '\\'
      · subst he
        exact .error
      · simp only
        exact .ok (Nat.le_of_lt hlen)

theorem steady_readBoundary (verbose : Bool) : Steady (readBoundary verbose) := by
  intro text
  unfold readBoundary
  cases text with
  | nil => exact .ok (Nat.le_refl _)
  | cons c rest =>
    by_cases hb : c = '{'
    · subst hb
      simp only [List.cons_append]
      cases hs : skipBlanks verbose rest with
      | nil => exact .error
      | cons d inner =>
        have hinner := length_lt_of_skipBlanks hs
        rw [skipBlanks_append hs]
        simp only
        split
        · cases hspan : spanText verbose isBoundaryNameChar (d :: inner) with
          | mk name left =>
            cases left with
            | nil => exact .error
            | cons e left =>
              have hleft := length_lt_of_spanText hspan
              rw [← List.cons_append, spanText_append hspan]
              by_cases he : e = '}'
              · subst he
                have hle : left.length ≤ ('{' :: rest).length := by
                  simp only [List.length_cons] at hleft ⊢
                  omega
                simp only
                split
                all_goals first
                  | exact .ok hle
                  | exact .error
              · simp only [List.cons.injEq, he, false_and, imp_self, implies_true,
                  Prod.mk.injEq, and_false]
                exact .error
        · exact .ok (Nat.le_refl _)
    · simp only [List.cons_append, List.cons.injEq, hb, false_and, imp_self, implies_true]
      exact .ok (Nat.le_refl _)

theorem steady_readEscape (verbose : Bool) : Steady (readEscape verbose) := by
  intro text
  cases text with
  | nil => exact .error
  | cons c rest =>
    have hle : rest.length ≤ (c :: rest).length := Nat.le_succ _
    simp only [readEscape, List.cons_append]
    split
    · exact .error
    · split
      case h_1 | h_2 | h_3 => exact ((steady_readHex verbose _ rest).mono hle).map _
      case h_4 | h_5 => exact ((steady_readProperty verbose _ rest).mono hle).map _
      case h_20 => exact ((steady_readBoundary verbose rest).mono hle).map _
      case h_24 =>
        split
        · exact .ok hle
        · exact .error
      all_goals exact .ok hle

end Telemetry.Regex
