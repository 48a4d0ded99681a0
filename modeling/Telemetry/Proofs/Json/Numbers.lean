import Telemetry.Json.Skip

/-!
# Passing over numbers that were written

Every number is written in the form that JSON asks for: digits without a needless zero in front,
then perhaps a fraction and an exponent. So it is passed over to its end. Main statements:
`text_cases` and `skipNumber_append`.
-/

namespace Telemetry.Json

/-! ## The form of numbers -/

/-- What may stand behind a value: nothing, or what ends an item of a list or an object. -/
def Delimits : List Char → Prop
  | [] => True
  | c :: _ => c = ',' ∨ c = ']' ∨ c = '}'

/-- Some digits. -/
def IsDigits (text : List Char) : Prop := text ≠ [] ∧ ∀ c ∈ text, c.isDigit = true

/-- The fraction of a number, if it has one. -/
inductive IsFraction : List Char → Prop where
  | none : IsFraction []
  | some {digits : List Char} : IsDigits digits → IsFraction ('.' :: digits)

/-- The exponent of a number, if it has one. -/
inductive IsScale : List Char → Prop where
  | none : IsScale []
  | some {sign : Char} {digits : List Char} : sign = '+' ∨ sign = '-' → IsDigits digits →
      IsScale ('e' :: sign :: digits)

/-- A number without a sign. -/
inductive IsUnsigned : List Char → Prop where
  | intro {whole fraction scale : List Char} : IsDigits whole →
      (whole.head? = some '0' → whole = ['0']) → IsFraction fraction → IsScale scale →
        IsUnsigned (whole ++ (fraction ++ scale))

theorem IsUnsigned.exists_cons {text : List Char} (h : IsUnsigned text) :
    ∃ c rest, text = c :: rest ∧ c.isDigit = true := by
  obtain ⟨⟨hne, hdigits⟩, -, -, -⟩ := h
  obtain ⟨c, whole, rfl⟩ := List.exists_cons_of_ne_nil hne
  exact ⟨c, _, rfl, hdigits c List.mem_cons_self⟩

/-! ## Passing over -/

/-- A text that does not begin with a digit. -/
def EndsDigits (text : List Char) : Prop := ∀ c ∈ text.head?, c.isDigit = false

theorem endsDigits_cons {c : Char} (h : c.isDigit = false) (text : List Char) :
    EndsDigits (c :: text) := by
  rintro d hd
  rwa [← Option.some.inj hd]

theorem Delimits.endsDigits {rest : List Char} (h : Delimits rest) : EndsDigits rest := by
  cases rest with
  | nil => rintro c ⟨⟩
  | cons c rest =>
    refine endsDigits_cons ?_ rest
    rcases h with rfl | rfl | rfl <;> decide

theorem IsScale.endsDigits {scale rest : List Char} (h : IsScale scale) (hrest : Delimits rest) :
    EndsDigits (scale ++ rest) := by
  cases h with
  | none => exact hrest.endsDigits
  | some => exact endsDigits_cons (by decide) _

theorem IsFraction.endsDigits {fraction rest : List Char} (h : IsFraction fraction)
    (hrest : EndsDigits rest) : EndsDigits (fraction ++ rest) := by
  cases h with
  | none => exact hrest
  | some => exact endsDigits_cons (by decide) _

theorem dropWhile_digits {digits rest : List Char} (h : ∀ c ∈ digits, c.isDigit = true)
    (hrest : EndsDigits rest) : (digits ++ rest).dropWhile Char.isDigit = rest := by
  rw [List.dropWhile_append_of_pos h]
  cases rest with
  | nil => rfl
  | cons c rest =>
    have hc : c.isDigit = false := hrest c rfl
    rw [List.dropWhile_cons_of_neg (by simp [hc])]

theorem skipScale_append {scale rest : List Char} (h : IsScale scale) (hrest : Delimits rest) :
    skipScale (scale ++ rest) = .ok rest := by
  cases h with
  | none =>
    cases rest with
    | nil => rfl
    | cons c rest => rcases hrest with rfl | rfl | rfl <;> rfl
  | some hsign hdigits =>
    rename_i sign digits
    obtain ⟨hne, hdigits⟩ := hdigits
    cases digits with
    | nil => exact absurd rfl hne
    | cons c digits =>
      obtain ⟨hc, hdigits⟩ := List.forall_mem_cons.mp hdigits
      have hdrop := dropWhile_digits hdigits hrest.endsDigits
      rcases hsign with rfl | rfl <;> simp [skipScale, skipExponent, hc, hdrop]

/-- Passes over what may stand behind the first digits of a number. -/
def skipFraction (text : List Char) : Except Located (List Char) :=
  match text with
  | '.' :: decimals =>
    match decimals with
    | d :: _ =>
      if d.isDigit then skipScale (decimals.dropWhile Char.isDigit)
      else .error (Fault.invalidNumber.at decimals)
    | [] => .error (Fault.invalidNumber.at [])
  | left => skipScale left

theorem skipNumber_digits {whole text : List Char} (h : IsDigits whole)
    (hzero : whole.head? = some '0' → whole = ['0']) (htext : EndsDigits text) :
    skipNumber (whole ++ text) = skipFraction text := by
  obtain ⟨hne, hdigits⟩ := h
  cases whole with
  | nil => exact absurd rfl hne
  | cons c whole =>
    obtain ⟨hc, hdigits⟩ := List.forall_mem_cons.mp hdigits
    have hlead : (decide (c = '0') && (whole ++ text).head?.any Char.isDigit) = false := by
      by_cases hc0 : c = '0'
      · subst hc0
        obtain rfl : whole = [] := (List.cons.inj (hzero rfl)).2
        rw [List.nil_append]
        cases hhead : text.head? with
        | none => rfl
        | some d => simp [htext d hhead]
      · simp [hc0]
    rw [List.cons_append, skipNumber, hc, hlead, dropWhile_digits hdigits htext]
    rfl

/-- A number is passed over from behind its sign. -/
theorem skipNumber_append {text rest : List Char} (h : IsUnsigned text) (hrest : Delimits rest) :
    skipNumber (text ++ rest) = .ok rest := by
  obtain ⟨hwhole, hzero, hfraction, hscale⟩ := h
  have hscaleEnds := hscale.endsDigits hrest
  have hskip := skipScale_append hscale hrest
  rw [List.append_assoc, List.append_assoc,
    skipNumber_digits hwhole hzero (hfraction.endsDigits hscaleEnds)]
  cases hfraction with
  | none =>
    cases hscale with
    | none =>
      cases rest with
      | nil => rfl
      | cons c rest => rcases hrest with rfl | rfl | rfl <;> rfl
    | some => exact hskip
  | some hdigits =>
    rename_i digits
    obtain ⟨hne, hdigits⟩ := hdigits
    cases digits with
    | nil => exact absurd rfl hne
    | cons d digits =>
      have hdrop := dropWhile_digits hdigits hscaleEnds
      have hd : d.isDigit = true := hdigits d List.mem_cons_self
      rw [List.cons_append] at hdrop
      rw [List.cons_append, List.cons_append, skipFraction, if_pos hd, hdrop]
      exact hskip

/-! ## Writing -/

theorem isDigits_toDigits (n : Nat) : IsDigits (Nat.toDigits 10 n) :=
  ⟨Nat.toDigits_ne_nil, fun _ hc => Nat.isDigit_of_mem_toDigits (by decide) (by decide) hc⟩

/-- Only zero is written with a zero in front. -/
theorem head?_toDigits_ne {n : Nat} (h : n ≠ 0) : (Nat.toDigits 10 n).head? ≠ some '0' := by
  induction n using Nat.strongRecOn with
  | _ n ih =>
    by_cases hn : n < 10
    · have hdigit : ∀ k < 10, k ≠ 0 → Nat.digitChar k ≠ '0' := by decide
      rw [Nat.toDigits_of_lt_base hn]
      exact fun heq => hdigit n hn h (Option.some.inj heq)
    · rw [Nat.toDigits_of_base_le (by decide) (Nat.not_lt.mp hn),
        List.head?_append, Option.or_of_isSome (by simp [Nat.toDigits_ne_nil])]
      exact ih (n / 10) (by omega) (by omega)

theorem isUnsigned_toDigits (n : Nat) : IsUnsigned (Nat.toDigits 10 n) := by
  have hzero : (Nat.toDigits 10 n).head? = some '0' → Nat.toDigits 10 n = ['0'] := by
    intro hhead
    by_cases hn : n = 0
    · rw [hn]
      rfl
    · exact absurd hhead (head?_toDigits_ne hn)
  have h := IsUnsigned.intro (isDigits_toDigits n) hzero .none .none
  rwa [List.append_nil, List.append_nil] at h

theorem toList_toString_nat (n : Nat) : (toString n).toList = Nat.toDigits 10 n := by
  rw [Nat.toString_eq_ofList_toDigits, String.toList_ofList]

/-- An integer that is not negative is written without a sign. -/
theorem toList_toString_ofNat (n : Nat) : (toString (n : Int)).toList = Nat.toDigits 10 n :=
  toList_toString_nat n

theorem toList_toString_negSucc (n : Nat) :
    (toString (Int.negSucc n)).toList = '-' :: Nat.toDigits 10 (n + 1) := by
  change ("-" ++ Nat.repr (n + 1)).toList = _
  rw [String.toList_append, ← toList_toString_nat]
  rfl

/-- The exponent that a double may be written with. -/
theorem isScale_exponent (leading : Int) :
    IsScale ("e" ++ (if 0 ≤ leading then "+" else "") ++ toString leading).toList := by
  cases leading with
  | ofNat n =>
    rw [if_pos (show 0 ≤ Int.ofNat n from Int.natCast_nonneg n), String.toList_append]
    exact toList_toString_ofNat n ▸ .some (.inl rfl) (isDigits_toDigits n)
  | negSucc n =>
    rw [if_neg (by omega), String.toList_append, toList_toString_negSucc]
    exact .some (.inr rfl) (isDigits_toDigits (n + 1))

theorem IsDigits.cons {c : Char} {text : List Char} (hc : c.isDigit = true)
    (h : ∀ d ∈ text, d.isDigit = true) : IsDigits (c :: text) :=
  ⟨List.cons_ne_nil c text, List.forall_mem_cons.mpr ⟨hc, h⟩⟩

theorem isDigits_zero : IsDigits ['0'] := .cons (by decide) (by simp)

theorem isDigit_of_mem_zeros {k : Nat} {c : Char} (h : c ∈ List.replicate k '0') :
    c.isDigit = true := by
  rw [List.eq_of_mem_replicate h]
  decide

section Layouts

variable {c : Char} {digits : List Char} (hc : c.isDigit = true) (hc0 : c ≠ '0')
  (hdigits : ∀ d ∈ digits, d.isDigit = true)

include hc hc0 hdigits

theorem isUnsigned_cons {fraction scale : List Char} (hfraction : IsFraction fraction)
    (hscale : IsScale scale) : IsUnsigned (c :: digits ++ (fraction ++ scale)) :=
  .intro (.cons hc hdigits) (fun heq => absurd (Option.some.inj heq) hc0) hfraction hscale

/-- A whole number, with zeros at its end. -/
theorem isUnsigned_whole (k : Nat) :
    IsUnsigned (c :: digits ++ List.replicate k '0' ++ ['.', '0']) := by
  have hall : ∀ d ∈ digits ++ List.replicate k '0', d.isDigit = true := fun d hd =>
    (List.mem_append.mp hd).elim (hdigits d) isDigit_of_mem_zeros
  exact isUnsigned_cons hc hc0 hall (.some isDigits_zero) .none

/-- A number with its point between two of its digits. -/
theorem isUnsigned_split {k : Nat} (h : k < digits.length) :
    IsUnsigned ((c :: digits).take (k + 1) ++ '.' :: (c :: digits).drop (k + 1)) := by
  have hfraction : IsDigits (digits.drop k) :=
    ⟨fun heq => absurd (List.drop_eq_nil_iff.mp heq) (Nat.not_le.mpr h),
      fun d hd => hdigits d (List.mem_of_mem_drop hd)⟩
  have hwhole : ∀ d ∈ digits.take k, d.isDigit = true := fun d hd =>
    hdigits d (List.mem_of_mem_take hd)
  have hsplit := isUnsigned_cons hc hc0 hwhole (.some hfraction) .none
  rwa [List.append_nil] at hsplit

omit hc0 in
/-- A number below one. -/
theorem isUnsigned_below (k : Nat) :
    IsUnsigned (['0', '.'] ++ List.replicate k '0' ++ (c :: digits)) := by
  have hall : IsDigits (List.replicate k '0' ++ (c :: digits)) :=
    ⟨by simp, fun d hd => (List.mem_append.mp hd).elim isDigit_of_mem_zeros
      ((IsDigits.cons hc hdigits).2 d)⟩
  have hbelow := IsUnsigned.intro isDigits_zero (fun _ => rfl) (.some hall) .none
  rw [List.append_nil] at hbelow
  rwa [List.append_assoc]

/-- A number with an exponent. -/
theorem isUnsigned_scaled {scale : List Char} (hscale : IsScale scale) :
    IsUnsigned ((match c :: digits with
      | [] => []
      | [c] => [c]
      | c :: rest => c :: '.' :: rest) ++ scale) := by
  cases digits with
  | nil => exact isUnsigned_cons hc hc0 hdigits .none hscale
  | cons d digits =>
    obtain ⟨hd, hdigits⟩ := List.forall_mem_cons.mp hdigits
    have hnone : ∀ d ∈ ([] : List Char), d.isDigit = true := by simp
    exact isUnsigned_cons hc hc0 hnone (.some (.cons hd hdigits)) hscale

end Layouts

/-- A decimal is written as a number, with a point or an exponent or both. -/
theorem isUnsigned_write (d : Decimal.Scaled) : IsUnsigned (floatNotation.write d).toList := by
  unfold Decimal.Notation.write
  by_cases hzero : d.digits = 0
  · rw [if_pos hzero]
    exact .intro isDigits_zero (fun _ => rfl) (.some isDigits_zero) .none
  · have hhead := head?_toDigits_ne hzero
    obtain ⟨hne, hall⟩ := isDigits_toDigits d.digits
    simp only [if_neg hzero]
    generalize Nat.toDigits 10 d.digits = digits at *
    cases digits with
    | nil => exact absurd rfl hne
    | cons c digits =>
      obtain ⟨hc, hdigits⟩ := List.forall_mem_cons.mp hall
      have hc0 : c ≠ '0' := fun heq => hhead (congrArg some heq)
      split
      · split
        · rw [String.toList_append, String.toList_ofList]
          exact isUnsigned_whole hc hc0 hdigits _
        · next hexponent =>
          split
          · next hleading =>
            rw [String.toList_ofList]
            refine isUnsigned_split hc hc0 hdigits ?_
            rw [List.length_cons] at hleading ⊢
            omega
          · rw [String.toList_ofList]
            exact isUnsigned_below hc hdigits _
      · rw [String.append_assoc, String.append_assoc, String.toList_append, String.toList_ofList,
          ← String.append_assoc]
        exact isUnsigned_scaled hc hc0 hdigits (isScale_exponent _)

/-- A number is written as `null`, or with digits behind a sign or without one. -/
theorem text_cases (n : Number) :
    n.text = "null" ∨ IsUnsigned n.text.toList ∨
      ∃ text, IsUnsigned text ∧ n.text.toList = '-' :: text := by
  cases n with
  | integer n =>
    cases n with
    | ofNat n => exact .inr (.inl (toList_toString_ofNat n ▸ isUnsigned_toDigits n))
    | negSucc n => exact .inr (.inr ⟨_, isUnsigned_toDigits (n + 1), toList_toString_negSucc n⟩)
  | float bits =>
    rw [Number.text, floatText]
    split
    · exact .inl rfl
    · rw [String.toList_append]
      split
      · exact .inr (.inr ⟨_, isUnsigned_write _, rfl⟩)
      · exact .inr (.inl (isUnsigned_write _))

end Telemetry.Json
