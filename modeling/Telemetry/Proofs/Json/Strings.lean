import Telemetry.Json.Skip

/-!
# Reading strings that were written

A string is read from its JSON text as it was, whatever stands behind its closing quote, and is
passed over to the same place. Main statements: `readString_chars` and `skipString_chars`.
-/

namespace Telemetry.Json

/-! ## Characters -/

/-- The digits of a control character behind `\u`, with what they stand for. -/
theorem hexDigits_control : ∀ k < 32,
    (if k < 16 then ['0'] else []) ++ Text.hexDigits k =
        [Nat.digitChar (k / 16), Nat.digitChar (k % 16)] ∧
      hexValue? (Nat.digitChar (k / 16)) = some (k / 16) ∧
      hexValue? (Nat.digitChar (k % 16)) = some (k % 16) := by
  decide +kernel

/-- How a character stands in a JSON string: as it is, behind a backslash, or by its number. -/
theorem escapeChar_cases (c : Char) :
    (escapeChar c = [c] ∧ c ≠ '"' ∧ c ≠ '\\' ∧ ¬ c.toNat < 32) ∨
      (∃ x, escapeChar c = ['\\', x] ∧ x ≠ 'u' ∧ ∀ rest, readEscape (x :: rest) = .ok (c, rest)) ∨
      (c.toNat < 32 ∧ escapeChar c =
        ['\\', 'u', '0', '0', Nat.digitChar (c.toNat / 16), Nat.digitChar (c.toNat % 16)]) := by
  unfold escapeChar
  split
  · exact .inr (.inl ⟨'"', rfl, by decide, fun _ => rfl⟩)
  · exact .inr (.inl ⟨'\\', rfl, by decide, fun _ => rfl⟩)
  · exact .inr (.inl ⟨'n', rfl, by decide, fun _ => rfl⟩)
  · exact .inr (.inl ⟨'r', rfl, by decide, fun _ => rfl⟩)
  · exact .inr (.inl ⟨'t', rfl, by decide, fun _ => rfl⟩)
  · exact .inr (.inl ⟨'b', rfl, by decide, fun _ => rfl⟩)
  · exact .inr (.inl ⟨'f', rfl, by decide, fun _ => rfl⟩)
  · next hquote hbackslash _ _ _ _ _ =>
    split
    · next hcontrol =>
      refine .inr (.inr ⟨hcontrol, ?_⟩)
      rw [List.append_assoc, (hexDigits_control c.toNat hcontrol).1]
      rfl
    · next hcontrol => exact .inl ⟨rfl, hquote, hbackslash, hcontrol⟩

theorem readHexEscape_control {k : Nat} (h : k < 32) (rest : List Char) :
    readHexEscape ('0' :: '0' :: Nat.digitChar (k / 16) :: Nat.digitChar (k % 16) :: rest) =
      .ok (k, rest) := by
  obtain ⟨-, hfirst, hsecond⟩ := hexDigits_control k h
  have hzero : hexValue? '0' = some 0 := by decide
  have hbytes (a b c d : Char) : ¬ Text.byteLength (a :: b :: c :: d :: rest) < 4 := by
    have hsize (c : Char) : 1 ≤ c.utf8Size := c.utf8Size_pos
    have := hsize a
    have := hsize b
    have := hsize c
    have := hsize d
    simp only [Text.byteLength_cons]
    omega
  have hvalue : ((0 * 16 + 0) * 16 + k / 16) * 16 + k % 16 = k := by omega
  simp only [readHexEscape, hzero, hfirst, hsecond, if_neg (hbytes _ _ _ _), hvalue]

theorem readEscape_control {c : Char} (h : c.toNat < 32) (rest : List Char) :
    readEscape ('u' :: '0' :: '0' :: Nat.digitChar (c.toNat / 16) ::
      Nat.digitChar (c.toNat % 16) :: rest) = .ok (c, rest) := by
  have hlone : ¬ (0xDC00 ≤ c.toNat ∧ c.toNat ≤ 0xDFFF) := by omega
  have hsingle : c.toNat < 0xD800 ∨ 0xDBFF < c.toNat := by omega
  have hread : readUnicodeEscape ('0' :: '0' :: Nat.digitChar (c.toNat / 16) ::
      Nat.digitChar (c.toNat % 16) :: rest) = .ok (Char.ofNat c.toNat, rest) := by
    rw [readUnicodeEscape, readHexEscape_control h]
    change (if _ then _ else _) = _
    rw [if_neg hlone, if_pos hsingle]
    rfl
  rw [Char.ofNat_toNat] at hread
  exact hread

/-! ## Strings -/

/-- The characters of a string behind its opening quote. -/
def stringRest (text : List Char) : List Char := text.flatMap escapeChar ++ ['"']

theorem toList_stringText (s : String) : (stringText s).toList = '"' :: stringRest s.toList := by
  rw [stringText, String.toList_ofList]
  rfl

theorem stringRest_cons (c : Char) (text rest : List Char) :
    stringRest (c :: text) ++ rest = escapeChar c ++ (stringRest text ++ rest) := by
  simp [stringRest]

theorem length_lt_stringRest (text : List Char) : text.length < (stringRest text).length := by
  induction text with
  | nil => exact Nat.zero_lt_one
  | cons c text ih =>
    have hc : 1 ≤ (escapeChar c).length := by
      rcases escapeChar_cases c with ⟨h, -⟩ | ⟨x, h, -⟩ | ⟨-, h⟩ <;> simp [h]
    have hcons := congrArg List.length (stringRest_cons c text [])
    simp only [List.append_nil, List.length_append] at hcons
    rw [List.length_cons]
    omega

/-! ## Reading -/

theorem readStringFrom_escape {c : Char} {text left : List Char}
    (h : readEscape text = .ok (c, left)) (n : Nat) (seen : List Char) :
    readStringFrom (n + 1) seen ('\\' :: text) = readStringFrom n (c :: seen) left := by
  rw [readStringFrom, if_neg (by decide), if_pos rfl, h]

theorem readStringFrom_chars (text seen rest : List Char) {n : Nat} (hn : text.length < n) :
    readStringFrom n seen (stringRest text ++ rest) =
      .ok (String.ofList (seen.reverse ++ text), rest) := by
  induction text generalizing n seen with
  | nil =>
    obtain ⟨n, rfl⟩ : ∃ k, n = k + 1 := Nat.exists_eq_add_one.mpr hn
    rw [List.append_nil]
    rfl
  | cons c text ih =>
    obtain ⟨n, rfl⟩ : ∃ k, n = k + 1 := Nat.exists_eq_add_one.mpr (Nat.zero_lt_of_lt hn)
    have hnext := ih (c :: seen) (Nat.lt_of_succ_lt_succ hn)
    rw [List.reverse_cons, List.append_assoc, List.singleton_append] at hnext
    rw [stringRest_cons, ← hnext]
    rcases escapeChar_cases c with ⟨h, hquote, hbackslash, hcontrol⟩ | ⟨x, h, -, hread⟩ | ⟨hc, h⟩
    · rw [h, List.singleton_append, readStringFrom, if_neg hquote, if_neg hbackslash,
        if_neg hcontrol]
    · rw [h]
      exact readStringFrom_escape (hread _) n seen
    · rw [h]
      exact readStringFrom_escape (readEscape_control hc _) n seen

/-- A string is read back from behind its opening quote. -/
theorem readString_chars (s : String) (rest : List Char) :
    readString (stringRest s.toList ++ rest) = .ok (s, rest) := by
  have hlength := length_lt_stringRest s.toList
  rw [readString, readStringFrom_chars]
  · rw [List.reverse_nil, List.nil_append, String.ofList_toList]
  · rw [List.length_append]
    omega

/-! ## Passing over -/

theorem skipString_plain {c : Char} (hquote : c ≠ '"') (hbackslash : c ≠ '\\')
    (hcontrol : ¬ c.toNat < 32) (n : Nat) (text : List Char) :
    skipString (n + 1) (c :: text) = skipString n text := by
  conv => lhs; unfold skipString
  rw [if_neg hquote, if_neg hbackslash, if_neg hcontrol]

theorem skipString_escape {x c : Char} (hx : x ≠ 'u') {text left : List Char}
    (h : readEscape (x :: text) = .ok (c, left)) (n : Nat) :
    skipString (n + 1) ('\\' :: x :: text) = skipString n left := by
  conv => lhs; unfold skipString
  rw [if_neg (by decide), if_pos rfl]
  split
  · next heq => exact absurd (List.cons.inj heq).1 hx
  · simp only [h]

theorem skipString_number {k : Nat} {text left : List Char}
    (h : readHexEscape text = .ok (k, left)) (n : Nat) :
    skipString (n + 1) ('\\' :: 'u' :: text) = skipString n left := by
  conv => lhs; unfold skipString
  rw [if_neg (by decide), if_pos rfl]
  simp only [h]

theorem skipString_of_length_lt (text rest : List Char) {n : Nat} (hn : text.length < n) :
    skipString n (stringRest text ++ rest) = .ok rest := by
  induction text generalizing n with
  | nil =>
    obtain ⟨n, rfl⟩ : ∃ k, n = k + 1 := Nat.exists_eq_add_one.mpr hn
    rfl
  | cons c text ih =>
    obtain ⟨n, rfl⟩ : ∃ k, n = k + 1 := Nat.exists_eq_add_one.mpr (Nat.zero_lt_of_lt hn)
    rw [stringRest_cons, ← ih (Nat.lt_of_succ_lt_succ hn)]
    rcases escapeChar_cases c with ⟨h, hquote, hbackslash, hcontrol⟩ | ⟨x, h, hu, hread⟩ | ⟨hc, h⟩
    · rw [h]
      exact skipString_plain hquote hbackslash hcontrol n _
    · rw [h]
      exact skipString_escape hu (hread _) n
    · rw [h]
      exact skipString_number (readHexEscape_control hc _) n

/-- A string is passed over from behind its opening quote. -/
theorem skipString_chars (text rest : List Char) :
    skipString (stringRest text ++ rest).length (stringRest text ++ rest) = .ok rest := by
  have hlength := length_lt_stringRest text
  refine skipString_of_length_lt text rest ?_
  rw [List.length_append]
  omega

end Telemetry.Json
