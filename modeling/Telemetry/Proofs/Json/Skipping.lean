import Telemetry.Proofs.Json.Numbers
import Telemetry.Proofs.Json.Strings

/-!
# Passing over values that were written

A value of any kind is passed over to its end from the text that is written for it, whatever it
holds and however deep that nests. Main statement: `skipValue_chars`.
-/

namespace Telemetry

namespace Json

/-! ## The characters of values -/

/-- The characters that are written for a value. -/
def chars (j : Json) : List Char := j.render.toList

/-- The characters that are written for a member. -/
def memberChars (m : String × Json) : List Char := '"' :: (stringRest m.1.toList ++ ':' :: m.2.chars)

/-- The characters of pieces with commas between them. -/
def listed : List (List Char) → List Char
  | [] => []
  | piece :: pieces => piece ++ pieces.flatMap (',' :: ·)

theorem length_flatMap_comma (pieces : List (List Char)) :
    (pieces.flatMap (',' :: ·)).length = pieces.flatten.length + pieces.length := by
  induction pieces with
  | nil => rfl
  | cons piece pieces ih =>
    rw [List.flatMap_cons, List.flatten_cons, List.length_append, List.length_append, ih,
      List.length_cons, List.length_cons]
    omega

theorem toList_intercalate (pieces : List String) :
    (",".intercalate pieces).toList = listed (pieces.map String.toList) := by
  have hcomma : (",".toList : List Char) = [','] := rfl
  rw [String.toList_intercalate, hcomma]
  cases pieces with
  | nil => rfl
  | cons piece pieces =>
    rw [List.map_cons, listed]
    generalize piece.toList = first
    induction pieces generalizing first with
    | nil => simp [List.intercalate]
    | cons next pieces ih =>
      have hnext := ih next.toList
      simp only [List.intercalate, List.map_cons, List.intersperse_cons_cons, List.flatten_cons,
        List.flatMap_cons] at hnext ⊢
      simp [hnext]

theorem renderItems_eq_map (items : List Json) : renderItems items = items.map render := by
  induction items with
  | nil => rfl
  | cons j items ih => rw [renderItems, ih, List.map_cons]

theorem renderMembers_eq_map (members : List (String × Json)) :
    renderMembers members = members.map (fun m => stringText m.1 ++ ":" ++ m.2.render) := by
  induction members with
  | nil => rfl
  | cons m members ih =>
    obtain ⟨key, j⟩ := m
    rw [renderMembers, ih, List.map_cons]

theorem toList_member (m : String × Json) :
    (stringText m.1 ++ ":" ++ m.2.render).toList = memberChars m := by
  have hcolon : (":".toList : List Char) = [':'] := rfl
  simp [toList_stringText, hcolon, memberChars, chars]

theorem chars_string (s : String) : (Json.string s).chars = '"' :: stringRest s.toList :=
  toList_stringText s

theorem chars_array (items : List Json) :
    (array items).chars = '[' :: (listed (items.map chars) ++ [']']) := by
  have hbrackets : "[".toList = ['['] ∧ "]".toList = [']'] := ⟨rfl, rfl⟩
  rw [chars, render, String.toList_append, String.toList_append, toList_intercalate,
    renderItems_eq_map, List.map_map, hbrackets.1, hbrackets.2]
  rfl

theorem chars_object (members : List (String × Json)) :
    (object members).chars = '{' :: (listed (members.map memberChars) ++ ['}']) := by
  have hbraces : "\x7B".toList = ['{'] ∧ "\x7D".toList = ['}'] := ⟨rfl, rfl⟩
  rw [chars, render, String.toList_append, String.toList_append, toList_intercalate,
    renderMembers_eq_map, List.map_map, hbraces.1, hbraces.2]
  simp only [Function.comp_def, toList_member]
  rfl

/-! ## The first step -/

/-- How passing over goes on: with the next item of the innermost list or object, if one is open. -/
def resume (n : Nat) (next : Parsed (List Bracket)) : Except Located (List Char) := do
  let (opened, left) := next
  match opened with
  | [] => return left
  | .list :: _ => skipWithin n opened left
  | .object :: _ => do skipWithin n opened (← skipKey left)

section

variable (n : Nat) (opened : List Bracket) (rest : List Char)

/-- A list is opened. -/
theorem skipWithin_list :
    skipWithin (n + 1) opened ('[' :: rest) = settle true (.list :: opened) rest >>= resume n :=
  rfl

/-- An object is opened. -/
theorem skipWithin_object :
    skipWithin (n + 1) opened ('{' :: rest) =
      settle true (.object :: opened) rest >>= resume n :=
  rfl

theorem skipWithin_null :
    skipWithin (n + 1) opened ('n' :: 'u' :: 'l' :: 'l' :: rest) =
      settle false opened rest >>= resume n :=
  rfl

theorem skipWithin_true :
    skipWithin (n + 1) opened ('t' :: 'r' :: 'u' :: 'e' :: rest) =
      settle false opened rest >>= resume n :=
  rfl

theorem skipWithin_false :
    skipWithin (n + 1) opened ('f' :: 'a' :: 'l' :: 's' :: 'e' :: rest) =
      settle false opened rest >>= resume n :=
  rfl

theorem skipWithin_string (text : List Char) :
    skipWithin (n + 1) opened ('"' :: (stringRest text ++ rest)) =
      settle false opened rest >>= resume n := by
  have hskip := skipString_chars text rest
  generalize stringRest text ++ rest = chars at *
  change skipString chars.length chars >>= (fun left => settle false opened left >>= resume n) = _
  rw [hskip]
  rfl

theorem skipWithin_negative {text : List Char} (h : IsUnsigned text) (hrest : Delimits rest) :
    skipWithin (n + 1) opened ('-' :: (text ++ rest)) = settle false opened rest >>= resume n := by
  have hskip := skipNumber_append h hrest
  generalize text ++ rest = chars at *
  change skipNumber chars >>= (fun left => settle false opened left >>= resume n) = _
  rw [hskip]
  rfl

theorem skipSpace_cons {c : Char} (hc : isSpace c = false) (text : List Char) :
    skipSpace (c :: text) = c :: text :=
  List.dropWhile_cons_of_neg (by simp [hc])

theorem isSpace_of_isDigit {c : Char} (hc : c.isDigit = true) : isSpace c = false := by
  simp only [isSpace, Bool.or_eq_false_iff, decide_eq_false_iff_not]
  refine ⟨⟨⟨?_, ?_⟩, ?_⟩, ?_⟩ <;> rintro rfl <;> exact absurd hc (by decide)

theorem skipWithin_digit {c : Char} (hc : c.isDigit = true) :
    skipWithin (n + 1) opened (c :: rest) =
      skipNumber (c :: rest) >>= fun left => settle false opened left >>= resume n := by
  -- The tests for brackets, letters, quotes and signs come before the one for digits.
  have hne {d : Char} (hd : d.isDigit = false) {text : List Char} : c :: rest ≠ d :: text := by
    intro heq
    rw [(List.cons.inj heq).1, hd] at hc
    exact absurd hc Bool.false_ne_true
  conv => lhs; unfold skipWithin
  rw [skipSpace_cons (isSpace_of_isDigit hc)]
  split
  case h_1 heq => exact absurd heq (List.cons_ne_nil c rest)
  case h_9 heq =>
    obtain ⟨rfl, rfl⟩ := List.cons.inj heq
    rw [if_pos hc]
    rfl
  all_goals exact absurd ‹_› (hne (by decide))

theorem skipWithin_number (m : Number) (h : Delimits rest) :
    skipWithin (n + 1) opened (m.text.toList ++ rest) = settle false opened rest >>= resume n := by
  rcases text_cases m with htext | htext | ⟨text, htext, heq⟩
  · rw [htext]
    rfl
  · obtain ⟨c, text, heq, hc⟩ := htext.exists_cons
    have hskip := skipNumber_append htext h
    rw [heq, List.cons_append] at hskip ⊢
    rw [skipWithin_digit n opened _ hc, hskip]
    rfl
  · rw [heq]
    exact skipWithin_negative n opened rest htext h

end

/-! ## Values -/

mutual

/-- The number of values in a value, itself among them. -/
def count : Json → Nat
  | null | bool _ | number _ | string _ => 1
  | array items => countItems items + 1
  | object members => countMembers members + 1

/-- The number of values in the items of an array. -/
def countItems : List Json → Nat
  | [] => 0
  | j :: items => j.count + countItems items

/-- The number of values in the members of an object. -/
def countMembers : List (String × Json) → Nat
  | [] => 0
  | (_, j) :: members => j.count + countMembers members

end

/-- A value begins with a character that is neither a blank nor ends a list. -/
theorem chars_eq_cons (j : Json) :
    ∃ c text, j.chars = c :: text ∧ isSpace c = false ∧ c ≠ ']' := by
  match j with
  | null => exact ⟨'n', _, rfl, rfl, by decide⟩
  | bool true => exact ⟨'t', _, rfl, rfl, by decide⟩
  | bool false => exact ⟨'f', _, rfl, rfl, by decide⟩
  | number m =>
    rcases text_cases m with h | h | ⟨text, -, h⟩
    · exact ⟨'n', _, congrArg String.toList h, rfl, by decide⟩
    · obtain ⟨c, text, heq, hc⟩ := h.exists_cons
      refine ⟨c, text, heq, isSpace_of_isDigit hc, ?_⟩
      rintro rfl
      exact absurd hc (by decide)
    · exact ⟨'-', text, h, rfl, by decide⟩
  | string s => exact ⟨'"', _, chars_string s, rfl, by decide⟩
  | array items => exact ⟨'[', _, chars_array items, rfl, by decide⟩
  | object members => exact ⟨'{', _, chars_object members, rfl, by decide⟩

theorem settle_first (j : Json) (outer : List Bracket) (rest : List Char) :
    settle true (.list :: outer) (j.chars ++ rest) = .ok (.list :: outer, j.chars ++ rest) := by
  obtain ⟨c, text, heq, hspace, hc⟩ := chars_eq_cons j
  conv => lhs; unfold settle
  rw [heq, List.cons_append, skipSpace_cons hspace]
  split
  case h_3 hfirst _ => exact absurd (List.cons.inj hfirst).1 hc
  case h_5 hfirst _ _ => rw [if_pos rfl, ← hfirst]
  all_goals contradiction

theorem skipKey_chars (key : String) (rest : List Char) :
    skipKey ('"' :: (stringRest key.toList ++ ':' :: rest)) = .ok rest := by
  have hskip := skipString_chars key.toList (':' :: rest)
  generalize stringRest key.toList ++ ':' :: rest = chars at *
  simp only [skipKey, skipSpace_cons (c := '"') rfl, hskip]
  rfl

theorem delimits_items (pieces : List (List Char)) (rest : List Char) :
    Delimits (pieces.flatMap (',' :: ·) ++ ']' :: rest) := by
  cases pieces with
  | nil => exact .inr (.inl rfl)
  | cons piece pieces => exact .inl rfl

theorem delimits_members (pieces : List (List Char)) (rest : List Char) :
    Delimits (pieces.flatMap (',' :: ·) ++ '}' :: rest) := by
  cases pieces with
  | nil => exact .inr (.inr rfl)
  | cons piece pieces => exact .inl rfl

mutual

/-- A value is passed over, and then what belongs to the brackets that are open around it. Of the
bound, as much is used up as there are values in it. -/
theorem skipWithin_chars (j : Json) (n : Nat) (opened : List Bracket) {rest : List Char}
    (h : Delimits rest) :
    skipWithin (j.count + n) opened (j.chars ++ rest) = settle false opened rest >>= resume n := by
  match j with
  | .null => exact Nat.add_comm n 1 ▸ skipWithin_null n opened rest
  | .bool true => exact Nat.add_comm n 1 ▸ skipWithin_true n opened rest
  | .bool false => exact Nat.add_comm n 1 ▸ skipWithin_false n opened rest
  | .number m => exact Nat.add_comm n 1 ▸ skipWithin_number n opened rest m h
  | .string s =>
    rw [chars_string, count, Nat.add_comm 1 n]
    exact skipWithin_string n opened rest s.toList
  | .array items =>
    rw [chars_array, count, Nat.add_right_comm]
    simp only [List.cons_append, List.append_assoc, List.nil_append]
    rw [skipWithin_list, ← skip_items items n opened rest]
    match items with
    | [] => rfl
    | j :: items =>
      simp only [List.map_cons, listed, List.append_assoc, List.flatMap_cons, List.cons_append]
      rw [settle_first]
      rfl
  | .object members =>
    rw [chars_object, count, Nat.add_right_comm]
    simp only [List.cons_append, List.append_assoc, List.nil_append]
    rw [skipWithin_object, ← skip_members members n opened rest]
    match members with
    | [] => rfl
    | m :: members => rfl

/-- The items of a list behind its first are passed over. -/
theorem skip_items (items : List Json) (n : Nat) (opened : List Bracket) (rest : List Char) :
    settle false (.list :: opened) ((items.map chars).flatMap (',' :: ·) ++ ']' :: rest) >>=
        resume (countItems items + n) =
      settle false opened rest >>= resume n := by
  match items with
  | [] =>
    rw [countItems, Nat.zero_add]
    rfl
  | j :: items =>
    rw [← skip_items items n opened rest, countItems, Nat.add_assoc,
      ← skipWithin_chars j _ _ (delimits_items (items.map chars) rest)]
    simp only [List.map_cons, List.flatMap_cons, List.append_assoc, List.cons_append]
    rfl

/-- The members of an object behind its first are passed over. -/
theorem skip_members (members : List (String × Json)) (n : Nat) (opened : List Bracket)
    (rest : List Char) :
    settle false (.object :: opened)
        ((members.map memberChars).flatMap (',' :: ·) ++ '}' :: rest) >>=
        resume (countMembers members + n) =
      settle false opened rest >>= resume n := by
  match members with
  | [] =>
    rw [countMembers, Nat.zero_add]
    rfl
  | (key, j) :: members =>
    rw [← skip_members members n opened rest, countMembers, Nat.add_assoc,
      ← skipWithin_chars j _ _ (delimits_members (members.map memberChars) rest)]
    simp only [List.map_cons, List.flatMap_cons, List.append_assoc, List.cons_append, memberChars]
    change skipKey ('"' :: (stringRest key.toList ++ _)) >>= _ = _
    rw [skipKey_chars]
    rfl

end

theorem length_flatten_le_listed (pieces : List (List Char)) :
    pieces.flatten.length ≤ (listed pieces).length := by
  cases pieces with
  | nil => exact Nat.le_refl 0
  | cons piece pieces =>
    rw [listed, List.flatten_cons, List.length_append, List.length_append, length_flatMap_comma]
    omega

mutual

/-- Every value takes up a character. -/
theorem count_le_length (j : Json) : j.count ≤ j.chars.length := by
  have hpos (hone : j.count = 1) : j.count ≤ j.chars.length := by
    obtain ⟨c, text, heq, -⟩ := chars_eq_cons j
    rw [hone, heq]
    exact Nat.succ_le_succ text.length.zero_le
  match j with
  | .null | .bool _ | .number _ | .string _ => exact hpos rfl
  | .array items =>
    have := countItems_le_length items
    have := length_flatten_le_listed (items.map chars)
    rw [chars_array, count, List.length_cons, List.length_append]
    omega
  | .object members =>
    have := countMembers_le_length members
    have := length_flatten_le_listed (members.map memberChars)
    rw [chars_object, count, List.length_cons, List.length_append]
    omega

theorem countItems_le_length (items : List Json) :
    countItems items ≤ (items.map chars).flatten.length := by
  match items with
  | [] => exact Nat.le_refl 0
  | j :: items =>
    have := count_le_length j
    have := countItems_le_length items
    rw [countItems, List.map_cons, List.flatten_cons, List.length_append]
    omega

theorem countMembers_le_length (members : List (String × Json)) :
    countMembers members ≤ (members.map memberChars).flatten.length := by
  match members with
  | [] => exact Nat.le_refl 0
  | (key, j) :: members =>
    have := count_le_length j
    have := countMembers_le_length members
    simp only [countMembers, List.map_cons, List.flatten_cons, List.length_append, memberChars,
      List.length_cons]
    omega

end

/-- A value is passed over to its end. -/
theorem skipValue_chars (j : Json) {rest : List Char} (h : Delimits rest) :
    skipValue (j.chars ++ rest) = .ok rest := by
  have hcount : j.count ≤ (j.chars ++ rest).length + 1 := by
    have := count_le_length j
    rw [List.length_append]
    omega
  obtain ⟨n, hn⟩ := Nat.exists_eq_add_of_le hcount
  rw [skipValue, hn, skipWithin_chars j n [] h]
  rfl

end Json

end Telemetry
