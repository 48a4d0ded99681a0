import Telemetry.Proofs.Json.Skipping

/-!
# Reading the members of objects that were written

The members of an object are read one after another from the text that is written for it, each with
the key it has, up to the closing brace. Main statement: `readObject_chars`.
-/

namespace Telemetry.Json

variable {σ : Type} {member : String → σ → List Char → Except Located (Parsed σ)}

/-- Whether a reader of members makes `t` of the members of an object, having made `s` of those
before them. -/
inductive Gathers (member : String → σ → List Char → Except Located (Parsed σ)) :
    σ → List (String × Json) → σ → Prop where
  | nil (s : σ) : Gathers member s [] s
  | cons {key : String} {j : Json} {s s' t : σ} {members : List (String × Json)}
      (hmember : ∀ rest, Delimits rest → member key s (':' :: (j.chars ++ rest)) = .ok (s', rest))
      (hmembers : Gathers member s' members t) : Gathers member s ((key, j) :: members) t

theorem readColon_cons (rest : List Char) : readColon (':' :: rest) = .ok rest := rfl

theorem nextKey_first (key : String) (rest : List Char) :
    nextKey true ('"' :: (stringRest key.toList ++ rest)) = .ok (some (key, rest)) := by
  have hread := readString_chars key rest
  generalize stringRest key.toList ++ rest = chars at *
  change (readString chars).map some = _
  rw [hread]
  rfl

theorem nextKey_next (key : String) (rest : List Char) :
    nextKey false (',' :: '"' :: (stringRest key.toList ++ rest)) = .ok (some (key, rest)) := by
  have hread := readString_chars key rest
  generalize stringRest key.toList ++ rest = chars at *
  change (readString chars).map some = _
  rw [hread]
  rfl

theorem readMembers_chars {s t : σ} {members : List (String × Json)} (h : Gathers member s members t)
    (rest : List Char) {n : Nat} (hn : members.length < n) :
    readMembers member n false s ((members.map memberChars).flatMap (',' :: ·) ++ '}' :: rest) =
      .ok (t, rest) := by
  induction h generalizing n with
  | nil s =>
    obtain ⟨n, rfl⟩ : ∃ k, n = k + 1 := Nat.exists_eq_add_one.mpr hn
    rfl
  | cons hmember hmembers ih =>
    rename_i key j s s' t members
    obtain ⟨n, rfl⟩ : ∃ k, n = k + 1 := Nat.exists_eq_add_one.mpr (Nat.zero_lt_of_lt hn)
    rw [← ih (Nat.lt_of_succ_lt_succ hn)]
    simp only [List.map_cons, List.flatMap_cons, List.append_assoc, List.cons_append, memberChars]
    rw [readMembers, nextKey_next]
    simp only [hmember _ (delimits_members (members.map memberChars) rest)]

/-- An object is read from behind its opening brace. -/
theorem readObject_chars {s t : σ} {members : List (String × Json)} (h : Gathers member s members t)
    (rest : List Char) :
    readObject member s (listed (members.map memberChars) ++ '}' :: rest) = .ok (t, rest) := by
  cases h with
  | nil => rfl
  | cons hmember hmembers =>
    rename_i key j s' members
    have hlength : members.length <
        (listed (((key, j) :: members).map memberChars) ++ '}' :: rest).length := by
      rw [List.map_cons, listed, List.append_assoc, List.length_append, List.length_append,
        length_flatMap_comma, List.length_map, List.length_cons]
      omega
    rw [readObject]
    generalize (listed (((key, j) :: members).map memberChars) ++ '}' :: rest).length = n at *
    simp only [List.map_cons, listed, List.append_assoc, List.cons_append, memberChars]
    rw [readMembers, nextKey_first]
    simp only [hmember _ (delimits_members (members.map memberChars) rest)]
    exact readMembers_chars hmembers rest hlength

end Telemetry.Json
