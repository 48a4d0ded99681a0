import Telemetry.Keyed

/-!
# Looking up entries

What `Keyed.get?` gives of lists that are put together, rewritten or sorted. Where each key stands
once, sorting a list changes nothing for it (`get?_ofList`), and rewriting an entry changes only
what stands under its key (`get?_filterMap`).
-/

namespace Telemetry.Keyed

variable {α β : Type _} {key : String} {entries : List (String × α)}

/-- The keys of entries, in order. -/
def keys (entries : List (String × α)) : List String := entries.map (·.1)

@[simp] theorem keys_nil : keys ([] : List (String × α)) = [] := rfl

@[simp] theorem keys_cons (e : String × α) (entries : List (String × α)) :
    keys (e :: entries) = e.1 :: keys entries := rfl

@[simp] theorem keys_append (xs ys : List (String × α)) : keys (xs ++ ys) = keys xs ++ keys ys :=
  List.map_append

@[simp] theorem get?_nil (key : String) : get? key ([] : List (String × α)) = none := rfl

theorem get?_cons (key : String) (e : String × α) (entries : List (String × α)) :
    get? key (e :: entries) = if key = e.1 then some e.2 else get? key entries := rfl

theorem get?_eq_none_iff : get? key entries = none ↔ key ∉ keys entries := by
  induction entries with
  | nil => simp
  | cons e entries ih => by_cases h : key = e.1 <;> simp [get?_cons, h, ih]

theorem get?_eq_none_of_notMem (h : key ∉ keys entries) : get? key entries = none :=
  get?_eq_none_iff.mpr h

theorem mem_keys_of_get? {a : α} (h : get? key entries = some a) : key ∈ keys entries := by
  refine Decidable.byContradiction fun hkey => ?_
  rw [get?_eq_none_of_notMem hkey] at h
  cases h

theorem mem_of_get? {a : α} (h : get? key entries = some a) : (key, a) ∈ entries := by
  induction entries with
  | nil => cases h
  | cons e entries ih =>
    rw [get?_cons] at h
    split at h
    · next heq =>
      obtain rfl := Option.some.inj h
      rw [heq]
      exact List.mem_cons_self
    · exact List.mem_cons_of_mem _ (ih h)

theorem get?_of_mem (h : (keys entries).Nodup) {a : α} (hmem : (key, a) ∈ entries) :
    get? key entries = some a := by
  induction entries with
  | nil => cases hmem
  | cons e entries ih =>
    obtain ⟨he, hrest⟩ := List.nodup_cons.mp h
    rw [get?_cons]
    rcases List.mem_cons.mp hmem with rfl | hmem
    · rw [if_pos rfl]
    · have hkey : key ∈ keys entries := List.mem_map_of_mem hmem
      have hne : key ≠ e.1 := by
        rintro rfl
        exact he hkey
      rw [if_neg hne]
      exact ih hrest hmem

theorem mem_iff_get? (h : (keys entries).Nodup) {a : α} :
    (key, a) ∈ entries ↔ get? key entries = some a :=
  ⟨get?_of_mem h, mem_of_get?⟩

theorem nodup_keys_of_perm {xs ys : List (String × α)} (hys : (keys ys).Nodup) (h : xs.Perm ys) :
    (keys xs).Nodup :=
  (h.map _).nodup_iff.mpr hys

/-- The order of entries does not matter. -/
theorem get?_eq_of_perm {xs ys : List (String × α)} (hys : (keys ys).Nodup) (h : xs.Perm ys)
    (key : String) : get? key xs = get? key ys := by
  refine Option.ext fun a => ?_
  rw [← mem_iff_get? (nodup_keys_of_perm hys h), ← mem_iff_get? hys]
  exact h.mem_iff

theorem get?_append (key : String) (xs ys : List (String × α)) :
    get? key (xs ++ ys) = (get? key xs).or (get? key ys) := by
  induction xs with
  | nil => simp
  | cons e xs ih => by_cases h : key = e.1 <;> simp [get?_cons, h, ih]

/-- Of keys with the same value, each one that is there stands for it. -/
theorem get?_map_const (key : String) (names : List String) (a : α) :
    get? key (names.map (fun name => (name, a))) = if key ∈ names then some a else none := by
  induction names with
  | nil => simp
  | cons name names ih => by_cases h : key = name <;> simp [get?_cons, h, ih]

/-- Rewriting or removing entries, each under its key, shows at every key. -/
theorem get?_filterMap (f : String → α → Option β) (h : (keys entries).Nodup) (key : String) :
    get? key (entries.filterMap (fun (k, a) => (f k a).map (k, ·))) =
      (get? key entries).bind (f key) := by
  induction entries with
  | nil => rfl
  | cons e entries ih =>
    obtain ⟨k, a⟩ := e
    obtain ⟨hk, hrest⟩ := List.nodup_cons.mp h
    rw [get?_cons, List.filterMap_cons]
    by_cases hkey : key = k
    · subst hkey
      have hnone : get? key entries = none := get?_eq_none_of_notMem hk
      cases hf : f key a with
      | none => simpa [hf, hnone] using ih hrest
      | some b => simp [hf, get?_cons]
    · cases hf : f k a with
      | none => simpa [hf, hkey] using ih hrest
      | some b => simpa [hf, hkey, get?_cons] using ih hrest

theorem keys_filterMap_sublist (f : String → α → Option β) (entries : List (String × α)) :
    (keys (entries.filterMap (fun (k, a) => (f k a).map (k, ·)))).Sublist (keys entries) := by
  induction entries with
  | nil => exact List.Sublist.refl _
  | cons e entries ih =>
    obtain ⟨k, a⟩ := e
    rw [List.filterMap_cons]
    cases hf : f k a with
    | none => simpa [hf] using ih.cons k
    | some b => simpa [hf] using ih

theorem Ascending.nodup_keys (h : Ascending entries) : (keys entries).Nodup := by
  refine List.pairwise_map.mpr (List.Pairwise.imp (fun {a b} hlt heq => ?_) h)
  exact String.lt_irrefl b.1 (heq ▸ hlt)

/-- Entries with keys of their own that are put in one after another stand under their keys, and no
other key shows them. -/
theorem get?_foldl_insert (h : (keys entries).Nodup) (acc : List (String × α)) (key : String) :
    get? key (entries.foldl (fun acc e => insert e.1 e.2 acc) acc) =
      (get? key entries).or (get? key acc) := by
  induction entries generalizing acc with
  | nil => rfl
  | cons e entries ih =>
    obtain ⟨he, hrest⟩ := List.nodup_cons.mp h
    rw [List.foldl_cons, ih hrest, get?_insert, get?_cons]
    by_cases hkey : key = e.1
    · rw [hkey, get?_eq_none_of_notMem he]
      simp
    · simp [hkey]

/-- Sorting entries with keys of their own loses none of them. -/
theorem get?_ofList (h : (keys entries).Nodup) (key : String) :
    get? key (ofList entries) = get? key entries := by
  rw [ofList, get?_foldl_insert h]
  simp

/-- Entries that come later do not matter to other keys. -/
theorem get?_ofList_append {xs ys : List (String × α)} (h : key ∉ keys ys) :
    get? key (ofList (xs ++ ys)) = get? key (ofList xs) := by
  rw [ofList, ofList, List.foldl_append]
  generalize xs.foldl (fun acc e => insert e.1 e.2 acc) [] = acc
  induction ys generalizing acc with
  | nil => rfl
  | cons e ys ih =>
    obtain ⟨hne, hys⟩ := List.ne_and_not_mem_of_not_mem_cons h
    rw [List.foldl_cons, ih hys, get?_insert, if_neg hne]

theorem mem_keys_ofList_iff (h : (keys entries).Nodup) :
    key ∈ keys (ofList entries) ↔ key ∈ keys entries := by
  rw [← Decidable.not_iff_not, ← get?_eq_none_iff, ← get?_eq_none_iff, get?_ofList h]

/-- Entries that ascend already are sorted. -/
theorem ofList_of_ascending (h : Ascending entries) : ofList entries = entries :=
  ext_get? (.ofList entries) h (get?_ofList h.nodup_keys)

end Telemetry.Keyed
