import Telemetry.Proofs.Footprints

/-!
# What it changes to apply an action again

An insertion, an update or a deletion leaves nothing to do for itself, and so does an extraction
that captures nothing under its own key: attributes that such an action has made are settled for it
(`settled_apply`). They stay settled as long as nothing is written that the action looks at or
writes (`Settled.apply`, `Settled.applyAll`), also where the action found nothing to do at first.
Main statement: `apply_actions_again`.
-/

namespace Telemetry

/-! ## Entries that are put in twice -/

namespace Attributes

/-- What stood under the key of an entry does not show any more when the entries have been put
in. -/
theorem get?_insertMany_of_mem {entries : List (String × String)} {key : String}
    (h : key ∈ Keyed.keys entries) (x y : Attributes) :
    (x.insertMany entries).get? key = (y.insertMany entries).get? key := by
  induction entries generalizing x y with
  | nil => simp at h
  | cons e entries ih =>
    by_cases hrest : key ∈ Keyed.keys entries
    · exact ih hrest _ _
    · -- no later entry has the key, so this one shows
      have hkey : key = e.1 := by
        rw [Keyed.keys_cons] at h
        exact (List.mem_cons.mp h).resolve_right hrest
      refine get?_insertMany_congr ?_ entries
      simp only [get?_insert, if_pos hkey]

theorem insertMany_insertMany (entries : List (String × String)) (x : Attributes) :
    (x.insertMany entries).insertMany entries = x.insertMany entries := by
  refine ext_get? fun key => ?_
  by_cases hkey : key ∈ Keyed.keys entries
  · exact get?_insertMany_of_mem hkey _ _
  · refine get?_insertMany_of_not_mem fun e he heq => hkey ?_
    rw [← heq]
    exact List.mem_map_of_mem he

theorem contains_insert_self (x : Attributes) (key value : String) :
    (x.insert key value).contains key = true := by
  simp [contains, get?_insert]

theorem insert_insert_self (x : Attributes) (key value : String) :
    (x.insert key value).insert key value = x.insert key value := by
  refine ext_get? fun k => ?_
  simp only [get?_insert]
  split <;> rfl

theorem erase_erase_self (x : Attributes) (key : String) :
    (x.erase key).erase key = x.erase key := by
  refine ext_get? fun k => ?_
  simp only [get?_erase]
  split <;> rfl

end Attributes

namespace Action

open Config (Field)
open Processor (Effect)

variable {a b : Action} {attributes : Attributes}

/-! ## One action -/

/-- An action does nothing to attributes. -/
def Settled (a : Action) (attributes : Attributes) : Prop := a.apply attributes = attributes

/-- Whether an action takes no account of what it wrote before. Digests and masks are made of the
value that they replace, and so is what an extraction captures under its own key. -/
def Repeatable : Action → Prop
  | .insert .. | .update .. | .delete _ => True
  | .extract key pattern => key ∉ pattern.groupNames
  | .hash _ | .mask .. => False

/-- Where a value is put, its source still gives it. -/
theorem Source.value?_insert {source : Source} {value : String}
    (h : source.value? attributes = some value) (key : String) :
    source.value? (attributes.insert key value) = some value := by
  match source with
  | .literal _ => exact h
  | .attribute k =>
    show (attributes.insert key value).get? k = some value
    rw [Attributes.get?_insert]
    split
    · rfl
    · exact h

/-- What a repeatable action has made is settled for it. -/
theorem settled_apply (h : a.Repeatable) (attributes : Attributes) :
    a.Settled (a.apply attributes) := by
  cases a with
  | insert key source =>
    by_cases hkey : attributes.contains key = true
    · simp [Settled, apply, hkey]
    · cases hvalue : source.value? attributes with
      | none => simp [Settled, apply, hkey, put, hvalue]
      | some value => simp [Settled, apply, hkey, put, hvalue, Attributes.contains_insert_self]
  | update key source =>
    by_cases hkey : attributes.contains key = true
    · cases hvalue : source.value? attributes with
      | none => simp [Settled, apply, hkey, put, hvalue]
      | some value =>
        simp [Settled, apply, hkey, put, hvalue, Attributes.contains_insert_self,
          Source.value?_insert hvalue, Attributes.insert_insert_self]
    · simp [Settled, apply, hkey]
  | delete key => exact Attributes.erase_erase_self attributes key
  | extract key pattern =>
    -- the value that is matched is not written, so the second match captures the same
    have hwrites : key ∉ (Action.extract key pattern).writes := h
    have hsource := get?_apply_of_not_writes hwrites attributes
    cases hvalue : attributes.get? key with
    | none => simp [Settled, apply, hvalue]
    | some value =>
      rw [hvalue] at hsource
      simp only [apply, hvalue] at hsource
      simp only [Settled, apply, hvalue, hsource]
      exact Attributes.insertMany_insertMany _ _
  | hash key => exact h.elim
  | mask key pattern template => exact h.elim

/-! ## Other actions in between -/

/-- An action that writes nothing that another one looks at or writes leaves it settled. -/
theorem Settled.apply (hs : a.Settled attributes) (h : ¬ b.Disturbs a) :
    a.Settled (b.apply attributes) := by
  refine Attributes.ext_get? fun key => ?_
  by_cases hkey : key ∈ a.writes
  · have hexchange := get?_apply_apply h (not_mem_writes_of_not_disturbs h hkey) attributes
    rw [← hexchange, hs]
  · exact get?_apply_of_not_writes hkey _

/-- So do any number of such actions. -/
theorem Settled.applyAll {actions : List Action} (hs : a.Settled attributes)
    (h : ∀ b ∈ actions, ¬ b.Disturbs a) : a.Settled (applyAll actions attributes) := by
  induction actions generalizing attributes with
  | nil => exact hs
  | cons b actions ih =>
    obtain ⟨hfirst, hrest⟩ := List.forall_mem_cons.mp h
    exact ih (hs.apply hfirst) hrest

/-- To apply an insertion, an update, a deletion or an extraction that does not capture under its
own key once more changes nothing, whatever has been done in between, if that wrote nothing that the
action looks at or writes. -/
theorem apply_actions_again (ha : a.Repeatable) {actions : List Action}
    (h : ∀ b ∈ actions, ¬ b.Disturbs a) (record : Record) :
    (Effect.actions (a :: (actions ++ [a]))).apply record =
      (Effect.actions (a :: actions)).apply record := by
  have hsettled : a.Settled (applyAll actions (a.apply record.attributes)) :=
    (settled_apply ha record.attributes).applyAll h
  simp only [Effect.apply, applyAll, List.foldl_cons, List.foldl_append, List.foldl_nil]
  rw [← applyAll, hsettled]

/-- A copy of another attribute and a digest come between two extractions of a host, of which the
second one has nothing to do. -/
theorem apply_actions_again_hostExtraction :
    ∃ pattern,
      let extraction := Action.extract "url" pattern
      let between := [Action.update "zone" (.attribute "region"), .hash "user"]
      (Field.named "actions").compileItems compile 0
          [hostExtraction, { kind := .update, key := "zone", fromAttribute := some "region" },
            { kind := .hash, key := "user" }, hostExtraction] =
          .ok (extraction :: (between ++ [extraction])) ∧
        extraction.Repeatable ∧ (∀ b ∈ between, ¬ b.Disturbs extraction) ∧
        ∀ record, (Effect.actions (extraction :: (between ++ [extraction]))).apply record =
          (Effect.actions (extraction :: between)).apply record := by
  obtain ⟨pattern, hpattern, hP⟩ := Except.exists_of_any
    (x := Pattern.compile .full "(?:(?<scheme>[a-z]+)://)?(?<host>[a-z.]+)")
    (P := fun pattern => decide (pattern.groupNames = ["scheme", "host"])) (by decide +kernel)
  have hnames : pattern.groupNames = ["scheme", "host"] := of_decide_eq_true hP
  have hcompile (i : Nat) : compile ((Field.named "actions").item i) hostExtraction =
      .ok (.extract "url" pattern) := compile_extract (by decide) hpattern (by simp [hnames])
  have hrepeatable : (Action.extract "url" pattern).Repeatable := by
    simp [Repeatable, hnames]
  have hbetween : ∀ b ∈ [Action.update "zone" (.attribute "region"), .hash "user"],
      ¬ b.Disturbs (.extract "url" pattern) := by
    simp [Disturbs, reads, writes, hnames]
  refine ⟨pattern, ?_, hrepeatable, hbetween, apply_actions_again hrepeatable hbetween⟩
  simp only [Field.compileItems, hcompile]
  rfl

end Action

end Telemetry
