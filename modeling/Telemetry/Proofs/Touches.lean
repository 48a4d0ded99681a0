import Mathlib.Tactic.ByContra
import Telemetry.Proofs.Keyed
import Telemetry.Proofs.Processing

/-!
# What becomes of an attribute

There are four ways in which a step can touch the attribute under a key, and each of them leaves a
mark of its own: an attribute comes to be by an insertion or a capture, goes by a deletion, and gets
another value by a rewriting, by a capture, or by a deletion with an insertion behind it. Such
accounts (`Explained`) can be put one behind the other, so what holds of one action holds of a list
of actions, of a processor and of a run (`explained_run`).
-/

namespace Telemetry

/-- The ways in which the attribute under a key can be touched. -/
inductive Touch where
  /-- A value is put there if there is none. -/
  | insert
  /-- What a named group of a pattern covers is put there. -/
  | capture
  /-- What is there is removed. -/
  | delete
  /-- What is there gets another value. -/
  | rewrite

/-- The given touches account for what an attribute was before and is after. -/
structure Explained (touches : Touch → Prop) (before after : Option String) : Prop where
  created : before = none → after ≠ none → touches .insert ∨ touches .capture
  removed : before ≠ none → after = none → touches .delete
  altered : ∀ old new, before = some old → after = some new → old ≠ new →
    touches .rewrite ∨ touches .capture ∨ (touches .delete ∧ touches .insert)

namespace Explained

variable {touches touches' : Touch → Prop} {before mid after : Option String}

/-- What stays as it is needs no account. -/
theorem refl (touches : Touch → Prop) (value : Option String) :
    Explained touches value value where
  created := by
    intro hnone hsome
    exact absurd hnone hsome
  removed := by
    intro hsome hnone
    exact absurd hnone hsome
  altered := by
    intro old new hold hnew hne
    have hsame : old = new := Option.some.inj (hold.symm.trans hnew)
    exact absurd hsame hne

theorem of_insert (h : touches .insert) (hbefore : before = none) :
    Explained touches before after where
  created := fun _ _ => .inl h
  removed := by
    intro hsome _
    exact absurd hbefore hsome
  altered := by
    intro old new hold _ _
    simp [hbefore] at hold

theorem of_delete (h : touches .delete) (hafter : after = none) :
    Explained touches before after where
  created := by
    intro _ hsome
    exact absurd hafter hsome
  removed := fun _ _ => h
  altered := by
    intro old new _ hnew _
    simp [hafter] at hnew

theorem of_capture (h : touches .capture) (hstays : before ≠ none → after ≠ none) :
    Explained touches before after where
  created := fun _ _ => .inr h
  removed := by
    intro hsome hnone
    exact absurd hnone (hstays hsome)
  altered := fun _ _ _ _ _ => .inr (.inl h)

theorem of_rewrite (h : touches .rewrite) (hiff : before = none ↔ after = none) :
    Explained touches before after where
  created := by
    intro hnone hsome
    exact absurd (hiff.mp hnone) hsome
  removed := by
    intro hsome hnone
    exact absurd (hiff.mpr hnone) hsome
  altered := fun _ _ _ _ _ => .inl h

/-- More touches account for as much. -/
theorem mono (h : Explained touches before after) (hle : ∀ touch, touches touch → touches' touch) :
    Explained touches' before after where
  created := fun hnone hsome => (h.created hnone hsome).imp (hle _) (hle _)
  removed := fun hsome hnone => hle _ (h.removed hsome hnone)
  altered := fun old new hold hnew hne =>
    (h.altered old new hold hnew hne).imp (hle _) (Or.imp (hle _) (And.imp (hle _) (hle _)))

/-- Accounts of two steps make one of both. Only where the attribute is away in between does the
second step see what the first one did. -/
theorem trans (h : Explained touches before mid) (h' : Explained touches mid after) :
    Explained touches before after where
  created := by
    intro hbefore hafter
    by_cases hmid : mid = none
    · exact h'.created hmid hafter
    · exact h.created hbefore hmid
  removed := by
    intro hbefore hafter
    by_cases hmid : mid = none
    · exact h.removed hbefore hmid
    · exact h'.removed hmid hafter
  altered := by
    intro old new hold hnew hne
    cases hmid : mid with
    | none =>
      have hdelete : touches .delete := h.removed (by simp [hold]) hmid
      rcases h'.created hmid (by simp [hnew]) with hinsert | hcapture
      · exact .inr (.inr ⟨hdelete, hinsert⟩)
      · exact .inr (.inl hcapture)
    | some middle =>
      by_cases hsame : old = middle
      · exact h'.altered middle new hmid hnew (hsame ▸ hne)
      · exact h.altered old middle hold hmid hsame

/-- What is not touched stays as it is. -/
theorem eq_of_not_touches (h : Explained touches before after) (hnot : ∀ touch, ¬ touches touch) :
    after = before := by
  cases hbefore : before with
  | none =>
    by_contra hafter
    exact (h.created hbefore hafter).elim (hnot _) (hnot _)
  | some old =>
    cases hafter : after with
    | none => exact absurd (h.removed (by simp [hbefore]) hafter) (hnot _)
    | some new =>
      by_contra hne
      have hdiffer : old ≠ new := fun hsame => hne (hsame ▸ rfl)
      rcases h.altered old new hbefore hafter hdiffer with hrewrite | hcapture | ⟨hdelete, -⟩
      · exact hnot _ hrewrite
      · exact hnot _ hcapture
      · exact hnot _ hdelete

end Explained

/-! ## Attributes -/

namespace Attributes

theorem get?_insert_of_ne {attributes : Attributes} {k key : String} (h : k ≠ key)
    (value : String) : (attributes.insert k value).get? key = attributes.get? key := by
  rw [get?_insert, if_neg (Ne.symm h)]

/-- Entries under other keys do not matter to a key. -/
theorem get?_insertMany_of_not_mem {attributes : Attributes} {entries : List (String × String)}
    {key : String} (h : ∀ e ∈ entries, e.1 ≠ key) :
    (attributes.insertMany entries).get? key = attributes.get? key := by
  induction entries generalizing attributes with
  | nil => rfl
  | cons e entries ih =>
    obtain ⟨he, hrest⟩ := List.forall_mem_cons.mp h
    rw [insertMany, List.foldl_cons, ← insertMany, ih hrest, get?_insert_of_ne he]

/-- Entries with keys of their own show under their keys. -/
theorem get?_insertMany {entries : List (String × String)} (h : (Keyed.keys entries).Nodup)
    (attributes : Attributes) (key : String) :
    (attributes.insertMany entries).get? key =
      (Keyed.get? key entries).or (attributes.get? key) := by
  have hentries : (attributes.insertMany entries).entries =
      entries.foldl (fun acc e => Keyed.insert e.1 e.2 acc) attributes.entries := by
    clear h
    induction entries generalizing attributes with
    | nil => rfl
    | cons e entries ih => exact ih (attributes.insert e.1 e.2)
  rw [get?, hentries, Keyed.get?_foldl_insert h]
  rfl

/-- Putting in entries removes nothing. -/
theorem get?_insertMany_ne_none {attributes : Attributes} {key : String}
    (h : attributes.get? key ≠ none) (entries : List (String × String)) :
    (attributes.insertMany entries).get? key ≠ none := by
  induction entries generalizing attributes with
  | nil => exact h
  | cons e entries ih =>
    have hnext : (attributes.insert e.1 e.2).get? key ≠ none := by
      rw [get?_insert]
      split
      · exact Option.some_ne_none e.2
      · exact h
    exact ih hnext

/-- Entries under the names of groups explain what becomes of each key. -/
theorem explained_insertMany {touches : Touch → Prop} {entries : List (String × String)}
    {key : String} (h : ∀ e ∈ entries, e.1 = key → touches .capture) (attributes : Attributes) :
    Explained touches (attributes.get? key) ((attributes.insertMany entries).get? key) := by
  by_cases hmem : ∃ e ∈ entries, e.1 = key
  · obtain ⟨e, he, hkey⟩ := hmem
    exact .of_capture (h e he hkey) (fun hsome => get?_insertMany_ne_none hsome entries)
  · have hne : ∀ e ∈ entries, e.1 ≠ key := by
      intro e he hkey
      exact hmem ⟨e, he, hkey⟩
    rw [get?_insertMany_of_not_mem hne]
    exact .refl touches _

end Attributes

/-- What a match puts under keys, it puts under the names of groups. -/
theorem Pattern.fst_mem_groupNames_of_mem_captures {pattern : Pattern} {text : Array Char}
    {m : Regex.Match} {e : String × String} (h : e ∈ pattern.captures text m) :
    e.1 ∈ pattern.groupNames := by
  obtain ⟨g, hg, he⟩ := List.mem_filterMap.mp h
  obtain ⟨span, -, rfl⟩ := Option.map_eq_some_iff.mp he
  exact List.mem_map_of_mem hg

/-! ## Actions -/

namespace Action

/-- How an action can touch the attribute under a key. -/
def Touches (action : Action) (touch : Touch) (key : String) : Prop :=
  match touch, action with
  | .insert, .insert k _ | .delete, .delete k | .rewrite, .update k _ | .rewrite, .hash k
  | .rewrite, .mask k _ _ => k = key
  | .capture, .extract _ pattern => key ∈ pattern.groupNames
  | _, _ => False

theorem get?_put_of_ne {attributes : Attributes} {k key : String} (h : k ≠ key)
    (value : Option String) : (put attributes k value).get? key = attributes.get? key := by
  cases value with
  | none => rfl
  | some value => exact Attributes.get?_insert_of_ne h value

/-- A value can be put in place of another one, but not taken away by that. -/
theorem get?_put_ne_none {attributes : Attributes} {key : String}
    (h : attributes.get? key ≠ none) (value : Option String) :
    (put attributes key value).get? key ≠ none := by
  cases value with
  | none => exact h
  | some value =>
    rw [put, Attributes.get?_insert, if_pos rfl]
    exact Option.some_ne_none value

theorem fst_mem_groupNames_of_mem_extracted {pattern : Pattern} {value : String}
    {e : String × String} (h : e ∈ extracted pattern value) : e.1 ∈ pattern.groupNames := by
  simp only [extracted] at h
  split at h
  · exact Pattern.fst_mem_groupNames_of_mem_captures h
  · simp at h

variable {touches : Touch → Prop} {k key : String}

/-- A value that is made of the one under a key is put there only if there is one. -/
theorem explained_put_map (h : k = key → touches .rewrite) (attributes : Attributes)
    (f : String → String) :
    Explained touches (attributes.get? key)
      ((put attributes k ((attributes.get? k).map f)).get? key) := by
  by_cases hk : k = key
  · subst hk
    refine .of_rewrite (h rfl) ⟨fun hnone => ?_, fun hnone => ?_⟩
    · rw [hnone]
      exact hnone
    · by_contra hsome
      exact get?_put_ne_none hsome _ hnone
  · rw [get?_put_of_ne hk]
    exact .refl touches _

/-- What an action does to each key is of the ways in which it can touch it. -/
theorem explained_apply (action : Action) (attributes : Attributes) (key : String) :
    Explained (action.Touches · key) (attributes.get? key)
      ((action.apply attributes).get? key) := by
  cases action with
  | insert k source =>
    simp only [apply]
    by_cases hk : k = key
    · subst hk
      cases hvalue : attributes.get? k with
      | none => exact .of_insert rfl rfl
      | some value =>
        rw [if_pos (by simp [Attributes.contains, hvalue]), hvalue]
        exact .refl _ _
    · split
      · exact .refl _ _
      · rw [get?_put_of_ne hk]
        exact .refl _ _
  | update k source =>
    simp only [apply]
    by_cases hk : k = key
    · subst hk
      cases hvalue : attributes.get? k with
      | none =>
        rw [if_neg (by simp [Attributes.contains, hvalue]), hvalue]
        exact .refl _ _
      | some value =>
        have hsome : attributes.get? k ≠ none := by simp [hvalue]
        rw [if_pos (by simp [Attributes.contains, hvalue])]
        refine .of_rewrite rfl ⟨fun hnone => ?_, fun hnone => ?_⟩
        · simp at hnone
        · exact absurd hnone (get?_put_ne_none hsome _)
    · split
      · rw [get?_put_of_ne hk]
        exact .refl _ _
      · exact .refl _ _
  | delete k =>
    rw [apply, Attributes.get?_erase]
    split
    · next hk => exact .of_delete hk.symm rfl
    · exact .refl _ _
  | hash k => exact explained_put_map (fun hk => hk) attributes _
  | extract k pattern =>
    simp only [apply]
    split
    · refine Attributes.explained_insertMany (fun e he hkey => ?_) attributes
      have hgroup := fst_mem_groupNames_of_mem_extracted he
      rwa [hkey] at hgroup
    · exact .refl _ _
  | mask k pattern template => exact explained_put_map (fun hk => hk) attributes _

/-- What some actions do to each key is of the ways in which one of them can touch it. -/
theorem explained_applyAll (actions : List Action) (attributes : Attributes) (key : String) :
    Explained (fun touch => ∃ action ∈ actions, action.Touches touch key) (attributes.get? key)
      ((applyAll actions attributes).get? key) := by
  induction actions generalizing attributes with
  | nil => exact .refl _ _
  | cons action actions ih =>
    have hfirst := explained_apply action attributes key
    have hrest := ih (action.apply attributes)
    refine (hfirst.mono ?_).trans (hrest.mono ?_)
    · intro touch htouch
      exact ⟨action, List.mem_cons_self, htouch⟩
    · rintro touch ⟨a, ha, htouch⟩
      exact ⟨a, List.mem_cons_of_mem _ ha, htouch⟩

end Action

/-! ## Processors -/

namespace Relabeler

/-- A relabeler puts attributes under the names of the groups of its rules only; the join makes
none. -/
theorem explained_apply {touches : Touch → Prop} {relabeler : Relabeler} {key : String}
    (h : ∀ rule ∈ relabeler.rules, key ∈ rule.groupNames → touches .capture) (record : Record) :
    Explained touches (record.attributes.get? key)
      ((relabeler.apply record).attributes.get? key) := by
  let Reached (r : Record) : Prop :=
    Explained touches (record.attributes.get? key) (r.attributes.get? key)
  have hreached : Reached record := .refl touches _
  refine apply_invariant (fun r entries hentries hr => ?_) (fun r subject hr => ?_) hreached
  · refine hr.trans (Attributes.explained_insertMany (fun e he hkey => ?_) r.attributes)
    obtain ⟨rule, hrule, hgroup⟩ := hentries e he
    rw [hkey] at hgroup
    exact h rule hrule hgroup
  · simpa only [Reached, Record.attributes_withSubject] using hr

end Relabeler

namespace Processor

/-- How what a processor does can touch the attribute under a key. -/
def Effect.Touches (effect : Effect) (touch : Touch) (key : String) : Prop :=
  match effect with
  | .actions steps => ∃ action ∈ steps, action.Touches touch key
  | .relabel relabeler => touch = .capture ∧ ∃ rule ∈ relabeler.rules, key ∈ rule.groupNames
  | .dropExcluded => False

theorem Effect.explained_apply (effect : Effect) (record : Record) (key : String) :
    Explained (effect.Touches · key) (record.attributes.get? key)
      ((effect.apply record).attributes.get? key) := by
  cases effect with
  | actions steps => exact Action.explained_applyAll steps record.attributes key
  | relabel relabeler =>
    exact Relabeler.explained_apply (fun rule hrule hkey => ⟨rfl, rule, hrule, hkey⟩) record
  | dropExcluded => exact .refl _ _

/-- A processor touches attributes of records of the kinds that it looks at. -/
def Touches (processor : Processor) (kind : Record.Kind) (touch : Touch) (key : String) : Prop :=
  processor.appliesTo kind = true ∧ processor.effect.Touches touch key

theorem explained_process (processor : Processor) (record : Record) (key : String) :
    Explained (processor.Touches record.kind · key) (record.attributes.get? key)
      ((processor.process record).1.attributes.get? key) := by
  rw [record_process]
  split
  · next hchanges =>
    exact (processor.effect.explained_apply record key).mono (fun _ h => ⟨hchanges.1, h⟩)
  · exact .refl _ _

end Processor

/-- What a run does to each key is of the ways in which one of the processors can touch it. -/
theorem Pipeline.explained_run (context : Context) (index : Nat) (processors : List Processor)
    (record : Record) (key : String) :
    Explained (fun touch => ∃ p ∈ processors, p.Touches record.kind touch key)
      (record.attributes.get? key)
      ((run context index processors record).record.attributes.get? key) := by
  -- a processor looks at the kind of the record that comes to it, so the invariant carries the kind
  let Reached (r : Record) : Prop := r.kind = record.kind ∧
    Explained (fun touch => ∃ p ∈ processors, p.Touches record.kind touch key)
      (record.attributes.get? key) (r.attributes.get? key)
  have hstep : ∀ p ∈ processors, ∀ r, Reached r → Reached (p.process r).1 := by
    rintro p hp r ⟨hkind, hexplained⟩
    have hnext := p.explained_process r key
    rw [hkind] at hnext
    refine ⟨by rw [Processor.kind_process, hkind], hexplained.trans (hnext.mono ?_)⟩
    intro touch htouch
    exact ⟨p, hp, htouch⟩
  have hreached : Reached (run context index processors record).record :=
    run_invariant hstep ⟨rfl, .refl _ _⟩ context index
  exact hreached.2

end Telemetry
