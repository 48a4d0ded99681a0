import Mathlib.Logic.Relation
import Telemetry.Proofs.Extracting

/-!
# What actions read and write

An action reads the attribute of its key, and the one that its value comes from; it writes the
attribute of its key, or those under the names of its groups. What it does not write stays as it was
(`get?_apply_of_not_writes`), and what it makes of an attribute depends on this attribute and on
those that it reads (`get?_apply_congr`). So two actions that do not disturb each other can be
exchanged. Main statement: `apply_exchanged`.
-/

namespace Telemetry

namespace Attributes

variable {x y : Attributes} {key : String}

theorem get?_insert_congr (h : x.get? key = y.get? key) (k value : String) :
    (x.insert k value).get? key = (y.insert k value).get? key := by
  rw [get?_insert, get?_insert, h]

theorem get?_insertMany_congr (h : x.get? key = y.get? key) (entries : List (String × String)) :
    (x.insertMany entries).get? key = (y.insertMany entries).get? key := by
  induction entries generalizing x y with
  | nil => exact h
  | cons e entries ih => exact ih (get?_insert_congr h e.1 e.2)

end Attributes

namespace Action

open Config (Field)
open Processor (Effect)

/-- The keys of the attributes that a new value is taken from. -/
def Source.reads : Source → List String
  | .literal _ => []
  | .attribute key => [key]

/-- The keys of the attributes that an action looks at. -/
def reads : Action → List String
  | .insert key source | .update key source => key :: source.reads
  | .delete key | .hash key | .extract key _ | .mask key _ _ => [key]

/-- The keys of the attributes that an action may change. -/
def writes : Action → List String
  | .extract _ pattern => pattern.groupNames
  | .insert key _ | .update key _ | .delete key | .hash key | .mask key _ _ => [key]

/-- An action may change what another one looks at or changes. -/
def Disturbs (a b : Action) : Prop := ∃ key ∈ a.writes, key ∈ b.reads ∨ key ∈ b.writes

/-- Neither of two actions disturbs the other. -/
structure Independent (a b : Action) : Prop where
  left : ¬ a.Disturbs b
  right : ¬ b.Disturbs a

variable {a b : Action} {key : String}

theorem not_mem_reads_of_not_disturbs (h : ¬ a.Disturbs b) (hkey : key ∈ b.reads) :
    key ∉ a.writes :=
  fun hwrites => h ⟨key, hwrites, .inl hkey⟩

theorem not_mem_writes_of_not_disturbs (h : ¬ a.Disturbs b) (hkey : key ∈ b.writes) :
    key ∉ a.writes :=
  fun hwrites => h ⟨key, hwrites, .inr hkey⟩

/-! ## Frames -/

theorem mem_writes_of_touches {touch : Touch} (h : a.Touches touch key) : key ∈ a.writes := by
  cases a <;> cases touch <;> simp_all [Touches, writes]

/-- What an action does not write stays as it was. -/
theorem get?_apply_of_not_writes (h : key ∉ a.writes) (attributes : Attributes) :
    (a.apply attributes).get? key = attributes.get? key :=
  (explained_apply a attributes key).eq_of_not_touches
    fun _ htouches => h (mem_writes_of_touches htouches)

/-! ## Agreement -/

section Agreement

variable {x y : Attributes}

theorem Source.value?_congr {source : Source} (h : ∀ k ∈ source.reads, x.get? k = y.get? k) :
    source.value? x = source.value? y := by
  match source with
  | .literal _ => rfl
  | .attribute k => exact h k List.mem_cons_self

theorem get?_put_congr (h : x.get? key = y.get? key) (k : String) (value : Option String) :
    (put x k value).get? key = (put y k value).get? key := by
  cases value with
  | none => exact h
  | some value => exact Attributes.get?_insert_congr h k value

/-- Attributes that agree in what an action reads, and under some key, agree under this key after
the action. -/
theorem get?_apply_congr (hreads : ∀ k ∈ a.reads, x.get? k = y.get? k)
    (hkey : x.get? key = y.get? key) : (a.apply x).get? key = (a.apply y).get? key := by
  cases a with
  | insert k source =>
    obtain ⟨hk, hsource⟩ := List.forall_mem_cons.mp hreads
    have hcontains : x.contains k = y.contains k := congrArg Option.isSome hk
    rw [apply, apply, hcontains, Source.value?_congr hsource]
    cases y.contains k with
    | true => exact hkey
    | false => exact get?_put_congr hkey k _
  | update k source =>
    obtain ⟨hk, hsource⟩ := List.forall_mem_cons.mp hreads
    have hcontains : x.contains k = y.contains k := congrArg Option.isSome hk
    rw [apply, apply, hcontains, Source.value?_congr hsource]
    cases y.contains k with
    | true => exact get?_put_congr hkey k _
    | false => exact hkey
  | delete k => rw [apply, apply, Attributes.get?_erase, Attributes.get?_erase, hkey]
  | hash k =>
    have hk : x.get? k = y.get? k := hreads k List.mem_cons_self
    rw [apply, apply, hk]
    exact get?_put_congr hkey k _
  | extract k pattern =>
    have hk : x.get? k = y.get? k := hreads k List.mem_cons_self
    simp only [apply, hk]
    split
    · exact Attributes.get?_insertMany_congr hkey _
    · exact hkey
  | mask k pattern template =>
    have hk : x.get? k = y.get? k := hreads k List.mem_cons_self
    rw [apply, apply, hk]
    exact get?_put_congr hkey k _

end Agreement

/-! ## Exchanges -/

/-- An action that is not disturbed makes the same of what the other one does not write, before and
behind the other one. -/
theorem get?_apply_apply (h : ¬ b.Disturbs a) (hkey : key ∉ b.writes) (attributes : Attributes) :
    (b.apply (a.apply attributes)).get? key = (a.apply (b.apply attributes)).get? key := by
  rw [get?_apply_of_not_writes hkey]
  refine (get?_apply_congr (fun k hk => ?_) ?_).symm
  · exact get?_apply_of_not_writes (not_mem_reads_of_not_disturbs h hk) attributes
  · exact get?_apply_of_not_writes hkey attributes

theorem Independent.alter_alter (h : a.Independent b) (record : Record) :
    b.alter (a.alter record) = a.alter (b.alter record) := by
  have hsame : b.apply (a.apply record.attributes) = a.apply (b.apply record.attributes) := by
    refine Attributes.ext_get? fun key => ?_
    -- no key is written by both
    by_cases hkey : key ∈ a.writes
    · exact get?_apply_apply h.right (not_mem_writes_of_not_disturbs h.right hkey) _
    · exact (get?_apply_apply h.left hkey _).symm
  simp only [alter, hsame]

/-- Two neighbours in a list that do not disturb each other are exchanged. -/
inductive Exchanged : List Action → List Action → Prop
  | intro (before : List Action) {a b : Action} (h : a.Independent b) (after : List Action) :
    Exchanged (before ++ a :: b :: after) (before ++ b :: a :: after)

theorem Exchanged.apply_eq {actions actions' : List Action} (h : Exchanged actions actions')
    (record : Record) :
    (Effect.actions actions).apply record = (Effect.actions actions').apply record := by
  obtain ⟨before, h, after⟩ := h
  simp only [Effect.apply_actions, List.foldl_append, List.foldl_cons, h.alter_alter]

/-- Two actions that do not disturb each other do the same in either order. So a list of actions
does the same after any number of exchanges of such neighbours. -/
theorem apply_exchanged :
    (∀ a b : Action, a.Independent b →
      ∀ record, b.alter (a.alter record) = a.alter (b.alter record)) ∧
    ∀ actions actions', Relation.ReflTransGen Exchanged actions actions' →
      ∀ record, (Effect.actions actions).apply record = (Effect.actions actions').apply record := by
  refine ⟨fun a b h record => h.alter_alter record, fun actions actions' h record => ?_⟩
  induction h with
  | refl => rfl
  | tail _ hlast ih => exact ih.trans (hlast.apply_eq record)

/-- A copy of another attribute and a digest touch nothing that the extraction of a host reads or
writes, so it may as well come last. -/
theorem apply_exchanged_hostExtraction :
    ∃ pattern,
      let extraction := Action.extract "url" pattern
      let copy := Action.update "zone" (.attribute "region")
      let digest := Action.hash "user"
      (Field.named "actions").compileItems compile 0
          [hostExtraction, { kind := .update, key := "zone", fromAttribute := some "region" },
            { kind := .hash, key := "user" }] = .ok [extraction, copy, digest] ∧
        extraction.Independent copy ∧
        (∀ record, copy.alter (extraction.alter record) = extraction.alter (copy.alter record)) ∧
        ∀ record, (Effect.actions [extraction, copy, digest]).apply record =
          (Effect.actions [copy, digest, extraction]).apply record := by
  obtain ⟨pattern, hpattern, hP⟩ := Except.exists_of_any
    (x := Pattern.compile .full "(?:(?<scheme>[a-z]+)://)?(?<host>[a-z.]+)")
    (P := fun pattern => decide (pattern.groupNames = ["scheme", "host"])) (by decide +kernel)
  have hnames : pattern.groupNames = ["scheme", "host"] := of_decide_eq_true hP
  have hcompile : compile ((Field.named "actions").item 0) hostExtraction =
      .ok (.extract "url" pattern) := compile_extract (by decide) hpattern (by simp [hnames])
  have hcopy : (Action.extract "url" pattern).Independent
      (.update "zone" (.attribute "region")) := by
    constructor <;> simp [Disturbs, reads, writes, Source.reads, hnames]
  have hdigest : (Action.extract "url" pattern).Independent (.hash "user") := by
    constructor <;> simp [Disturbs, reads, writes, hnames]
  refine ⟨pattern, ?_, hcopy, apply_exchanged.1 _ _ hcopy, apply_exchanged.2 _ _ ?_⟩
  · rw [Field.compileItems, hcompile]
    rfl
  · exact .tail (.single (.intro [] hcopy [.hash "user"]))
      (.intro [.update "zone" (.attribute "region")] hdigest [])

end Action

end Telemetry
