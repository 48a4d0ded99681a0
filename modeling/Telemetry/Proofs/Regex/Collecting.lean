import Telemetry.Proofs.Compiling
import Telemetry.Proofs.Regex.Normal
import Telemetry.Regex.Basic

/-!
# What is collected from a pattern

Something is collected from a pattern along its structure: nothing from characters and assertions,
and from a capturing group what a function makes of what is collected in it. Resolving flags and
normal form may leave out parts of a pattern, but they neither add anything nor take it out of the
group that it stands in. So from what a tree matches nothing is collected but what is collected from
the tree (`Node.collect_subset_of_parse`). The groups of a pattern are collected in this way
(`Node.groups_eq_collect`).
-/

namespace Telemetry.Regex

theorem append_subset_append {α : Type _} {l₁ l₂ l₁' l₂' : List α} (h : l₁ ⊆ l₁') (h' : l₂ ⊆ l₂') :
    l₁ ++ l₂ ⊆ l₁' ++ l₂' :=
  List.append_subset.mpr
    ⟨List.subset_append_of_subset_left l₂' h, List.subset_append_of_subset_right l₁' h'⟩

variable {α : Type _}

/-- What is collected from a node, where `f` makes something of the index and the name of a
capturing group and of what is collected in it. -/
def Node.collect (f : Nat → Option String → List α → List α) : Node → List α
  | .empty | .chars _ _ | .look _ => []
  | .capture i name n => f i name (n.collect f)
  | .seq n m | .alt n m => n.collect f ++ m.collect f
  | .repetition _ n => n.collect f

/-- What is collected from a tree, in the same way as from a node. -/
def Tree.collect (f : Nat → Option String → List α → List α) : Tree → List α
  | .group (.capture i name) t => f i name (t.collect f)
  | .group (.plain _) t | .repetition _ t => t.collect f
  | .seq t u | .alt t u => t.collect f ++ u.collect f
  | _ => []

variable {f : Nat → Option String → List α → List α}

/-! ## Normal form -/

namespace Node

theorem collect_ofSet (s : Unicode.CodePoints) (narrow : Bool) :
    (ofSet s narrow).collect f = [] := rfl

theorem flatMap_collect_parts (n : Node) : n.parts.flatMap (collect f) = n.collect f := by
  induction n with
  | seq n m ihn ihm => rw [parts, List.flatMap_append, ihn, ihm, collect]
  | _ => simp [parts, collect]

theorem flatMap_collect_branches (n : Node) : n.branches.flatMap (collect f) = n.collect f := by
  induction n with
  | alt n m ihn ihm => rw [branches, List.flatMap_append, ihn, ihm, collect]
  | _ => simp [branches, collect]

theorem flatMap_collect_flatMap_branches (ns : List Node) :
    (ns.flatMap branches).flatMap (collect f) = ns.flatMap (collect f) := by
  simp only [List.flatMap_assoc, flatMap_collect_branches]

theorem collect_append (n m : Node) : (append n m).collect f = n.collect f ++ m.collect f := by
  rw [← flatMap_collect_parts, parts_append, List.flatMap_append, flatMap_collect_parts,
    flatMap_collect_parts]

theorem collect_concat (ns : List Node) : (concat ns).collect f = ns.flatMap (collect f) := by
  rw [← flatMap_collect_parts, parts_concat, List.flatMap_assoc]
  simp only [flatMap_collect_parts]

theorem collect_choose_subset (ns : List Node) :
    (choose ns).collect f ⊆ ns.flatMap (collect f) := by
  induction ns with
  | nil => simp [choose, collect_ofSet]
  | cons n ns ih =>
    cases ns with
    | nil => simp [choose]
    | cons m ns =>
      rw [choose, collect, List.flatMap_cons]
      · exact append_subset_append (List.Subset.refl _) ih
      · simp

theorem collect_join_subset (ns : List Node) : (join ns).collect f ⊆ ns.flatMap (collect f) := by
  rw [← flatMap_collect_flatMap_branches ns]
  unfold join
  simp only
  split
  · next n hn => simp [hn]
  · split
    · simp [collect_ofSet]
    · exact collect_choose_subset _

theorem flatten_units (ps : List Node) : (units ps).flatten = ps := by
  induction ps with
  | nil => rfl
  | cons p ps ih =>
    rw [units]
    split
    · next hnil =>
      rw [hnil] at ih
      simp [← ih]
    · next u us hunits =>
      rw [hunits] at ih
      split <;> simp [← ih]

/-- What is taken in front of alternatives and what is left of them has nothing but what they
have. -/
theorem collect_of_factored? {ns start rests : List Node} (h : factored? ns = some (start, rests)) :
    start.flatMap (collect f) ⊆ ns.flatMap (collect f) ∧
      rests.flatMap (collect f) ⊆ ns.flatMap (collect f) := by
  simp only [factored?] at h
  split at h
  case isFalse => cases h
  split at h
  case h_1 => cases h
  obtain ⟨rfl, rfl⟩ := Prod.mk.inj (Option.some.inj h)
  have hunits {n : Node} (hn : n ∈ ns) {us : List (List Node)} (hus : us ⊆ units n.parts) {a : α}
      (ha : a ∈ us.flatten.flatMap (collect f)) : a ∈ ns.flatMap (collect f) := by
    obtain ⟨p, hp, ha⟩ := List.mem_flatMap.mp ha
    obtain ⟨u, hu, hp⟩ := List.mem_flatten.mp hp
    have hpart : p ∈ n.parts := by
      rw [← flatten_units n.parts]
      exact List.mem_flatten.mpr ⟨u, hus hu, hp⟩
    refine List.mem_flatMap.mpr ⟨n, hn, ?_⟩
    rw [← flatMap_collect_parts]
    exact List.mem_flatMap.mpr ⟨p, hpart, ha⟩
  constructor
  · cases ns with
    | nil => simp [commonStart]
    | cons n ns =>
      intro a ha
      have hstart := commonStart_prefix (units n.parts) (ns.map fun n => units n.parts)
      exact hunits List.mem_cons_self hstart.subset ha
  · intro a ha
    simp only [List.map_map, List.mem_flatMap, List.mem_map, Function.comp_apply] at ha
    obtain ⟨_, ⟨n, hn, rfl⟩, ha⟩ := ha
    rw [collect_concat] at ha
    exact hunits hn (List.drop_subset _ _) ha

/-- An alternation has nothing but what the alternatives have. -/
theorem collect_alternation_subset (ns : List Node) :
    (alternation ns).collect f ⊆ ns.flatMap (collect f) := by
  rw [← flatMap_collect_flatMap_branches ns]
  unfold alternation
  generalize ns.flatMap branches = ms
  split
  · simp
  · split
    · simp [collect_ofSet]
    · split
      · next start rests hfactored =>
        obtain ⟨hstart, hrests⟩ := collect_of_factored? (f := f) hfactored
        rw [collect_concat, List.flatMap_append, List.flatMap_cons, List.flatMap_nil,
          List.append_nil]
        exact List.append_subset.mpr ⟨hstart, List.Subset.trans (collect_join_subset rests) hrests⟩
      · exact collect_choose_subset ms

theorem collect_repeated_subset (q : Quantifier) (n : Node) :
    (repeated q n).collect f ⊆ n.collect f := by
  simp only [repeated]
  generalize (if n.isZeroWidth = true then _ else q : Quantifier) = q'
  split
  · exact List.nil_subset _
  · split
    · exact List.Subset.refl _
    · exact List.Subset.refl _

end Node

/-! ## Resolving flags -/

/-- From more in a group no less is made. -/
def Grows (f : Nat → Option String → List α → List α) : Prop :=
  ∀ i name {xs ys : List α}, xs ⊆ ys → f i name xs ⊆ f i name ys

/-- From what a tree matches nothing is collected but what is collected from the tree. -/
theorem Tree.collect_meanings_subset (hf : Grows f) {fl fl' : Flags} {t : Tree} {ns : List Node}
    (h : t.meanings fl = .ok (ns, fl')) : ns.flatMap (Node.collect f) ⊆ t.collect f := by
  induction t generalizing fl fl' ns with
  | empty | flags | assertion =>
    obtain ⟨rfl, -⟩ := Prod.mk.inj (Except.ok.inj h)
    simp [Node.collect]
  | literal | dot | escaped =>
    obtain ⟨_, -, h⟩ := Except.map_eq_ok_iff.mp h
    obtain ⟨rfl, -⟩ := Prod.mk.inj h
    simp [Flags.node, Node.collect_ofSet]
  | bracketed =>
    obtain ⟨_, -, h⟩ := Except.bind_eq_ok_iff.mp h
    obtain ⟨_, -, h⟩ := Except.bind_eq_ok_iff.mp h
    obtain ⟨rfl, -⟩ := Prod.mk.inj (Except.ok.inj h)
    simp [Flags.node, Node.collect_ofSet]
  | repetition q t ih =>
    obtain ⟨⟨ms, _⟩, hms, h⟩ := Except.bind_eq_ok_iff.mp h
    obtain ⟨rfl, -⟩ := Prod.mk.inj (Except.ok.inj h)
    have halternation := List.Subset.trans (Node.collect_alternation_subset ms) (ih hms)
    simpa [collect] using List.Subset.trans (Node.collect_repeated_subset _ _) halternation
  | group kind t ih =>
    cases kind with
    | capture index name =>
      obtain ⟨⟨ms, _⟩, hms, h⟩ := Except.bind_eq_ok_iff.mp h
      obtain ⟨rfl, -⟩ := Prod.mk.inj (Except.ok.inj h)
      have halternation := List.Subset.trans (Node.collect_alternation_subset ms) (ih hms)
      simpa [Node.collect, collect] using hf index name halternation
    | plain d =>
      obtain ⟨⟨ms, _⟩, hms, h⟩ := Except.bind_eq_ok_iff.mp h
      obtain ⟨rfl, -⟩ := Prod.mk.inj (Except.ok.inj h)
      have halternation := List.Subset.trans (Node.collect_alternation_subset ms) (ih hms)
      simpa [collect] using halternation
  | seq t u iht ihu =>
    obtain ⟨⟨ns₁, _⟩, hns, h⟩ := Except.bind_eq_ok_iff.mp h
    obtain ⟨⟨ms, _⟩, hms, h⟩ := Except.bind_eq_ok_iff.mp h
    obtain ⟨rfl, -⟩ := Prod.mk.inj (Except.ok.inj h)
    have hfirst := List.Subset.trans (Node.collect_alternation_subset ns₁) (iht hns)
    have hsecond := List.Subset.trans (Node.collect_alternation_subset ms) (ihu hms)
    simpa [Node.collect_append, collect] using append_subset_append hfirst hsecond
  | alt t u iht ihu =>
    obtain ⟨⟨ns₁, _⟩, hns, h⟩ := Except.bind_eq_ok_iff.mp h
    obtain ⟨⟨ms, _⟩, hms, h⟩ := Except.bind_eq_ok_iff.mp h
    obtain ⟨rfl, -⟩ := Prod.mk.inj (Except.ok.inj h)
    rw [List.flatMap_append, collect]
    exact append_subset_append (iht hns) (ihu hms)

/-- From a pattern nothing is collected but what is collected from its tree. -/
theorem Node.collect_subset_of_parse (hf : Grows f) {text : List Char} {n : Node}
    (h : Node.parse text = .ok n) :
    ∃ t, Tree.parse text = .ok t ∧ n.collect f ⊆ t.collect f := by
  obtain ⟨t, ht, h⟩ := Except.bind_eq_ok_iff.mp h
  obtain ⟨⟨ns, _⟩, hns, rfl⟩ := Except.map_eq_ok_iff.mp h
  exact ⟨t, ht, List.Subset.trans (collect_alternation_subset ns)
    (Tree.collect_meanings_subset hf hns)⟩

/-! ## Groups -/

/-- A group is put in front of those in it. -/
def putGroup (i : Nat) (name : Option String) (inner : List (Nat × Option String)) :
    List (Nat × Option String) :=
  (i, name) :: inner

theorem grows_putGroup : Grows putGroup := fun i name _ _ h => List.cons_subset_cons (i, name) h

theorem Node.groups_eq_collect (n : Node) : n.groups = n.collect putGroup := by
  induction n with
  | empty | chars | look => rfl
  | capture i name n ih => rw [groups, collect, ih, putGroup]
  | seq n m ihn ihm | alt n m ihn ihm => rw [groups, collect, ihn, ihm]
  | repetition q n ih => rw [groups, collect, ih]

end Telemetry.Regex
