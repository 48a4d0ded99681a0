import Mathlib.Data.List.Forall2
import Telemetry.Config.Compile

/-!
# Compiling in steps

A compiler that goes through several checks gives a value only if every check passes. The lemmas
here open such programs one check at a time, and lift what is known of the compiler of an item to
the compiler of a list of them (`compileItems_iff`).
-/

namespace Except

variable {ε ε' α β : Type _}

/-- A program in two steps gives a value if the first step does and the second one does with it. -/
theorem bind_eq_ok_iff {x : Except ε α} {f : α → Except ε β} {b : β} :
    x >>= f = .ok b ↔ ∃ a, x = .ok a ∧ f a = .ok b := by
  cases x with
  | error e => simp [bind, Except.bind]
  | ok a => simp [bind, Except.bind]

theorem bind_eq_error_iff {x : Except ε α} {f : α → Except ε β} {e : ε} :
    x >>= f = .error e ↔ x = .error e ∨ ∃ a, x = .ok a ∧ f a = .error e := by
  cases x with
  | error e' => simp [bind, Except.bind]
  | ok a => simp [bind, Except.bind]

/-- A step that fails ends the program. -/
theorem error_bind {e : ε} {f : α → Except ε β} : (Except.error e >>= f) = .error e := rfl

theorem ok_bind (a : α) (f : α → Except ε β) : (Except.ok a >>= f) = f a := rfl

theorem pure_eq_ok_iff {a b : α} : (pure a : Except ε α) = .ok b ↔ a = b := by
  simp [pure, Except.pure]

theorem map_eq_ok_iff {x : Except ε α} {f : α → β} {b : β} :
    x.map f = .ok b ↔ ∃ a, x = .ok a ∧ f a = b := by
  cases x with
  | error e => simp [Except.map]
  | ok a => simp [Except.map]

theorem map_eq_error_iff {x : Except ε α} {f : α → β} {e : ε} :
    x.map f = .error e ↔ x = .error e := by
  cases x with
  | error e => simp [Except.map]
  | ok a => simp [Except.map]

theorem mapError_eq_ok_iff {x : Except ε α} {f : ε → ε'} {a : α} :
    x.mapError f = .ok a ↔ x = .ok a := by
  cases x with
  | error e => simp [Except.mapError]
  | ok a => simp [Except.mapError]

theorem mapError_eq_error_iff {x : Except ε α} {f : ε → ε'} {e : ε'} :
    x.mapError f = .error e ↔ ∃ e', x = .error e' ∧ f e' = e := by
  cases x with
  | error e => simp [Except.mapError]
  | ok a => simp [Except.mapError]

theorem exists_map_eq_ok_iff {x : Except ε α} {f : α → β} :
    (∃ b, x.map f = .ok b) ↔ ∃ a, x = .ok a := by
  simp only [map_eq_ok_iff]
  exact ⟨fun ⟨_, a, h, _⟩ => ⟨a, h⟩, fun ⟨a, h⟩ => ⟨f a, a, h, rfl⟩⟩

theorem isOk_iff {x : Except ε α} : x.isOk = true ↔ ∃ a, x = .ok a := by
  cases x with
  | error e => simp [Except.isOk, Except.toBool]
  | ok a => simp [Except.isOk, Except.toBool]

/-- The value of a program that `isOk` tells to have one. -/
theorem exists_of_isOk {x : Except ε α} (h : x.isOk = true) : ∃ a, x = .ok a :=
  isOk_iff.mp h

/-- The value of a program of which something is checked. -/
theorem exists_of_any {x : Except ε α} {P : α → Bool} (h : x.toOption.any P = true) :
    ∃ a, x = .ok a ∧ P a = true := by
  cases x with
  | error e => cases h
  | ok a => exact ⟨a, rfl, h⟩

theorem exists_error_of_isOk_eq_false {x : Except ε α} (h : x.isOk = false) :
    ∃ e, x = .error e := by
  cases x with
  | error e => exact ⟨e, rfl⟩
  | ok a => simp [Except.isOk, Except.toBool] at h

end Except

namespace List.Forall₂

variable {α β : Type _} {R : α → β → Prop}

/-- What is left of a relation between two lists at a place of the first one. -/
theorem exists_of_getElem?_left {as : List α} {bs : List β} (h : Forall₂ R as bs) {i : Nat} {a : α}
    (ha : as[i]? = some a) : ∃ b, bs[i]? = some b ∧ R a b := by
  induction h generalizing i with
  | nil => cases ha
  | cons hab _ ih =>
    cases i with
    | zero =>
      obtain rfl := Option.some.inj ha
      exact ⟨_, rfl, hab⟩
    | succ i => exact ih ha

theorem exists_of_getElem?_right {as : List α} {bs : List β} (h : Forall₂ R as bs) {i : Nat}
    {b : β} (hb : bs[i]? = some b) : ∃ a, as[i]? = some a ∧ R a b :=
  h.flip.exists_of_getElem?_left hb

/-- What is left of a relation between two lists at a member of the first one. -/
theorem exists_of_mem_left {as : List α} {bs : List β} (h : Forall₂ R as bs) {a : α}
    (ha : a ∈ as) : ∃ b ∈ bs, R a b := by
  obtain ⟨i, hi⟩ := List.mem_iff_getElem?.mp ha
  obtain ⟨b, hb, hr⟩ := h.exists_of_getElem?_left hi
  exact ⟨b, List.mem_of_getElem? hb, hr⟩

theorem exists_of_mem_right {as : List α} {bs : List β} (h : Forall₂ R as bs) {b : β}
    (hb : b ∈ bs) : ∃ a ∈ as, R a b :=
  h.flip.exists_of_mem_left hb

/-- A list of which each member has a partner has a list of partners. -/
theorem exists_of_forall_exists {as : List α} (h : ∀ a ∈ as, ∃ b, R a b) :
    ∃ bs, Forall₂ R as bs := by
  induction as with
  | nil => exact ⟨[], .nil⟩
  | cons a as ih =>
    obtain ⟨b, hb⟩ := h a List.mem_cons_self
    obtain ⟨bs, hbs⟩ := ih (fun a ha => h a (List.mem_cons_of_mem _ ha))
    exact ⟨b :: bs, .cons hb hbs⟩

end List.Forall₂

/-- A program on a list gives a list of what it gives of the items, one by one. -/
theorem Except.mapM_eq_ok_iff {ε α β : Type _} {f : α → Except ε β} {as : List α} {bs : List β} :
    as.mapM f = .ok bs ↔ List.Forall₂ (fun a b => f a = .ok b) as bs := by
  induction as generalizing bs with
  | nil => rw [List.mapM_nil, Except.pure_eq_ok_iff, List.forall₂_nil_left_iff, eq_comm]
  | cons a as ih =>
    simp only [List.mapM_cons, Except.bind_eq_ok_iff, Except.pure_eq_ok_iff, ih,
      List.forall₂_cons_left_iff]
    constructor
    · rintro ⟨b, hb, bs', hbs', rfl⟩
      exact ⟨b, bs', hb, hbs', rfl⟩
    · rintro ⟨b, bs', hb, hbs', rfl⟩
      exact ⟨b, hb, bs', hbs', rfl⟩

theorem Except.exists_mapM_eq_ok_iff {ε α β : Type _} {f : α → Except ε β} {as : List α} :
    (∃ bs, as.mapM f = .ok bs) ↔ ∀ a ∈ as, ∃ b, f a = .ok b := by
  simp only [Except.mapM_eq_ok_iff]
  constructor
  · rintro ⟨bs, h⟩ a ha
    obtain ⟨b, -, hb⟩ := h.exists_of_mem_left ha
    exact ⟨b, hb⟩
  · exact List.Forall₂.exists_of_forall_exists

namespace Telemetry.Config.Field

variable {α β : Type}

theorem compileItems_nil (field : Field) (compile : Field → α → Except Flaw β) (index : Nat) :
    field.compileItems compile index [] = .ok [] := rfl

theorem compileItems_cons_eq_ok_iff {field : Field} {compile : Field → α → Except Flaw β}
    {index : Nat} {a : α} {as : List α} {bs : List β} :
    field.compileItems compile index (a :: as) = .ok bs ↔
      ∃ b bs', compile (field.item index) a = .ok b ∧
        field.compileItems compile (index + 1) as = .ok bs' ∧ bs = b :: bs' := by
  rw [compileItems]
  cases h : compile (field.item index) a with
  | error e => simp
  | ok b =>
    simp only [Except.map_eq_ok_iff, Except.ok.injEq]
    constructor
    · rintro ⟨bs', hbs', rfl⟩
      exact ⟨b, bs', rfl, hbs', rfl⟩
    · rintro ⟨_, bs', rfl, hbs', rfl⟩
      exact ⟨bs', hbs', rfl⟩

/-- A list compiles if every item does, where the field does not matter to that. -/
theorem compileItems_iff {compile : Field → α → Except Flaw β} {P : α → Prop}
    (hP : ∀ f a, (∃ b, compile f a = .ok b) ↔ P a) (field : Field) (index : Nat) (as : List α) :
    (∃ bs, field.compileItems compile index as = .ok bs) ↔ ∀ a ∈ as, P a := by
  induction as generalizing index with
  | nil => simp [compileItems_nil]
  | cons a as ih =>
    simp only [compileItems_cons_eq_ok_iff, List.forall_mem_cons, ← ih (index + 1),
      ← hP (field.item index) a]
    constructor
    · rintro ⟨_, b, bs', hb, hbs', rfl⟩
      exact ⟨⟨b, hb⟩, ⟨bs', hbs'⟩⟩
    · rintro ⟨⟨b, hb⟩, ⟨bs', hbs'⟩⟩
      exact ⟨b :: bs', b, bs', hb, hbs', rfl⟩

/-- The items of a compiled list were compiled one by one. -/
theorem forall₂_of_compileItems {field : Field} {compile : Field → α → Except Flaw β} {index : Nat}
    {as : List α} {bs : List β} (h : field.compileItems compile index as = .ok bs) :
    List.Forall₂ (fun a b => ∃ place, compile place a = .ok b) as bs := by
  induction as generalizing index bs with
  | nil =>
    obtain rfl := Except.ok.inj h
    exact .nil
  | cons a as ih =>
    obtain ⟨b, bs', hb, hbs', rfl⟩ := compileItems_cons_eq_ok_iff.mp h
    exact .cons ⟨_, hb⟩ (ih hbs')

/-- What is in a compiled list was compiled from an item. -/
theorem exists_of_mem_compileItems {field : Field} {compile : Field → α → Except Flaw β}
    {index : Nat} {as : List α} {bs : List β} (h : field.compileItems compile index as = .ok bs)
    {b : β} (hb : b ∈ bs) : ∃ a ∈ as, ∃ place, compile place a = .ok b :=
  (forall₂_of_compileItems h).exists_of_mem_right hb

/-- A compiled list has as many items as what it was compiled from. -/
theorem length_of_compileItems {field : Field} {compile : Field → α → Except Flaw β} {index : Nat}
    {as : List α} {bs : List β} (h : field.compileItems compile index as = .ok bs) :
    bs.length = as.length :=
  (forall₂_of_compileItems h).length_eq.symm

/-! ## Patterns -/

theorem compilePattern_eq_ok_iff {field : Field} {anchoring : Anchoring} {source : String}
    {pattern : Pattern} :
    field.compilePattern anchoring source = .ok pattern ↔
      Pattern.compile anchoring source = .ok pattern :=
  Except.mapError_eq_ok_iff

theorem compilePatternSet_eq_ok_iff {field : Field} {anchoring : Anchoring}
    {sources : List String} {set : PatternSet} :
    field.compilePatternSet anchoring sources = .ok set ↔
      PatternSet.compile anchoring sources = .ok set :=
  Except.mapError_eq_ok_iff

theorem checkGroups_eq_ok_iff {field : Field} {declared : Option (List String)}
    {pattern pattern' : Pattern} :
    field.checkGroups declared pattern = .ok pattern' ↔
      pattern' = pattern ∧ ∀ names ∈ declared, names = pattern.groupNames := by
  unfold checkGroups
  cases declared with
  | none => simp [eq_comm]
  | some names =>
    by_cases h : names = pattern.groupNames
    · simp [h, eq_comm]
    · simp [h]

theorem requireGroups_eq_ok_iff {field : Field} {pattern pattern' : Pattern} :
    field.requireGroups pattern = .ok pattern' ↔
      pattern' = pattern ∧ pattern.groupNames ≠ [] := by
  unfold requireGroups
  cases h : pattern.groupNames with
  | nil => simp
  | cons name names => simp [eq_comm]

end Telemetry.Config.Field

namespace Telemetry

/-- A pattern compiles to the node that its text reads as. -/
theorem Regex.compile_eq_ok {source : String} {r : Regex}
    (h : compile source = .ok r) :
    ∃ n, Node.parse source.toList = .ok n ∧ r = ofNode n := by
  unfold compile at h
  split at h
  · simp at h
  · next n hn =>
    split at h
    · simp at h
    · exact ⟨n, hn, (Except.ok.inj h).symm⟩

@[simp]
theorem Anchoring.source_search (source : String) : Anchoring.search.source source = source := rfl

/-- A pattern compiles to the node that its text reads as, with its anchors. -/
theorem Pattern.exists_node_of_compile {anchoring : Anchoring} {source : String}
    {pattern : Pattern} (h : compile anchoring source = .ok pattern) :
    ∃ n, Regex.Node.parse (anchoring.source source).toList = .ok n ∧
      pattern = ⟨source, .ofNode n⟩ := by
  unfold compile at h
  split at h
  · simp at h
  · split at h
    · simp at h
    · next alone halone =>
      cases anchoring with
      | search =>
        obtain ⟨n, hn, rfl⟩ := Regex.compile_eq_ok halone
        exact ⟨n, hn, (Except.ok.inj h).symm⟩
      | full =>
        simp only at h
        split at h
        · simp at h
        · next anchored hanchored =>
          obtain ⟨n, hn, rfl⟩ := Regex.compile_eq_ok hanchored
          exact ⟨n, hn, (Except.ok.inj h).symm⟩

end Telemetry

namespace Telemetry.PatternSet

theorem compileItems_cons_eq_ok_iff {anchoring : Anchoring} {index : Nat} {source : String}
    {sources : List String} {patterns : List Pattern} :
    compileItems anchoring index (source :: sources) = .ok patterns ↔
      ∃ p ps, Pattern.compile anchoring source = .ok p ∧
        compileItems anchoring (index + 1) sources = .ok ps ∧ patterns = p :: ps := by
  rw [compileItems]
  cases h : Pattern.compile anchoring source with
  | error e => simp
  | ok p =>
    simp only [Except.map_eq_ok_iff, Except.ok.injEq]
    constructor
    · rintro ⟨ps, hps, rfl⟩
      exact ⟨p, ps, rfl, hps, rfl⟩
    · rintro ⟨_, ps, rfl, hps, rfl⟩
      exact ⟨ps, hps, rfl⟩

/-- The patterns of a list compile to the compiled ones in order, and to nothing else. -/
theorem compileItems_eq_ok_iff (anchoring : Anchoring) (index : Nat) {sources : List String}
    {patterns : List Pattern} :
    compileItems anchoring index sources = .ok patterns ↔
      List.Forall₂ (fun s p => Pattern.compile anchoring s = .ok p) sources patterns := by
  induction sources generalizing index patterns with
  | nil => simp [compileItems, eq_comm]
  | cons s sources ih =>
    simp only [compileItems_cons_eq_ok_iff, ih, List.forall₂_cons_left_iff]

/-- The weight of patterns that are tried together; their groups are not recorded. -/
def weight (patterns : List Pattern) : Nat :=
  Regex.Node.weight false (patterns.map (fun p => p.regex.node))

/-- What is compiled together is what compiles one by one. -/
theorem compile_joint {anchoring : Anchoring} {sources : List String} {patterns : List Pattern}
    (h : List.Forall₂ (fun s p => Pattern.compile anchoring s = .ok p) sources patterns) :
    Regex.Joint.compile (sources.map anchoring.source) =
      if Regex.weightLimit < weight patterns then .error .tooLarge
      else .ok (.ofNodes (patterns.map (fun p => p.regex.node))) := by
  have hnodes : (sources.map anchoring.source).mapM (fun s => Regex.Node.parse s.toList) =
      .ok (patterns.map (fun p => p.regex.node)) := by
    rw [Except.mapM_eq_ok_iff, List.forall₂_map_left_iff, List.forall₂_map_right_iff]
    refine h.imp fun source pattern hp => ?_
    obtain ⟨n, hn, rfl⟩ := Pattern.exists_node_of_compile hp
    exact hn
  rw [Regex.Joint.compile, hnodes]
  rfl

/-- A set compiles if its patterns do and weigh no more than is allowed together; it searches for
all of them. -/
theorem compile_eq_ok_iff {anchoring : Anchoring} {sources : List String} {set : PatternSet} :
    compile anchoring sources = .ok set ↔
      ∃ patterns, List.Forall₂ (fun s p => Pattern.compile anchoring s = .ok p) sources patterns ∧
        weight patterns ≤ Regex.weightLimit ∧
        set = ⟨.ofNodes (patterns.map (fun p => p.regex.node))⟩ := by
  simp only [← compileItems_eq_ok_iff anchoring 0]
  rw [compile]
  cases h : compileItems anchoring 0 sources with
  | error e => simp
  | ok patterns =>
    have hpatterns := (compileItems_eq_ok_iff anchoring 0).mp h
    by_cases hw : weight patterns ≤ Regex.weightLimit
    · simp [compile_joint hpatterns, hw, Nat.not_lt.mpr hw, eq_comm]
    · simp [compile_joint hpatterns, hw, Nat.lt_of_not_le hw]

end Telemetry.PatternSet
