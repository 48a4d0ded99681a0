import Telemetry.Proofs.Regex.Collecting

/-!
# How groups are numbered

While a pattern is read, a capturing group begins or none does (`Builder.Stepped.begins`), and each
that begins gets the next index, counted from one, and a name that is not taken. So the groups of a
tree have the indices from one on, in the order in which they open (`Tree.counted_of_parse`).
Neither resolving flags nor normal form adds a group, so of the groups of a compiled pattern no one
is the whole match, and no two have the same name (`Node.numbered_of_parse`,
`Regex.nodup_groupNames`).
-/

namespace Telemetry.Regex

/-! ## Numbered groups -/

/-- Groups, each an index and perhaps a name, as they are when `count` of them have begun and
`names` are taken. -/
structure Numbered (count : Nat) (names : List String) (groups : List (Nat × Option String)) :
    Prop where
  one_le : ∀ g ∈ groups, 1 ≤ g.1
  le_count : ∀ g ∈ groups, g.1 ≤ count
  taken : ∀ i name, (i, some name) ∈ groups → name ∈ names
  unique : ∀ i j name, (i, some name) ∈ groups → (j, some name) ∈ groups → i = j

namespace Numbered

variable {count : Nat} {names : List String} {groups groups' : List (Nat × Option String)}

theorem nil : Numbered 0 [] [] where
  one_le := by simp
  le_count := by simp
  taken := by simp
  unique := by simp

theorem of_subset (h : Numbered count names groups) (hsubset : groups' ⊆ groups) :
    Numbered count names groups' where
  one_le := fun g hg => h.one_le g (hsubset hg)
  le_count := fun g hg => h.le_count g (hsubset hg)
  taken := fun i name hmem => h.taken i name (hsubset hmem)
  unique := fun i j name hi hj => h.unique i j name (hsubset hi) (hsubset hj)

/-- A group that begins gets the next index, and a name that is not taken if it has one. -/
theorem concat (h : Numbered count names groups) {name : Option String}
    (hname : ∀ n ∈ name, n ∉ names) :
    Numbered (count + 1) (names ++ name.toList) (groups ++ [(count + 1, name)]) where
  one_le := List.forall_mem_append.mpr ⟨h.one_le, by simp⟩
  le_count := List.forall_mem_append.mpr
    ⟨fun g hg => Nat.le_succ_of_le (h.le_count g hg), by simp⟩
  taken := by
    intro i other hmem
    rcases List.mem_append.mp hmem with hold | hnew
    · exact List.mem_append_left _ (h.taken i other hold)
    · obtain ⟨-, rfl⟩ := Prod.mk.inj (List.mem_singleton.mp hnew)
      simp
  unique := by
    intro i j other hi hj
    rcases List.mem_append.mp hi with hold | hnew
    · rcases List.mem_append.mp hj with hold' | hnew'
      · exact h.unique i j other hold hold'
      · obtain ⟨-, rfl⟩ := Prod.mk.inj (List.mem_singleton.mp hnew')
        exact absurd (h.taken i other hold) (hname other rfl)
    · rcases List.mem_append.mp hj with hold' | hnew'
      · obtain ⟨-, rfl⟩ := Prod.mk.inj (List.mem_singleton.mp hnew)
        exact absurd (h.taken j other hold') (hname other rfl)
      · obtain ⟨rfl, -⟩ := Prod.mk.inj (List.mem_singleton.mp hnew)
        obtain ⟨rfl, -⟩ := Prod.mk.inj (List.mem_singleton.mp hnew')
        rfl

end Numbered

/-! ## Reading -/

/-- The group of a pair of parentheses, if it captures. -/
def GroupKind.groups : GroupKind → List (Nat × Option String)
  | .capture index name => [(index, name)]
  | .plain _ => []

/-- The capturing groups of a tree. -/
def Tree.groups : Tree → List (Nat × Option String)
  | .group kind t => kind.groups ++ t.groups
  | .repetition _ t => t.groups
  | .seq t u | .alt t u => t.groups ++ u.groups
  | _ => []

theorem Tree.groups_sequence (ts : List Tree) : (sequence ts).groups = ts.flatMap groups := by
  induction ts with
  | nil => rfl
  | cons t ts ih =>
    cases ts with
    | nil => simp [sequence]
    | cons u ts => rw [sequence, groups, ih, List.flatMap_cons] <;> simp

theorem Tree.groups_alternatives (ts : List Tree) :
    (alternatives ts).groups = ts.flatMap groups := by
  induction ts with
  | nil => rfl
  | cons t ts ih =>
    cases ts with
    | nil => simp [alternatives]
    | cons u ts => rw [alternatives, groups, ih, List.flatMap_cons] <;> simp

/-- The groups that had begun in the enclosing group when a group was opened, and it. -/
def OpenGroup.begun (g : OpenGroup) : List (Nat × Option String) :=
  (g.alternatives.reverse ++ g.items.reverse).flatMap Tree.groups ++ g.kind.groups

namespace Builder

/-- The groups that have begun, in the order in which they opened. -/
def begun (b : Builder) : List (Nat × Option String) :=
  b.opened.reverse.flatMap OpenGroup.begun ++
    (b.alternatives.reverse ++ b.items.reverse).flatMap Tree.groups

theorem begun_push (b : Builder) (t : Tree) : (b.push t).begun = b.begun ++ t.groups := by
  simp [begun, push]

theorem begun_alternative (b : Builder) : b.alternative.begun = b.begun := by
  simp [begun, alternative, Tree.groups_sequence]

theorem begun_openGroup (b : Builder) (kind : GroupKind) (verbose : Bool) :
    (b.openGroup kind verbose).begun = b.begun ++ kind.groups := by
  simp [begun, openGroup, OpenGroup.begun]

theorem groups_contents (b : Builder) :
    b.contents.groups = (b.alternatives.reverse ++ b.items.reverse).flatMap Tree.groups := by
  simp [contents, Tree.groups_alternatives, Tree.groups_sequence]

theorem groups_of_readClass {verbose : Bool} {text left : List Char} {t : Tree}
    (h : readClass verbose text = .ok (t, left)) : t.groups = [] := by
  obtain ⟨_, -, h⟩ := Except.bind_eq_ok_iff.mp h
  obtain ⟨_, -, h⟩ := Except.bind_eq_ok_iff.mp h
  obtain ⟨rfl, -⟩ := Prod.mk.inj (Except.pure_eq_ok_iff.mp h)
  rfl

/-- What the reading of an item makes of a builder. -/
inductive Stepped (b : Builder) : Builder → Prop where
  | stayed : Stepped b b
  | pushed {t : Tree} (ht : t.groups = []) : Stepped b (b.push t)
  | repeated {t : Tree} {b' : Builder} (ht : b.takeOperand = .ok (t, b')) (q : Quantifier) :
      Stepped b (b'.push (.repetition q t))
  | alternated : Stepped b b.alternative
  | closed {b' : Builder} (h : b.closeGroup = .ok b') : Stepped b b'
  | applied {opening : Opening} {b' : Builder} (h : b.apply opening = .ok b') : Stepped b b'

theorem stepped_of_step {b b' : Builder} {text left : List Char}
    (hstep : b.step text = .ok (b', left)) : b.Stepped b' := by
  unfold Builder.step at hstep
  split at hstep
  case h_2 =>
    obtain ⟨_, -, hstep⟩ := Except.bind_eq_ok_iff.mp hstep
    obtain ⟨_, happly, hstep⟩ := Except.bind_eq_ok_iff.mp hstep
    obtain ⟨rfl, -⟩ := Prod.mk.inj (Except.ok.inj hstep)
    exact .applied happly
  case h_3 =>
    obtain ⟨_, hclose, hstep⟩ := Except.bind_eq_ok_iff.mp hstep
    obtain ⟨rfl, -⟩ := Prod.mk.inj (Except.ok.inj hstep)
    exact .closed hclose
  case h_5 =>
    obtain ⟨⟨t, _⟩, hread, hstep⟩ := Except.bind_eq_ok_iff.mp hstep
    obtain ⟨rfl, -⟩ := Prod.mk.inj (Except.ok.inj hstep)
    exact .pushed (groups_of_readClass hread)
  case h_6 =>
    obtain ⟨⟨operand, b₁⟩, htake, hstep⟩ := Except.bind_eq_ok_iff.mp hstep
    obtain ⟨⟨q, _⟩, -, hstep⟩ := Except.bind_eq_ok_iff.mp hstep
    obtain ⟨rfl, -⟩ := Prod.mk.inj (Except.ok.inj hstep)
    exact .repeated htake q
  case h_7 =>
    obtain ⟨⟨p, _⟩, -, hstep⟩ := Except.bind_eq_ok_iff.mp hstep
    obtain ⟨rfl, -⟩ := Prod.mk.inj (Except.ok.inj hstep)
    exact .pushed (by cases p <;> rfl)
  case h_11 =>
    split at hstep
    · obtain ⟨⟨operand, b₁⟩, htake, hstep⟩ := Except.bind_eq_ok_iff.mp hstep
      obtain ⟨rfl, -⟩ := Prod.mk.inj (Except.ok.inj hstep)
      exact .repeated htake _
    · obtain ⟨rfl, -⟩ := Prod.mk.inj (Except.ok.inj hstep)
      exact .pushed rfl
  all_goals obtain ⟨rfl, -⟩ := Prod.mk.inj (Except.ok.inj hstep)
  case h_1 => exact .stayed
  case h_4 => exact .alternated
  all_goals exact .pushed rfl

/-- What every step keeps of a builder, the reading of a text keeps. -/
theorem run_invariant {P : Builder → Prop} (hP : ∀ b b' : Builder, b.Stepped b' → P b → P b')
    {b b' : Builder} {fuel : Nat} {text blanks : List Char} (h : P b)
    (hrun : Builder.run fuel b text = .ok (b', blanks)) : P b' := by
  induction fuel generalizing b text with
  | zero =>
    obtain ⟨rfl, -⟩ := Prod.mk.inj (Except.ok.inj hrun)
    exact h
  | succ fuel ih =>
    rw [Builder.run] at hrun
    split at hrun
    · obtain ⟨rfl, -⟩ := Prod.mk.inj (Except.ok.inj hrun)
      exact h
    · split at hrun
      · cases hrun
      · next hstep => exact ih (hP _ _ (stepped_of_step hstep) h) hrun

/-- What a builder has counted when a step of the reading is done: no group has begun, or one with
the next index and a name that was not taken, if it has one. -/
inductive Begins (b b' : Builder) : Prop where
  | none : b'.captures = b.captures → b'.names = b.names → b'.begun = b.begun → Begins b b'
  | one (name : Option String) : (∀ n ∈ name, n ∉ b.names) → b'.captures = b.captures + 1 →
      b'.names = b.names ++ name.toList → b'.begun = b.begun ++ [(b.captures + 1, name)] →
      Begins b b'

theorem begins_apply {b b' : Builder} {opening : Opening} (h : b.apply opening = .ok b') :
    b.Begins b' := by
  cases opening with
  | directive d =>
    obtain rfl := Except.ok.inj h
    refine .none rfl rfl ?_
    rw [begun_push, Tree.groups, List.append_nil]
    · rfl
    all_goals simp
  | plain d =>
    obtain rfl := Except.ok.inj h
    refine .none rfl rfl ?_
    rw [begun_openGroup, GroupKind.groups, List.append_nil]
  | capture name =>
    cases name with
    | none =>
      obtain rfl := Except.ok.inj h
      exact .one none (by simp) rfl (by simp [openGroup]) (begun_openGroup _ _ _)
    | some name =>
      simp only [Builder.apply] at h
      split at h
      · cases h
      · next hname =>
        obtain rfl := Except.ok.inj h
        exact .one (some name) (by simpa using hname) rfl rfl (begun_openGroup _ _ _)

/-- Only an opening parenthesis begins a group. -/
theorem Stepped.begins {b b' : Builder} (h : b.Stepped b') : b.Begins b' := by
  cases h with
  | stayed => exact .none rfl rfl rfl
  | pushed ht =>
    refine .none rfl rfl ?_
    rw [begun_push, ht, List.append_nil]
  | repeated ht q =>
    unfold takeOperand at ht
    split at ht
    · next u items hitems =>
      split at ht
      · obtain ⟨rfl, rfl⟩ := Prod.mk.inj (Except.ok.inj ht)
        exact .none rfl rfl (by simp [begun, push, Tree.groups, hitems])
      · cases ht
    · cases ht
  | alternated => exact .none rfl rfl (begun_alternative b)
  | closed hclose =>
    unfold closeGroup at hclose
    split at hclose
    · cases hclose
    · next g outer hopened =>
      obtain rfl := Except.ok.inj hclose
      refine .none rfl rfl ?_
      -- what the group held stands behind it, and the group behind what came before it
      simp only [begun, hopened, List.reverse_cons, List.flatMap_append, List.flatMap_cons,
        List.flatMap_nil, List.append_nil, List.append_assoc, OpenGroup.begun, Tree.groups,
        groups_contents]
  | applied happly => exact begins_apply happly

/-- The groups that have begun are numbered as the builder counts, and have the indices from one on
in the order in which they opened. -/
structure Counts (b : Builder) : Prop where
  numbered : Numbered b.captures b.names b.begun
  indices : b.begun.map (·.1) = List.range' 1 b.captures

theorem Counts.of_begins {b b' : Builder} (h : b.Counts) (hbegins : b.Begins b') : b'.Counts := by
  cases hbegins with
  | none hcaptures hnames hbegun =>
    constructor
    · rw [hcaptures, hnames, hbegun]
      exact h.numbered
    · rw [hcaptures, hbegun]
      exact h.indices
  | one name hname hcaptures hnames hbegun =>
    constructor
    · rw [hcaptures, hnames, hbegun]
      exact h.numbered.concat hname
    · rw [hcaptures, hbegun, List.map_append, h.indices]
      show List.range' 1 b.captures ++ [b.captures + 1] = List.range' 1 (b.captures + 1)
      rw [List.range'_concat, Nat.one_mul, Nat.add_comm]

end Builder

/-- The groups of a pattern are numbered, and have the indices from one on in the order in which
they open. -/
theorem Tree.counted_of_parse {text : List Char} {t : Tree} (h : Tree.parse text = .ok t) :
    ∃ count names, Numbered count names t.groups ∧
      t.groups.map (·.1) = List.range' 1 count := by
  obtain ⟨⟨b, blanks⟩, hrun, h⟩ := Except.bind_eq_ok_iff.mp h
  obtain ⟨t', hfinish, h⟩ := Except.bind_eq_ok_iff.mp h
  have hstart : ({} : Builder).Counts := ⟨Numbered.nil, rfl⟩
  have hcounts : b.Counts :=
    Builder.run_invariant (fun _ _ hstep hb => hb.of_begins hstep.begins) hstart hrun
  split at h
  · cases h
  obtain rfl := Except.ok.inj h
  rw [Builder.finish] at hfinish
  split at hfinish
  · next hopened =>
    obtain rfl := Except.ok.inj hfinish
    -- no group is open any more, so those that have begun are those of the tree
    have hbegun : b.begun = b.contents.groups := by
      rw [Builder.begun, List.isEmpty_iff.mp hopened, Builder.groups_contents]
      rfl
    exact ⟨_, _, hbegun ▸ hcounts.numbered, hbegun ▸ hcounts.indices⟩
  · cases hfinish

/-! ## Nodes -/

theorem Tree.groups_eq_collect (t : Tree) : t.groups = t.collect putGroup := by
  induction t with
  | group kind t ih =>
    cases kind with
    | capture i name => rw [groups, collect, ih, GroupKind.groups, putGroup, List.singleton_append]
    | plain d => rw [groups, collect, ih, GroupKind.groups, List.nil_append]
  | repetition q t ih => rw [groups, collect, ih]
  | seq t u iht ihu | alt t u iht ihu => rw [groups, collect, iht, ihu]
  | _ => rfl

/-- What a pattern matches has no groups but those of its tree. -/
theorem Node.groups_subset_of_parse {text : List Char} {n : Node} (h : Node.parse text = .ok n) :
    ∃ t, Tree.parse text = .ok t ∧ n.groups ⊆ t.groups := by
  obtain ⟨t, ht, hsubset⟩ := collect_subset_of_parse grows_putGroup h
  rw [← groups_eq_collect, ← Tree.groups_eq_collect] at hsubset
  exact ⟨t, ht, hsubset⟩

/-- The groups of what a pattern matches are numbered. -/
theorem Node.numbered_of_parse {text : List Char} {n : Node} (h : Node.parse text = .ok n) :
    ∃ count names, Numbered count names n.groups := by
  obtain ⟨t, ht, hsubset⟩ := groups_subset_of_parse h
  obtain ⟨count, names, hnumbered, -⟩ := Tree.counted_of_parse ht
  exact ⟨count, names, hnumbered.of_subset hsubset⟩

/-! ## Named groups -/

theorem mem_groups_of_mem_namedGroups {r : Regex} {i : Nat} {name : String}
    (h : (i, name) ∈ r.namedGroups) : (i, some name) ∈ r.node.groups := by
  obtain ⟨j, -, h⟩ := List.mem_filterMap.mp h
  obtain ⟨name', hname, h⟩ := Option.map_eq_some_iff.mp h
  obtain ⟨rfl, rfl⟩ := Prod.mk.inj h
  have hlookup := Option.join_eq_some_iff.mp hname
  obtain ⟨before, after, heq, -⟩ := List.lookup_eq_some_iff.mp hlookup
  rw [heq]
  exact List.mem_append_right before List.mem_cons_self

/-- Named groups come in order of their indices. -/
theorem pairwise_namedGroups (r : Regex) :
    r.namedGroups.Pairwise (fun g g' => g.1 < g'.1) := by
  refine List.Pairwise.filterMap _ ?_ List.pairwise_lt_range
  intro i j hlt g hg g' hg'
  obtain ⟨_, -, rfl⟩ := Option.map_eq_some_iff.mp hg
  obtain ⟨_, -, rfl⟩ := Option.map_eq_some_iff.mp hg'
  exact hlt

/-- Named groups have names of their own. -/
theorem nodup_groupNames {r : Regex} {count : Nat} {names : List String}
    (h : Numbered count names r.node.groups) : r.groupNames.Nodup := by
  refine List.pairwise_map.mpr (List.Pairwise.imp_of_mem ?_ r.pairwise_namedGroups)
  intro g g' hg hg' hlt heq
  have hmem : (g'.1, some g.2) ∈ r.node.groups := by
    rw [heq]
    exact mem_groups_of_mem_namedGroups hg'
  exact Nat.ne_of_lt hlt (h.unique g.1 g'.1 g.2 (mem_groups_of_mem_namedGroups hg) hmem)

end Telemetry.Regex
