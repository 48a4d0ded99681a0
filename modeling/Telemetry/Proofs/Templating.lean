import Mathlib.Data.List.Induction
import Telemetry.Relabeler

/-!
# What a template leaves behind

A new subject is put together from stretches of the old one and from placeholders. The groups are
gone through in order of their indices, and one gets a placeholder if it starts behind the last one
that got one. So a group that lies before one with a smaller index and outside of it stays in the
text. All that the groups cover goes exactly if each group lies in one before it or behind all of
those (`LaidOut`). Main statements: `templated_eq_parts`, `covered_iff_laidOut` and
`captured_replaced_iff`.
-/

namespace Telemetry

/-! ## Stretches -/

namespace Regex.Span

/-- Whether a stretch lies in another one. -/
def Within (inner outer : Span) : Prop := outer.start ≤ inner.start ∧ inner.stop ≤ outer.stop

/-- Whether a position lies in a stretch. -/
def Covers (span : Span) (pos : Nat) : Prop := span.start ≤ pos ∧ pos < span.stop

instance (inner outer : Span) : Decidable (inner.Within outer) :=
  inferInstanceAs (Decidable (_ ∧ _))

theorem Within.refl (span : Span) : span.Within span := ⟨Nat.le_refl _, Nat.le_refl _⟩

theorem Within.trans {a b c : Span} (hab : a.Within b) (hbc : b.Within c) : a.Within c :=
  ⟨Nat.le_trans hbc.1 hab.1, Nat.le_trans hab.2 hbc.2⟩

theorem Covers.within {a b : Span} {pos : Nat} (h : a.Covers pos) (hab : a.Within b) :
    b.Covers pos :=
  ⟨Nat.le_trans hab.1 h.1, Nat.lt_of_lt_of_le h.2 hab.2⟩

end Regex.Span

namespace Relabeler

open Regex (Span)

/-! ## Parts -/

/-- What a new subject is put together from. -/
inductive Part where
  /-- The characters of the subject from one position to another, as they are. -/
  | copied (start stop : Nat)
  /-- `{name}`, in place of what the group called `name` covers. -/
  | placeholder (name : String) (span : Span)
  deriving DecidableEq

/-- The characters that a part puts into the new subject. -/
def Part.chars (text : Array Char) : Part → List Char
  | .copied start stop => (text.extract start stop).toList
  | .placeholder name _ => '{' :: name.toList ++ ['}']

/-- Whether a part takes the character at a position over. -/
def Part.Copies : Part → Nat → Prop
  | .copied start stop, pos => start ≤ pos ∧ pos < stop
  | .placeholder .., _ => False

/-- The groups that get a placeholder, if the last one before ends at the position `last`. -/
def placed : Nat → List (String × Span) → List (String × Span)
  | _, [] => []
  | last, group :: groups =>
    if last ≤ group.2.start then group :: placed group.2.stop groups else placed last groups

/-- The parts of a new subject from the position `last` on, with the groups that get a placeholder.
The old subject has `size` characters. -/
def parts (size : Nat) : Nat → List (String × Span) → List Part
  | last, [] => [.copied last size]
  | last, (name, span) :: groups =>
    .copied last span.start :: .placeholder name span :: parts size span.stop groups

/-- A new subject consists of its parts. -/
theorem templated_eq_parts (text : Array Char) (last : Nat) (groups : List (String × Span)) :
    templated text last groups =
      (parts text.size last (placed last groups)).flatMap (Part.chars text) := by
  induction groups generalizing last with
  | nil => simp [templated, placed, parts, Part.chars]
  | cons group groups ih =>
    obtain ⟨name, span⟩ := group
    rw [templated, placed]
    split
    · rw [ih, parts, List.flatMap_cons, List.flatMap_cons]
      simp [Part.chars]
    · exact ih last

/-! ## The groups that get a placeholder -/

variable {last : Nat} {groups before after : List (String × Span)} {group : String × Span}

/-- Where the last group that gets a placeholder ends. -/
def edge : Nat → List (String × Span) → Nat
  | last, [] => last
  | last, group :: groups =>
    if last ≤ group.2.start then edge group.2.stop groups else edge last groups

theorem placed_append (last : Nat) (before after : List (String × Span)) :
    placed last (before ++ after) = placed last before ++ placed (edge last before) after := by
  induction before generalizing last with
  | nil => rfl
  | cons group before ih =>
    rw [List.cons_append, placed, placed, edge]
    split
    · rw [ih, List.cons_append]
    · exact ih last

theorem placed_sublist (last : Nat) (groups : List (String × Span)) :
    (placed last groups).Sublist groups := by
  induction groups generalizing last with
  | nil => exact .slnil
  | cons group groups ih =>
    rw [placed]
    split
    · exact (ih group.2.stop).cons_cons group
    · exact (ih last).cons group

theorem le_edge (last : Nat) (groups : List (String × Span)) : last ≤ edge last groups := by
  induction groups generalizing last with
  | nil => exact Nat.le_refl last
  | cons group groups ih =>
    rw [edge]
    split
    · next hstart => exact Nat.le_trans (Nat.le_trans hstart group.2.start_le_stop) (ih _)
    · exact ih last

theorem edge_le {stop : Nat} (hlast : last ≤ stop) (h : ∀ group ∈ groups, group.2.stop ≤ stop) :
    edge last groups ≤ stop := by
  induction groups generalizing last with
  | nil => exact hlast
  | cons group groups ih =>
    obtain ⟨hgroup, hgroups⟩ := List.forall_mem_cons.mp h
    rw [edge]
    split
    · exact ih hgroup hgroups
    · exact ih hlast hgroups

/-- A group that gets a placeholder starts where those before it have ended, and the edge is not
before its end. -/
theorem bounds_of_mem_placed (h : group ∈ placed last groups) :
    last ≤ group.2.start ∧ group.2.stop ≤ edge last groups := by
  induction groups generalizing last with
  | nil => cases h
  | cons first groups ih =>
    rw [placed] at h
    rw [edge]
    split at h
    · next hstart =>
      rw [if_pos hstart]
      rcases List.mem_cons.mp h with rfl | h
      · exact ⟨hstart, le_edge _ groups⟩
      · obtain ⟨hfirst, hstop⟩ := ih h
        exact ⟨Nat.le_trans (Nat.le_trans hstart first.2.start_le_stop) hfirst, hstop⟩
    · next hstart =>
      rw [if_neg hstart]
      exact ih h

/-- A group that starts behind the edge has got a placeholder. -/
theorem mem_placed_of_edge_le (hmem : group ∈ groups) (h : edge last groups ≤ group.2.start) :
    group ∈ placed last groups := by
  induction groups generalizing last with
  | nil => cases hmem
  | cons first groups ih =>
    rw [edge] at h
    rw [placed]
    split at h
    · next hstart =>
      rw [if_pos hstart]
      rcases List.mem_cons.mp hmem with rfl | hmem
      · exact List.mem_cons_self
      · exact List.mem_cons_of_mem _ (ih hmem h)
    · next hstart =>
      rw [if_neg hstart]
      rcases List.mem_cons.mp hmem with rfl | hmem
      · exact absurd (Nat.le_trans (le_edge last groups) h) hstart
      · exact ih hmem h

/-- The groups that get placeholders follow one another in the text. -/
theorem pairwise_placed (last : Nat) (groups : List (String × Span)) :
    (placed last groups).Pairwise (fun a b => a.2.stop ≤ b.2.start) := by
  induction groups generalizing last with
  | nil => exact .nil
  | cons group groups ih =>
    rw [placed]
    split
    · exact .cons (fun _ hlater => (bounds_of_mem_placed hlater).1) (ih group.2.stop)
    · exact ih last

/-! ## Groups that go -/

/-- Whether each group lies in one with a smaller index or behind all of those. -/
def LaidOut (groups : List (String × Span)) : Prop :=
  ∀ before group after, groups = before ++ group :: after →
    (∃ earlier ∈ before, group.2.Within earlier.2) ∨
      ∀ earlier ∈ before, earlier.2.stop ≤ group.2.start

/-- Whether each group lies in one that gets a placeholder. -/
def Covered (groups : List (String × Span)) : Prop :=
  ∀ group ∈ groups, ∃ outer ∈ placed 0 groups, group.2.Within outer.2

instance (groups : List (String × Span)) : Decidable (Covered groups) :=
  inferInstanceAs (Decidable (∀ group ∈ groups, ∃ outer ∈ placed 0 groups, group.2.Within outer.2))

theorem LaidOut.covered (h : LaidOut groups) : Covered groups := by
  induction groups using List.reverseRecOn with
  | nil => exact fun _ hmem => absurd hmem List.not_mem_nil
  | append_singleton before group ih =>
    have hbefore : Covered before := by
      refine ih fun earlier g later heq => h earlier g (later ++ [group]) ?_
      rw [heq, List.append_assoc, List.cons_append]
    intro g hg
    rw [placed_append]
    rcases List.mem_append.mp hg with hg | hg
    · obtain ⟨outer, houter, hwithin⟩ := hbefore g hg
      exact ⟨outer, List.mem_append_left _ houter, hwithin⟩
    · obtain rfl := List.mem_singleton.mp hg
      rcases h before g [] rfl with ⟨earlier, hearlier, hwithin⟩ | hbehind
      · obtain ⟨outer, houter, hearlierWithin⟩ := hbefore earlier hearlier
        exact ⟨outer, List.mem_append_left _ houter, hwithin.trans hearlierWithin⟩
      · have hstart : edge 0 before ≤ g.2.start := edge_le (Nat.zero_le _) hbehind
        refine ⟨g, List.mem_append_right _ ?_, .refl g.2⟩
        rw [placed, if_pos hstart]
        exact List.mem_cons_self

theorem Covered.laidOut (h : Covered groups) : LaidOut groups := by
  rintro before group after rfl
  rw [Covered, placed_append] at h
  obtain ⟨outer, houter, hwithin⟩ := h group (List.mem_append_right _ List.mem_cons_self)
  rcases List.mem_append.mp houter with houter | houter
  · exact .inl ⟨outer, (placed_sublist 0 before).subset houter, hwithin⟩
  · -- The group starts behind the edge of those before it; so each of them has ended there, for one
    -- that lies in a group behind the edge starts behind the edge, and got a placeholder itself.
    have hstart : edge 0 before ≤ group.2.start :=
      Nat.le_trans (bounds_of_mem_placed houter).1 hwithin.1
    refine .inr fun earlier hearlier => Nat.le_trans ?_ hstart
    obtain ⟨around, haround, hin⟩ := h earlier (List.mem_append_left _ hearlier)
    rcases List.mem_append.mp haround with haround | haround
    · exact Nat.le_trans hin.2 (bounds_of_mem_placed haround).2
    · have hbehind : edge 0 before ≤ earlier.2.start :=
        Nat.le_trans (bounds_of_mem_placed haround).1 hin.1
      exact (bounds_of_mem_placed (mem_placed_of_edge_le hearlier hbehind)).2

/-- Each group lies in one that gets a placeholder exactly if each lies in one with a smaller index
or behind all of those. -/
theorem covered_iff_laidOut : Covered groups ↔ LaidOut groups := ⟨Covered.laidOut, LaidOut.covered⟩

/-! ## What is copied -/

theorem le_of_copies {size pos : Nat} {part : Part}
    (hgroups : groups.Pairwise (fun a b => a.2.stop ≤ b.2.start))
    (hlast : ∀ group ∈ groups, last ≤ group.2.start) (hpart : part ∈ parts size last groups)
    (hcopies : part.Copies pos) : last ≤ pos := by
  induction groups generalizing last with
  | nil =>
    obtain rfl := List.mem_singleton.mp hpart
    exact hcopies.1
  | cons group groups ih =>
    obtain ⟨hfollow, hrest⟩ := List.pairwise_cons.mp hgroups
    rcases List.mem_cons.mp hpart with rfl | hpart
    · exact hcopies.1
    · rcases List.mem_cons.mp hpart with rfl | hpart
      · exact hcopies.elim
      · have hstop := ih hrest hfollow hpart
        exact Nat.le_trans (Nat.le_trans (hlast group List.mem_cons_self) group.2.start_le_stop)
          hstop

/-- What a group with a placeholder covers is not copied. -/
theorem not_copies_of_covers {size pos : Nat} {part : Part}
    (hgroups : groups.Pairwise (fun a b => a.2.stop ≤ b.2.start)) (hgroup : group ∈ groups)
    (hcovers : group.2.Covers pos) (hpart : part ∈ parts size last groups) :
    ¬ part.Copies pos := by
  induction groups generalizing last with
  | nil => cases hgroup
  | cons first groups ih =>
    obtain ⟨hfollow, hrest⟩ := List.pairwise_cons.mp hgroups
    intro hcopies
    rcases List.mem_cons.mp hpart with rfl | hpart
    · have hstart : first.2.start ≤ group.2.start := by
        rcases List.mem_cons.mp hgroup with rfl | hgroup
        · exact Nat.le_refl _
        · exact Nat.le_trans first.2.start_le_stop (hfollow group hgroup)
      exact absurd hcopies.2 (Nat.not_lt.mpr (Nat.le_trans hstart hcovers.1))
    · rcases List.mem_cons.mp hpart with rfl | hpart
      · exact hcopies
      · rcases List.mem_cons.mp hgroup with rfl | hgroup
        · exact absurd hcovers.2 (Nat.not_lt.mpr (le_of_copies hrest hfollow hpart hcopies))
        · exact ih hrest hgroup hpart hcopies

/-! ## Rules -/

/-- The new subject that a rule makes consists of copied stretches and of placeholders. All that the
named groups of the match cover is replaced exactly if each of them lies in one with a smaller index
or behind all of those; then no character of a group is copied. -/
theorem captured_replaced_iff {rule : Pattern} {subject : String} {m : Regex.Match}
    (h : rule.regex.firstMatch subject.toList.toArray = some m) :
    let text := subject.toList.toArray
    let groups := groupSpans rule m
    let made := parts text.size 0 (placed 0 groups)
    (applyRule rule subject).map (·.2) = some (String.ofList (made.flatMap (Part.chars text))) ∧
      ((∀ group ∈ groups, ∃ outer ∈ placed 0 groups, group.2.Within outer.2) ↔ LaidOut groups) ∧
      (LaidOut groups → ∀ group ∈ groups, ∀ pos, group.2.Covers pos →
        ∀ part ∈ made, ¬ part.Copies pos) := by
  intro text groups made
  refine ⟨?_, covered_iff_laidOut, fun hlaid group hgroup pos hcovers part hpart => ?_⟩
  · rw [applyRule, h, ← templated_eq_parts]
    rfl
  · obtain ⟨outer, houter, hwithin⟩ := hlaid.covered group hgroup
    exact not_copies_of_covers (pairwise_placed 0 groups) houter (hcovers.within hwithin) hpart

/-- A rule that compiles and occurs in a subject, with what is checked of the two. -/
theorem exists_occurrence (source subject : String) (P : Pattern → Regex.Match → Bool)
    (h : ((compileRule (.named "name") source).toOption.bind fun rule =>
      (rule.regex.firstMatch subject.toList.toArray).map (P rule)) = some true) :
    ∃ rule m, compileRule (.named "name") source = .ok rule ∧
      rule.regex.firstMatch subject.toList.toArray = some m ∧ P rule m = true := by
  obtain ⟨rule, hrule, hmatch⟩ := Option.bind_eq_some_iff.mp h
  obtain ⟨m, hm, hP⟩ := Option.map_eq_some_iff.mp hmatch
  refine ⟨rule, m, ?_, hm, hP⟩
  cases hcompile : compileRule (.named "name") source with
  | error e => rw [hcompile] at hrule; cases hrule
  | ok other => rw [hcompile] at hrule; rw [Option.some.inj hrule]

/-- The two groups of an address follow one another, so nothing of them stays. -/
theorem captured_replaced_iff_address :
    ∃ rule m, compileRule (.named "name") "(?<user>[a-z]+)@(?<host>[a-z]+)" = .ok rule ∧
      rule.regex.firstMatch "to bob@home".toList.toArray = some m ∧
      (applyRule rule "to bob@home").map (·.2) = some "to \x7Buser\x7D@\x7Bhost\x7D" ∧
      LaidOut (groupSpans rule m) ∧
      ∀ group ∈ groupSpans rule m, ∀ pos, group.2.Covers pos →
        ∀ part ∈ parts 11 0 (placed 0 (groupSpans rule m)), ¬ part.Copies pos := by
  obtain ⟨rule, m, hcompile, hm, hP⟩ := exists_occurrence
    "(?<user>[a-z]+)@(?<host>[a-z]+)" "to bob@home"
    (fun rule m => decide ((applyRule rule "to bob@home").map (·.2) =
      some "to \x7Buser\x7D@\x7Bhost\x7D" ∧ Covered (groupSpans rule m))) (by decide +kernel)
  obtain ⟨hsubject, hcovered⟩ := of_decide_eq_true hP
  obtain ⟨-, hiff, hcopied⟩ := captured_replaced_iff hm
  have hlaid : LaidOut (groupSpans rule m) := hiff.mp hcovered
  exact ⟨rule, m, hcompile, hm, hsubject, hlaid, hcopied hlaid⟩

/-- A rule that goes through fields in any order finds the pin first and the user then. The pin has
the greater index and lies before the user, so it stays where it is. -/
theorem captured_left_behind :
    ∃ rule m,
      compileRule (.named "name") "(?:u=(?<user>[0-9]+)|p=(?<pin>[0-9]+)|&)+" = .ok rule ∧
        rule.regex.firstMatch "p=42&u=7".toList.toArray = some m ∧
        applyRule rule "p=42&u=7" =
          some ([("user", "7"), ("pin", "42")], "p=42&u=\x7Buser\x7D") ∧
        ∃ group ∈ groupSpans rule m, ∀ outer ∈ placed 0 (groupSpans rule m),
          ¬ group.2.Within outer.2 := by
  obtain ⟨rule, m, hcompile, hm, hP⟩ := exists_occurrence
    "(?:u=(?<user>[0-9]+)|p=(?<pin>[0-9]+)|&)+" "p=42&u=7"
    (fun rule m => decide
      (applyRule rule "p=42&u=7" =
          some ([("user", "7"), ("pin", "42")], "p=42&u=\x7Buser\x7D") ∧
        ∃ group ∈ groupSpans rule m, ∀ outer ∈ placed 0 (groupSpans rule m),
          ¬ group.2.Within outer.2)) (by decide +kernel)
  exact ⟨rule, m, hcompile, hm, of_decide_eq_true hP⟩

end Relabeler

end Telemetry
