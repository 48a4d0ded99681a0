import Telemetry.Proofs.Regex.Nested
import Telemetry.Proofs.Splicing

/-!
# Placeholders of nested groups

Behind a group with a placeholder the groups follow that are written inside of it. None of them ends
further on than that group, so the edge stays where it ends, and one of them gets a placeholder
exactly if it covers nothing and stands right at this end. Main statement:
`nested_placeholder_iff`.
-/

namespace Telemetry.Relabeler

open Config (Field)
open Regex (Match Span Tree)

variable {last : Nat} {groups before between after : List (String × Span)}
  {group outer inner : String × Span}

/-! ## Groups that follow -/

theorem placeholder_mem_parts_iff {size : Nat} {name : String} {span : Span} :
    .placeholder name span ∈ parts size last groups ↔ (name, span) ∈ groups := by
  induction groups generalizing last with
  | nil => simp [parts]
  | cons group groups ih => simp [parts, ih, Prod.ext_iff]

theorem edge_append (last : Nat) (before after : List (String × Span)) :
    edge last (before ++ after) = edge (edge last before) after := by
  induction before generalizing last with
  | nil => rfl
  | cons group before ih =>
    rw [List.cons_append, edge, edge]
    split
    · exact ih _
    · exact ih last

/-- A group gets a placeholder exactly if it does not start before the edge of those before it. -/
theorem mem_placed_iff (hnodup : (before ++ group :: after).Nodup) :
    group ∈ placed last (before ++ group :: after) ↔ edge last before ≤ group.2.start := by
  obtain ⟨-, hafter, hbefore⟩ := List.nodup_append.mp hnodup
  have hne : group ∉ before := fun hmem => hbefore group hmem group List.mem_cons_self rfl
  have hne' : group ∉ after := (List.nodup_cons.mp hafter).1
  have hfirst : group ∉ placed last before := mt (fun h => (placed_sublist _ _).subset h) hne
  rw [placed_append, placed]
  split
  · next hstart => simp [hstart]
  · next hstart =>
    have hrest : group ∉ placed (edge last before) after :=
      mt (fun h => (placed_sublist _ _).subset h) hne'
    simp [hfirst, hrest, hstart]

/-- Behind a group with a placeholder and others that end no further on, the next one gets a
placeholder exactly if it does not start before the end of that group. -/
theorem mem_placed_behind_iff (hnodup : (before ++ outer :: (between ++ inner :: after)).Nodup)
    (hbetween : ∀ group ∈ between, group.2.stop ≤ outer.2.stop)
    (houter : outer ∈ placed last (before ++ outer :: (between ++ inner :: after))) :
    inner ∈ placed last (before ++ outer :: (between ++ inner :: after)) ↔
      outer.2.stop ≤ inner.2.start := by
  have hstart : edge last before ≤ outer.2.start := (mem_placed_iff hnodup).mp houter
  have hedge : edge last (before ++ outer :: between) = outer.2.stop := by
    rw [edge_append, edge, if_pos hstart]
    exact Nat.le_antisymm (edge_le (Nat.le_refl _) hbetween) (le_edge _ _)
  have hsplit : before ++ outer :: (between ++ inner :: after) =
      (before ++ outer :: between) ++ inner :: after := by simp
  rw [hsplit] at hnodup ⊢
  rw [mem_placed_iff hnodup, hedge]

/-! ## Captures -/

/-- Between two captures stand those with an index between theirs. -/
theorem exists_between {captures : List Capture} {a b : Capture}
    (h : captures.Pairwise (fun a b => a.index < b.index)) (ha : a ∈ captures)
    (hb : b ∈ captures) (hlt : a.index < b.index) :
    ∃ before between after, captures = before ++ a :: (between ++ b :: after) ∧
      ∀ c ∈ between, a.index < c.index ∧ c.index < b.index := by
  obtain ⟨before, behind, rfl⟩ := List.append_of_mem ha
  obtain ⟨-, hbehind, hbefore⟩ := List.pairwise_append.mp h
  obtain ⟨hfirst, hbehind⟩ := List.pairwise_cons.mp hbehind
  have hmem : b ∈ behind := by
    rcases List.mem_append.mp hb with hb | hb
    · have := hbefore b hb a List.mem_cons_self
      omega
    · rcases List.mem_cons.mp hb with rfl | hb
      · omega
      · exact hb
  obtain ⟨between, after, rfl⟩ := List.append_of_mem hmem
  obtain ⟨-, -, hbetween⟩ := List.pairwise_append.mp hbehind
  exact ⟨before, between, after, rfl, fun c hc =>
    ⟨hfirst c (List.mem_append_left _ hc), hbetween c hc b List.mem_cons_self⟩⟩

theorem named_mem_groupSpans {rule : Pattern} {m : Match} {c : Capture}
    (hc : c ∈ capturesOf rule m) : c.named ∈ groupSpans rule m := by
  rw [← map_named_capturesOf]
  exact List.mem_map_of_mem hc

theorem nodup_names_groupSpans {source : String} {rule : Pattern}
    (h : Pattern.compile .search source = .ok rule) (m : Match) :
    ((groupSpans rule m).map (·.1)).Nodup := by
  have hnodup := nodup_names_capturesOf h #[] m
  rw [List.map_map] at hnodup
  rw [← map_named_capturesOf, List.map_map]
  exact hnodup

/-- The placeholder with the name of a capture is that of the capture. -/
theorem exists_placeholder_iff {source : String} {rule : Pattern}
    (h : Pattern.compile .search source = .ok rule) {m : Match} {c : Capture}
    (hc : c ∈ capturesOf rule m) (size : Nat) :
    (∃ span, .placeholder c.name span ∈ parts size 0 (placed 0 (groupSpans rule m))) ↔
      c.named ∈ placed 0 (groupSpans rule m) := by
  simp only [placeholder_mem_parts_iff]
  refine ⟨fun ⟨span, hspan⟩ => ?_, fun hplaced => ⟨c.span, hplaced⟩⟩
  have hmem := (placed_sublist 0 (groupSpans rule m)).subset hspan
  have heq : (c.name, span) = c.named :=
    List.inj_on_of_nodup_map (nodup_names_groupSpans h m) hmem (named_mem_groupSpans hc) rfl
  rwa [heq] at hspan

/-- A capture between a group and one that is written inside of it ends where that group ends or
before. -/
theorem stop_le_of_between {source : String} {rule : Pattern} {tree : Tree}
    (h : Pattern.compile .search source = .ok rule) (htree : Tree.parse source.toList = .ok tree)
    {text : Array Char} {m : Match} (hm : rule.regex.firstMatch text = some m)
    {outer c : Capture} {j : Nat} (houter : outer ∈ capturesOf rule m)
    (hnests : tree.nests outer.index j = true) (hc : c ∈ capturesOf rule m)
    (hlt : outer.index < c.index) (hle : c.index ≤ j) : c.span.stop ≤ outer.span.stop := by
  obtain ⟨n, hn, rfl⟩ := Pattern.exists_node_of_compile h
  obtain ⟨hnamed, hspan⟩ := mem_capturesOf_iff.mp hc
  obtain ⟨-, houterSpan⟩ := mem_capturesOf_iff.mp houter
  have hindex : c.index ∈ tree.indices := by
    obtain ⟨tree', htree', hsubset⟩ := Regex.Node.groups_subset_of_parse hn
    obtain rfl := Except.ok.inj (htree.symm.trans htree')
    exact List.mem_map_of_mem (f := (·.1)) (hsubset (Regex.mem_groups_of_mem_namedGroups hnamed))
  have hinside : tree.nests outer.index c.index = true := by
    rcases Nat.eq_or_lt_of_le hle with rfl | hlt'
    · exact hnests
    · exact Tree.nests_of_between (Tree.pairwise_indices_of_parse htree) hnests hindex hlt hlt'
  exact Regex.stop_le_of_nests htree hn hinside hm houterSpan hspan

/-! ## Rules -/

/-- Where the placeholder of a group stands in a new subject, a group that is written inside its
parentheses and takes part gets a placeholder as well exactly if it covers nothing and stands at the
end of what the other one covers. -/
theorem nested_placeholder_iff {field : Field} {source : String} {rule : Pattern}
    (h : compileRule field source = .ok rule) {subject : String} (hoccurs : rule.OccursIn subject) :
    let text := subject.toList.toArray
    ∃ (tree : Tree) (m : Match), Tree.parse source.toList = .ok tree ∧
      rule.regex.firstMatch text = some m ∧
      let made := parts text.size 0 (placed 0 (groupSpans rule m))
      (applyRule rule subject).map (·.2) = some (String.ofList (made.flatMap (Part.chars text))) ∧
        ∀ outer ∈ capturesOf rule m, ∀ inner ∈ capturesOf rule m,
          tree.nests outer.index inner.index = true →
          .placeholder outer.name outer.span ∈ made →
          ((∃ span, .placeholder inner.name span ∈ made) ↔
            inner.span.isEmpty = true ∧ inner.span.stop = outer.span.stop) := by
  intro text
  obtain ⟨hcompile, -⟩ := compileRule_eq_ok_iff.mp h
  obtain ⟨n, hn, -⟩ := Pattern.exists_node_of_compile hcompile
  obtain ⟨tree, htree, -⟩ := Regex.Node.groups_subset_of_parse hn
  obtain ⟨m, hm⟩ := (Pattern.occursIn_iff_exists_firstMatch hcompile subject).mp hoccurs
  refine ⟨tree, m, htree, hm, ?_, fun outer houter inner hinner hnests hplaced => ?_⟩
  · rw [applyRule_of_firstMatch hm, Option.map_some]
  have hlt := Tree.lt_of_nests (Tree.pairwise_indices_of_parse htree) hnests
  obtain ⟨before, between, after, hcaptures, hindices⟩ :=
    exists_between (pairwise_capturesOf rule m) houter hinner hlt
  have hstop : inner.span.stop ≤ outer.span.stop :=
    stop_le_of_between hcompile htree hm houter hnests hinner hlt (Nat.le_refl _)
  have hbetween : ∀ group ∈ between.map Capture.named, group.2.stop ≤ outer.span.stop := by
    intro group hgroup
    obtain ⟨c, hc, rfl⟩ := List.mem_map.mp hgroup
    obtain ⟨hbehind, hbefore⟩ := hindices c hc
    have hmem : c ∈ capturesOf rule m := by
      rw [hcaptures]
      simp [hc]
    exact stop_le_of_between hcompile htree hm houter hnests hmem hbehind (Nat.le_of_lt hbefore)
  have hgroups : groupSpans rule m = before.map Capture.named ++
      outer.named :: (between.map Capture.named ++ inner.named :: after.map Capture.named) := by
    rw [← map_named_capturesOf, hcaptures]
    simp
  have hnodup := (nodup_names_groupSpans hcompile m).of_map
  rw [placeholder_mem_parts_iff] at hplaced
  rw [exists_placeholder_iff hcompile hinner]
  rw [hgroups] at hnodup hplaced ⊢
  rw [mem_placed_behind_iff hnodup hbetween hplaced]
  have hspan := inner.span.start_le_stop
  simp only [Capture.named, Span.isEmpty, decide_eq_true_eq]
  omega

/-- Takes a number with a unit behind it; the value lies in the amount, and so does the unit. -/
def amountRule : String := "size=(?<amount>(?<value>[0-9]+)(?<unit>[a-z]*))"

/-- The value has gone with the amount. The unit is left out, so it covers nothing at the end of the
amount, and gets a placeholder there. -/
theorem nested_placeholder_iff_amount :
    let subject := "disk size=42"
    ∃ rule m made, compileRule (.named "name") amountRule = .ok rule ∧ rule.OccursIn subject ∧
      rule.regex.firstMatch subject.toList.toArray = some m ∧
      made = parts 12 0 (placed 0 (groupSpans rule m)) ∧
      (applyRule rule subject).map (·.2) = some "disk size=\x7Bamount\x7D\x7Bunit\x7D" ∧
      (¬ ∃ span, .placeholder "value" span ∈ made) ∧ ∃ span, .placeholder "unit" span ∈ made := by
  intro subject
  let amount : Capture := ⟨1, "amount", ⟨10, 12, by decide⟩⟩
  let value : Capture := ⟨2, "value", ⟨10, 12, by decide⟩⟩
  let unit : Capture := ⟨3, "unit", ⟨12, 12, by decide⟩⟩
  obtain ⟨rule, m, hrule, hm, hP⟩ := exists_occurrence amountRule subject
    (fun rule m => decide (capturesOf rule m = [amount, value, unit] ∧
      .placeholder amount.name amount.span ∈ parts 12 0 (placed 0 (groupSpans rule m)) ∧
      (applyRule rule subject).map (·.2) = some "disk size=\x7Bamount\x7D\x7Bunit\x7D"))
    (by decide +kernel)
  obtain ⟨hcaptures, hplaced, hsubject⟩ := of_decide_eq_true hP
  obtain ⟨tree, htree, hnests⟩ := Except.exists_of_any (x := Tree.parse amountRule.toList)
    (P := fun tree => tree.nests amount.index value.index && tree.nests amount.index unit.index)
    (by decide +kernel)
  obtain ⟨hvalue, hunit⟩ := Bool.and_eq_true_iff.mp hnests
  obtain ⟨hcompiled, -⟩ := compileRule_eq_ok_iff.mp hrule
  have hoccurs : rule.OccursIn subject :=
    (Pattern.occursIn_iff_exists_firstMatch hcompiled subject).mpr ⟨m, hm⟩
  obtain ⟨tree', m', htree', hm', -, hnested⟩ := nested_placeholder_iff hrule hoccurs
  obtain rfl := Except.ok.inj (htree'.symm.trans htree)
  obtain rfl := Option.some.inj (hm'.symm.trans hm)
  have hsize : subject.toList.toArray.size = 12 := by decide
  rw [hcaptures, hsize] at hnested
  have hiff := hnested amount (by simp) value (by simp) hvalue hplaced
  have hiff' := hnested amount (by simp) unit (by simp) hunit hplaced
  exact ⟨rule, m', _, hrule, hoccurs, hm, rfl, hsubject, mt hiff.mp (by decide),
    hiff'.mpr (by decide)⟩

/-- An identifier may have letters behind its number. Where it has none, the suffix takes part with
nothing, at the end of the identifier. It is written inside of the identifier and lies in it, but
both get placeholders. -/
theorem nested_suffix_replaced :
    let subject := "job id=42"
    ∃ rule m tree,
      compileRule (.named "name") "id=(?<id>[0-9]+(?<suffix>[a-z]*))" = .ok rule ∧
        Tree.parse "id=(?<id>[0-9]+(?<suffix>[a-z]*))".toList = .ok tree ∧
        rule.regex.firstMatch subject.toList.toArray = some m ∧
        applyRule rule subject =
          some ([("id", "42"), ("suffix", "")], "job id=\x7Bid\x7D\x7Bsuffix\x7D") ∧
        ∃ outer ∈ capturesOf rule m, ∃ inner ∈ capturesOf rule m,
          tree.nests outer.index inner.index = true ∧ inner.span.Within outer.span ∧
          .placeholder outer.name outer.span ∈ parts 9 0 (placed 0 (groupSpans rule m)) ∧
          .placeholder inner.name inner.span ∈ parts 9 0 (placed 0 (groupSpans rule m)) := by
  intro subject
  obtain ⟨tree, htree, hnests⟩ := Except.exists_of_any
    (x := Tree.parse "id=(?<id>[0-9]+(?<suffix>[a-z]*))".toList) (P := fun tree => tree.nests 1 2)
    (by decide +kernel)
  obtain ⟨rule, m, hrule, hm, hP⟩ := exists_occurrence "id=(?<id>[0-9]+(?<suffix>[a-z]*))" subject
    (fun rule m => decide
      (applyRule rule subject =
          some ([("id", "42"), ("suffix", "")], "job id=\x7Bid\x7D\x7Bsuffix\x7D") ∧
        ∃ outer ∈ capturesOf rule m, ∃ inner ∈ capturesOf rule m,
          outer.index = 1 ∧ inner.index = 2 ∧ inner.span.Within outer.span ∧
          .placeholder outer.name outer.span ∈ parts 9 0 (placed 0 (groupSpans rule m)) ∧
          .placeholder inner.name inner.span ∈ parts 9 0 (placed 0 (groupSpans rule m))))
    (by decide +kernel)
  obtain ⟨happlied, outer, houter, inner, hinner, hone, htwo, hwithin, hplaced, hreplaced⟩ :=
    of_decide_eq_true hP
  rw [← hone, ← htwo] at hnests
  exact ⟨rule, m, tree, hrule, htree, hm, happlied, outer, houter, inner, hinner, hnests, hwithin,
    hplaced, hreplaced⟩

end Telemetry.Relabeler
