import Telemetry.Proofs.Anchoring
import Telemetry.Proofs.Keyed
import Telemetry.Proofs.Regex.Groups
import Telemetry.Proofs.Regex.Matches

/-!
# What a match captures

The named groups of a pattern that compiles have names of their own, so a match gives one text at
most for a name, that of the group if it takes part (`capture?_of_mem`), and to look a name up is to
look it up among the captures (`get?_captures`). An anchored pattern has the groups of the pattern
by itself under the same indices, and what it matches is the whole text (`firstMatch_full`).
-/

namespace Telemetry

open Regex

/-! ## Named groups -/

/-- Entries whose keys stand behind are looked up from the front as others. -/
theorem Keyed.get?_map_swap {α : Type _} (key : String) (entries : List (α × String)) :
    get? key (entries.map Prod.swap) = (entries.find? (·.2 = key)).map (·.1) := by
  induction entries with
  | nil => rfl
  | cons e entries ih =>
    rw [List.map_cons, get?_cons, List.find?_cons]
    by_cases h : e.2 = key
    · simp [h]
    · simp [h, Ne.symm h, ih]

namespace Regex

/-- The indices of the named groups, under their names. -/
def groupIndices (r : Regex) : List (String × Nat) := r.namedGroups.map Prod.swap

variable {r : Regex}

theorem keys_groupIndices (r : Regex) : Keyed.keys r.groupIndices = r.groupNames := by
  simp [Keyed.keys, groupIndices, groupNames]

theorem namedSpan?_eq (r : Regex) (m : Match) (name : String) :
    r.namedSpan? m name = (Keyed.get? name r.groupIndices).bind m.group? := by
  rw [namedSpan?, groupIndices, Keyed.get?_map_swap, Option.bind_map]
  rfl

theorem get?_groupIndices_of_mem (h : r.groupNames.Nodup) {i : Nat} {name : String}
    (hg : (i, name) ∈ r.namedGroups) : Keyed.get? name r.groupIndices = some i := by
  refine Keyed.get?_of_mem ?_ (List.mem_map_of_mem hg)
  rwa [keys_groupIndices]

end Regex

namespace Pattern

variable {pattern : Pattern}

/-- What is captured under a name is what the group of that name covers. -/
theorem capture?_of_mem (h : pattern.groupNames.Nodup) {i : Nat} {name : String}
    (hg : (i, name) ∈ pattern.regex.namedGroups) (text : Array Char) (m : Match) :
    pattern.capture? text m name = (m.group? i).map (·.textIn text) := by
  rw [capture?, namedSpan?_eq, get?_groupIndices_of_mem h hg]
  rfl

/-- Nothing is captured under other names than those of groups. -/
theorem capture?_of_notMem {name : String} (h : name ∉ pattern.groupNames) (text : Array Char)
    (m : Match) : pattern.capture? text m name = none := by
  have hnone : Keyed.get? name pattern.regex.groupIndices = none := by
    refine Keyed.get?_eq_none_of_notMem ?_
    rwa [keys_groupIndices]
  rw [capture?, namedSpan?_eq, hnone]
  rfl

theorem captures_eq (pattern : Pattern) (text : Array Char) (m : Match) :
    pattern.captures text m = pattern.regex.groupIndices.filterMap
      (fun (name, i) => ((m.group? i).map (·.textIn text)).map (name, ·)) := by
  simp [captures, groupIndices, List.filterMap_map, Function.comp_def]

/-- The captures of a match show what is captured under each name. -/
theorem get?_captures (h : pattern.groupNames.Nodup) (text : Array Char) (m : Match)
    (name : String) : Keyed.get? name (pattern.captures text m) = pattern.capture? text m name := by
  have hkeys : (Keyed.keys pattern.regex.groupIndices).Nodup := by rwa [keys_groupIndices]
  rw [captures_eq, Keyed.get?_filterMap (fun _ i => (m.group? i).map (·.textIn text)) hkeys,
    capture?, namedSpan?_eq, Option.map_bind]
  rfl

/-- The captures of a match have keys of their own. -/
theorem nodup_keys_captures (h : pattern.groupNames.Nodup) (text : Array Char) (m : Match) :
    (Keyed.keys (pattern.captures text m)).Nodup := by
  have hkeys : (Keyed.keys pattern.regex.groupIndices).Nodup := by rwa [keys_groupIndices]
  rw [captures_eq]
  exact hkeys.sublist
    (Keyed.keys_filterMap_sublist (fun _ i => (m.group? i).map (·.textIn text)) _)

/-! ## Compiled patterns -/

variable {anchoring : Anchoring} {source : String}

/-- A pattern that compiles anchored is an anchored node, the node with numbered groups. -/
theorem exists_anchored_of_compile (h : compile .full source = .ok pattern) :
    ∃ n count names, compile .search source = .ok ⟨source, ofNode n⟩ ∧
      pattern = ⟨source, ofNode n.anchored⟩ ∧ Numbered count names n.groups := by
  obtain ⟨n, halone, hpattern⟩ := compile_full h
  obtain ⟨m, hm, heq⟩ := exists_node_of_compile halone
  obtain rfl : n = m := congrArg (fun p => p.regex.node) heq
  obtain ⟨count, names, hnumbered⟩ := Node.numbered_of_parse hm
  exact ⟨n, count, names, halone, hpattern, hnumbered⟩

/-- A pattern that compiles is a node with numbered groups. -/
theorem exists_numbered_of_compile (h : compile anchoring source = .ok pattern) :
    ∃ n count names, pattern.regex = ofNode n ∧ Numbered count names n.groups := by
  obtain ⟨n, hn, rfl⟩ := exists_node_of_compile h
  obtain ⟨count, names, hnumbered⟩ := Node.numbered_of_parse hn
  exact ⟨n, count, names, rfl, hnumbered⟩

/-- No two groups of a pattern that compiles have the same name. -/
theorem nodup_groupNames (h : compile anchoring source = .ok pattern) :
    pattern.groupNames.Nodup := by
  obtain ⟨n, count, names, hnode, hnumbered⟩ := exists_numbered_of_compile h
  have hgroups : Numbered count names pattern.regex.node.groups := by
    rw [hnode]
    exact hnumbered
  exact Regex.nodup_groupNames hgroups

/-- An anchored pattern has the named groups of the pattern by itself. It matches the texts that
the pattern by itself can match from end to end, and its match is the whole text. -/
theorem firstMatch_full (h : compile .full source = .ok pattern) :
    ∃ alone, compile .search source = .ok alone ∧
      pattern.regex.namedGroups = alone.regex.namedGroups ∧
      (∀ text, pattern.isMatch text = true ↔ alone.MatchesWhole text) ∧
      ∀ text m, pattern.regex.firstMatch text = some m →
        m.whole.start = 0 ∧ m.whole.stop = text.size ∧ m.Encloses := by
  obtain ⟨n, _, _, halone, rfl, hnumbered⟩ := exists_anchored_of_compile h
  refine ⟨_, halone, namedGroups_anchored n, isMatch_anchored source n, fun text m hfirst => ?_⟩
  have hindices : ∀ g ∈ n.anchored.groups, 1 ≤ g.1 := n.groups_anchored ▸ hnumbered.one_le
  have hfinds := finds_of_matchFrom hindices hfirst
  have hle := Nat.le_trans m.whole.start_le_stop hfinds.stop_le
  obtain ⟨hstart, hstop, -⟩ := (Node.covers_anchored hle).mp hfinds.covers
  exact ⟨hstart, hstop, hfinds.encloses⟩

end Pattern

end Telemetry
