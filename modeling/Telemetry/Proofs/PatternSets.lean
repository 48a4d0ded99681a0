import Telemetry.Proofs.Failing
import Telemetry.Proofs.Regex.Joint

/-!
# What a set of patterns tells

Patterns that are tried together are compiled twice: each by itself, to find what is wrong with it,
and all of them into one program. The program tells of each pattern what the pattern tells by itself
(`PatternSet.agreesWith_of_compile`), and if one of them is no pattern, the first such is reported
at its place in the list. Main statement: `Config.Field.compilePatternSet_agrees`.
-/

namespace Telemetry

open Config (Field Flaw)

/-! ## Matches -/

namespace PatternSet

variable {anchoring : Anchoring} {sources : List String} {set : PatternSet}

/-- A set tells of each pattern in a list, by its place, what the pattern tells by itself. -/
structure AgreesWith (set : PatternSet) (anchoring : Anchoring) (sources : List String) :
    Prop where
  compiles : ∀ source ∈ sources, ∃ pattern, Pattern.compile anchoring source = .ok pattern
  mem_matching : ∀ text i, i ∈ set.matching text ↔
    ∃ source pattern, sources[i]? = some source ∧
      Pattern.compile anchoring source = .ok pattern ∧ pattern.isMatch text = true
  ascending : ∀ text, (set.matching text).Pairwise (· < ·)
  isMatch : ∀ text, set.isMatch text = true ↔
    ∃ source ∈ sources, ∃ pattern,
      Pattern.compile anchoring source = .ok pattern ∧ pattern.isMatch text = true

/-- A pattern that compiles is told by its node. -/
theorem isMatch_of_compile {source : String} {pattern : Pattern}
    (h : Pattern.compile anchoring source = .ok pattern) (text : String) :
    (Regex.ofNode pattern.regex.node).isMatch text = pattern.isMatch text := by
  obtain ⟨n, -, rfl⟩ := Pattern.exists_node_of_compile h
  rfl

theorem mem_matching_iff_of_compile (h : compile anchoring sources = .ok set) {text : String}
    {i : Nat} :
    i ∈ set.matching text ↔ ∃ source pattern, sources[i]? = some source ∧
      Pattern.compile anchoring source = .ok pattern ∧ pattern.isMatch text = true := by
  obtain ⟨patterns, hpatterns, -, rfl⟩ := compile_eq_ok_iff.mp h
  simp only [matching, Regex.Joint.mem_matching_iff, List.getElem?_map, Option.map_eq_some_iff]
  constructor
  · rintro ⟨n, ⟨pattern, hpattern, rfl⟩, hmatch⟩
    obtain ⟨source, hsource, hcompile⟩ := hpatterns.exists_of_getElem?_right hpattern
    rw [isMatch_of_compile hcompile] at hmatch
    exact ⟨source, pattern, hsource, hcompile, hmatch⟩
  · rintro ⟨source, pattern, hsource, hcompile, hmatch⟩
    obtain ⟨pattern', hpattern, hcompile'⟩ := hpatterns.exists_of_getElem?_left hsource
    obtain rfl := Except.ok.inj (hcompile.symm.trans hcompile')
    rw [← isMatch_of_compile hcompile] at hmatch
    exact ⟨_, ⟨pattern, hpattern, rfl⟩, hmatch⟩

/-- Something is found exactly if some pattern is told to match. -/
theorem isMatch_iff_exists_mem_matching (h : compile anchoring sources = .ok set) (text : String) :
    set.isMatch text = true ↔ ∃ i, i ∈ set.matching text := by
  obtain ⟨_, -, -, rfl⟩ := compile_eq_ok_iff.mp h
  exact Regex.Joint.isMatch_iff_exists_mem_matching

/-- What is compiled together does not come in each other's way. -/
theorem agreesWith_of_compile (h : compile anchoring sources = .ok set) :
    set.AgreesWith anchoring sources := by
  refine ⟨fun source hsource => ?_, fun text i => mem_matching_iff_of_compile h,
    fun text => Regex.Joint.pairwise_matching _ _, fun text => ?_⟩
  · obtain ⟨patterns, hpatterns, -⟩ := compile_eq_ok_iff.mp h
    obtain ⟨pattern, -, hpattern⟩ := hpatterns.exists_of_mem_left hsource
    exact ⟨pattern, hpattern⟩
  · simp only [isMatch_iff_exists_mem_matching h, mem_matching_iff_of_compile h]
    constructor
    · rintro ⟨i, source, pattern, hsource, hmatch⟩
      exact ⟨source, List.mem_of_getElem? hsource, pattern, hmatch⟩
    · rintro ⟨source, hsource, pattern, hmatch⟩
      obtain ⟨i, hi⟩ := List.mem_iff_getElem?.mp hsource
      exact ⟨i, source, pattern, hi, hmatch⟩

/-- Where a pattern of a list is found in another one, the sets of both tell the same of it. So to
reorder or to repeat patterns does the same to the places that are told. -/
theorem AgreesWith.mem_matching_iff_of_getElem? {sources' : List String} {set' : PatternSet}
    (h : set.AgreesWith anchoring sources) (h' : set'.AgreesWith anchoring sources') {i j : Nat}
    (hsame : sources'[i]? = sources[j]?) (text : String) :
    i ∈ set'.matching text ↔ j ∈ set.matching text := by
  rw [h.mem_matching, h'.mem_matching, hsame]

end PatternSet

/-! ## Faults -/

namespace Config.Field

variable {field : Field} {anchoring : Anchoring} {sources : List String}

/-- The patterns of a set are compiled by themselves like the items of a list in a field. -/
theorem mapError_compileItems (index : Nat) :
    (PatternSet.compileItems anchoring index sources).mapError field.setFlaw =
      field.compileItems (fun place => place.compilePattern anchoring) index sources := by
  induction sources generalizing index with
  | nil => rfl
  | cons source sources ih =>
    rw [compileItems, PatternSet.compileItems, compilePattern, ← ih]
    cases Pattern.compile anchoring source with
    | error fault => rfl
    | ok pattern =>
      cases PatternSet.compileItems anchoring (index + 1) sources with
      | error fault => rfl
      | ok patterns => rfl

/-- A set fails at the first of its patterns that does not compile by itself, with what is wrong
with this one. -/
theorem compilePatternSet_of_firstFailing {i : Nat} {source : String} {flaw : Flaw}
    (h : sources.FirstFailing (fun s => ∃ p, Pattern.compile anchoring s = .ok p) i source)
    (hflaw : (field.item i).compilePattern anchoring source = .error flaw) :
    field.compilePatternSet anchoring sources = .error flaw := by
  have hitems : field.compileItems (fun place => place.compilePattern anchoring) 0 sources =
      .error flaw := by
    refine (compileItems_eq_error_iff fun place s => ?_).mpr ⟨i, source, h, ?_⟩
    · simp only [compilePattern_eq_ok_iff]
    · rwa [Nat.zero_add]
  rw [← mapError_compileItems, Except.mapError_eq_error_iff] at hitems
  obtain ⟨fault, hfault, rfl⟩ := hitems
  rw [compilePatternSet, PatternSet.compile, hfault]
  rfl

/-- A set of patterns that compiles tells of each of them, by its place, what it tells by itself, so
reordering and repeating patterns does the same to the places. If one of them does not compile, the
first such fails the set, with its own fault at its own place. -/
theorem compilePatternSet_agrees (field : Field) (anchoring : Anchoring) (sources : List String) :
    (∀ set, field.compilePatternSet anchoring sources = .ok set →
      set.AgreesWith anchoring sources ∧
        ∀ (sources' : List String) (set' : PatternSet) (place : Nat → Nat),
          field.compilePatternSet anchoring sources' = .ok set' →
          (∀ i < sources'.length, sources'[i]? = sources[place i]?) →
          ∀ text i, i ∈ set'.matching text ↔
            i < sources'.length ∧ place i ∈ set.matching text) ∧
    ((∃ source ∈ sources, ∀ pattern, Pattern.compile anchoring source ≠ .ok pattern) →
      ∃ i source flaw,
        sources.FirstFailing (fun s => ∃ p, Pattern.compile anchoring s = .ok p) i source ∧
        (field.item i).compilePattern anchoring source = .error flaw ∧
        flaw.field.text = field.text ++ "[" ++ toString i ++ "]" ∧
        field.compilePatternSet anchoring sources = .error flaw) := by
  refine ⟨fun set hset => ?_, fun hfails => ?_⟩
  · have hagrees := PatternSet.agreesWith_of_compile (compilePatternSet_eq_ok_iff.mp hset)
    refine ⟨hagrees, fun sources' set' place hset' hplace text i => ?_⟩
    have hagrees' := PatternSet.agreesWith_of_compile (compilePatternSet_eq_ok_iff.mp hset')
    constructor
    · intro hi
      obtain ⟨source, _, hsource, -⟩ := (hagrees'.mem_matching text i).mp hi
      have hlt : i < sources'.length := (List.getElem?_eq_some_iff.mp hsource).1
      exact ⟨hlt, (hagrees.mem_matching_iff_of_getElem? hagrees' (hplace i hlt) text).mp hi⟩
    · rintro ⟨hlt, hi⟩
      exact (hagrees.mem_matching_iff_of_getElem? hagrees' (hplace i hlt) text).mpr hi
  · have hexists : ∃ s ∈ sources, ¬ ∃ p, Pattern.compile anchoring s = .ok p := by
      simpa only [not_exists] using hfails
    obtain ⟨i, source, hfirst⟩ := List.exists_firstFailing hexists
    obtain ⟨fault, hfault⟩ : ∃ fault, Pattern.compile anchoring source = .error fault := by
      cases h : Pattern.compile anchoring source with
      | error fault => exact ⟨fault, rfl⟩
      | ok pattern => exact absurd ⟨pattern, h⟩ hfirst.not
    have hflaw : (field.item i).compilePattern anchoring source =
        .error ((field.item i).flaw (.pattern fault)) := by
      rw [compilePattern, hfault]
      rfl
    exact ⟨i, source, _, hfirst, hflaw, rfl, compilePatternSet_of_firstFailing hfirst hflaw⟩

/-- Two patterns, of which one has alternatives, are told apart wherever they stand, and a pattern
that would close the group around it is refused at its place. -/
theorem compilePatternSet_agrees_alternatives :
    (∃ set set',
      (named "spanNames").compilePatternSet .full ["a|b", "ab"] = .ok set ∧
      (named "spanNames").compilePatternSet .full ["ab", "a|b", "ab"] = .ok set' ∧
      set.AgreesWith .full ["a|b", "ab"] ∧
      ∀ text i, i ∈ set'.matching text ↔
        i < 3 ∧ (if i = 1 then 0 else 1) ∈ set.matching text) ∧
    ∃ i source flaw,
      ["ab", "a)|(b", "("].FirstFailing (fun s => ∃ p, Pattern.compile .full s = .ok p) i source ∧
      ((named "spanNames").item i).compilePattern .full source = .error flaw ∧
      flaw.field.text = (named "spanNames").text ++ "[" ++ toString i ++ "]" ∧
      (named "spanNames").compilePatternSet .full ["ab", "a)|(b", "("] = .error flaw := by
  constructor
  · obtain ⟨set, hset⟩ := Except.exists_of_isOk
      (x := (named "spanNames").compilePatternSet .full ["a|b", "ab"]) (by decide +kernel)
    obtain ⟨set', hset'⟩ := Except.exists_of_isOk
      (x := (named "spanNames").compilePatternSet .full ["ab", "a|b", "ab"]) (by decide +kernel)
    obtain ⟨hagrees, hplaces⟩ := (compilePatternSet_agrees _ _ _).1 set hset
    exact ⟨set, set', hset, hset', hagrees,
      hplaces _ set' (fun i => if i = 1 then 0 else 1) hset' (by decide)⟩
  · refine (compilePatternSet_agrees _ _ _).2 ⟨"a)|(b", by simp, fun pattern h => ?_⟩
    have hrefused : (Pattern.compile .full "a)|(b").isOk = false := by decide +kernel
    rw [h] at hrefused
    cases hrefused

end Config.Field

end Telemetry
