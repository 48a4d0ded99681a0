import Telemetry.Proofs.Acceptance
import Telemetry.Proofs.Captures
import Telemetry.Proofs.Templates
import Telemetry.Proofs.Touches

/-!
# What a mask replaces

A value is what lies between the matches of a pattern in it, with the matched texts in turn. The
masked value is what lies between them with the template in turn, filled in with what each match
captures, and nothing else of a record changes (`mask_splices_matches`).
-/

namespace Telemetry

open Regex

/-! ## Texts between matches -/

namespace Regex

/-- The stretches of a text behind the position `last` that matches leave: before the first of them,
between one and the next, and behind the last. -/
def gapsFrom (text : Array Char) (last : Nat) (ms : List Match) : List (List Char) :=
  List.zipWith (fun start stop => (text.extract start stop).toList)
    (last :: ms.map (·.whole.stop)) (ms.map (·.whole.start) ++ [text.size])

/-- The stretches of a text that matches leave. -/
def gaps (text : Array Char) (ms : List Match) : List (List Char) := gapsFrom text 0 ms

/-- Stretches with the given texts in turn between them. -/
def interleave : List (List Char) → List (List Char) → List Char
  | gap :: gaps, t :: ts => gap ++ t ++ interleave gaps ts
  | gaps, _ => gaps.flatten

variable {text : Array Char}

theorem gapsFrom_nil (text : Array Char) (last : Nat) :
    gapsFrom text last [] = [(text.extract last).toList] := rfl

theorem gapsFrom_cons (text : Array Char) (last : Nat) (m : Match) (ms : List Match) :
    gapsFrom text last (m :: ms) =
      (text.extract last m.whole.start).toList :: gapsFrom text m.whole.stop ms := rfl

/-- To splice replacements into a text is to put them between the stretches that the matches
leave. -/
theorem splice_eq_interleave (text : Array Char) (replacement : Match → List Char) (last : Nat)
    (ms : List Match) :
    Action.splice text replacement last ms =
      interleave (gapsFrom text last ms) (ms.map replacement) := by
  induction ms generalizing last with
  | nil => simp [Action.splice, gapsFrom_nil, interleave]
  | cons m ms ih => rw [Action.splice, ih, gapsFrom_cons, List.map_cons, interleave]

theorem toList_extract_append {i j k : Nat} (hij : i ≤ j) (hjk : j ≤ k) :
    (text.extract i j).toList ++ (text.extract j k).toList = (text.extract i k).toList := by
  rw [← Array.toList_append, Array.extract_append_extract, Nat.min_eq_left hij,
    Nat.max_eq_right hjk]

/-- The matched texts and what lies between them make the text. -/
theorem interleave_gapsFrom {last : Nat} {ms : List Match} (hlast : last ≤ text.size)
    (hstart : ∀ m ∈ ms, last ≤ m.whole.start) (hstop : ∀ m ∈ ms, m.whole.stop ≤ text.size)
    (hms : ms.Pairwise fun m m' => m.whole.stop ≤ m'.whole.start) :
    interleave (gapsFrom text last ms) (ms.map fun m => (m.whole.textIn text).toList) =
      (text.extract last).toList := by
  induction ms generalizing last with
  | nil => simp [gapsFrom_nil, interleave]
  | cons m ms ih =>
    obtain ⟨hfirst, hrest⟩ := List.pairwise_cons.mp hms
    obtain ⟨hmstop, hstops⟩ := List.forall_mem_cons.mp hstop
    have hbegin := (List.forall_mem_cons.mp hstart).1
    have hspan := m.whole.start_le_stop
    -- the stretch before the match, the match, and by induction all that is behind it
    rw [gapsFrom_cons, List.map_cons, interleave, ih hmstop hfirst hstops hrest, Span.textIn,
      String.toList_ofList, toList_extract_append hbegin hspan,
      toList_extract_append (Nat.le_trans hbegin hspan) hmstop]

/-- Matches that lie apart make the text, with what lies between them. -/
theorem Node.Apart.interleave_gaps {n : Node} {ms : List Match} (h : n.Apart text ms) :
    interleave (gaps text ms) (ms.map fun m => (m.whole.textIn text).toList) = text.toList := by
  have hms : ms.Pairwise fun m m' => m.whole.stop ≤ m'.whole.start := h.follow.imp And.left
  have hparts := interleave_gapsFrom (Nat.zero_le _) (fun m _ => Nat.zero_le _) h.stop_le hms
  rw [gaps, hparts, Array.extract_eq_self_of_le (Nat.le_refl _)]

end Regex

/-! ## Masks -/

namespace Action

open Config (Field)

variable {key : String} {pattern : Pattern} {template : Template}

/-- A mask that compiles has the pattern and the template that are configured. -/
theorem exists_search_of_compile_mask {field : Field} {config : Config.Action}
    (h : compile field config = .ok (.mask key pattern template)) :
    config.key = key ∧
      ∃ source replace, config.pattern = some source ∧
        Pattern.compile .search source = .ok pattern ∧ config.replace = some replace ∧
        template = Template.parse replace := by
  obtain ⟨-, -, h⟩ := compile_eq_ok_iff.mp h
  cases hkind : config.kind with
  | mask =>
    rw [hkind] at h
    obtain ⟨_, hpattern, _, htemplate, heq⟩ := h
    obtain ⟨hkey, rfl, rfl⟩ : config.key = key ∧ _ = pattern ∧ _ = template := by simpa using heq
    obtain ⟨source, hsource, hsearch, -⟩ := compilePattern_eq_ok_iff.mp hpattern
    obtain ⟨replace, hreplace, hparse, -⟩ := compileTemplate_eq_ok_iff.mp htemplate
    exact ⟨hkey, source, replace, hsource, hsearch, hreplace, hparse⟩
  | insert | update | delete | hash | extract => simp [hkind] at h

theorem alter_mask_of_none {record : Record} (h : record.attributes.get? key = none) :
    (Action.mask key pattern template).alter record = record := by
  simp [alter, apply, h, put]

theorem alter_mask_of_some {record : Record} {value : String}
    (h : record.attributes.get? key = some value) :
    (Action.mask key pattern template).alter record =
      record.withAttribute key (masked pattern template value) := by
  simp [alter, apply, h, put, Record.withAttribute]

/-- A value that is put in its own place changes nothing. -/
theorem withAttribute_eq_self {record : Record} {value : String}
    (h : record.attributes.get? key = some value) : record.withAttribute key value = record := by
  have hsame : record.attributes.insert key value = record.attributes := by
    refine Attributes.ext_get? fun k => ?_
    rw [Attributes.get?_insert]
    split
    · next hk => rw [hk, h]
    · rfl
  rw [Record.withAttribute, hsame]

/-- A mask replaces each match in the value of its attribute by the template, filled in with what
the match captures, and nothing else. -/
theorem mask_splices_matches {field : Field} {config : Config.Action}
    (h : compile field config = .ok (.mask key pattern template)) (record : Record) :
    ∃ source replace, config.key = key ∧ config.pattern = some source ∧
      Pattern.compile .search source = .ok pattern ∧ config.replace = some replace ∧
      let after := (Action.mask key pattern template).alter record
      (record.attributes.get? key = none → after = record) ∧
      ∀ value, record.attributes.get? key = some value →
        let text := value.toList.toArray
        ∃ ms, ∃ fill : Match → List Char,
          Successive pattern.regex text none ms ∧ pattern.regex.node.Apart text ms ∧
          interleave (gaps text ms) (ms.map fun m => (m.whole.textIn text).toList) =
            value.toList ∧
          (∀ i name, (i, name) ∈ pattern.regex.namedGroups → ∀ m,
            pattern.capture? text m name = (m.group? i).map (·.textIn text)) ∧
          (∀ m t, Template.Filled (pattern.capture? text m) replace.toList t ↔ t = fill m) ∧
          after = record.withAttribute key
            (String.ofList (interleave (gaps text ms) (ms.map fill))) ∧
          (ms = [] → after = record) ∧
          ((∀ m ∈ ms, fill m = (m.whole.textIn text).toList) → after = record) := by
  obtain ⟨hkey, source, replace, hsource, hsearch, hreplace, rfl⟩ :=
    exists_search_of_compile_mask h
  refine ⟨source, replace, hkey, hsource, hsearch, hreplace, ?_⟩
  intro after
  refine ⟨alter_mask_of_none, fun value hvalue => ?_⟩
  intro text
  obtain ⟨n, _, _, hnode, hnumbered⟩ := Pattern.exists_numbered_of_compile hsearch
  let ms := pattern.regex.allMatches text
  let fill : Match → List Char := fun m =>
    ((Template.parse replace).expand (pattern.capture? text m)).toList
  have hsuccessive : Successive pattern.regex text none ms := by
    simp only [ms, hnode]
    exact successive_allMatches hnumbered.one_le text
  have hapart : pattern.regex.node.Apart text ms := by
    rw [hnode] at hsuccessive ⊢
    exact hsuccessive.apart hnumbered.one_le
  have hgaps : interleave (gaps text ms) (ms.map fun m => (m.whole.textIn text).toList) =
      value.toList := hapart.interleave_gaps
  have hafter : after = record.withAttribute key
      (String.ofList (interleave (gaps text ms) (ms.map fill))) := by
    rw [gaps, ← splice_eq_interleave]
    exact alter_mask_of_some hvalue
  have hsame (hfill : ∀ m ∈ ms, fill m = (m.whole.textIn text).toList) : after = record := by
    rw [hafter, List.map_congr_left hfill, hgaps, String.ofList_toList]
    exact withAttribute_eq_self hvalue
  refine ⟨ms, fill, hsuccessive, hapart, hgaps, ?_, ?_, hafter, ?_, hsame⟩
  · intro i name hg m
    exact Pattern.capture?_of_mem (Pattern.nodup_groupNames hsearch) hg text m
  · intro m t
    exact Template.filled_iff _ replace t
  · intro hnone
    exact hsame (by simp [hnone])

/-- A mask of numbers, and of the places between other characters where none is. -/
def digitsMask : Config.Action :=
  { kind := .mask, key := "code", pattern := some "(?<digits>[0-9]*)"
    replace := some "<$\x7Bdigits\x7D>" }

/-- The empty match behind the number does not count, the one at the end does. -/
theorem mask_splices_matches_digitsMask :
    let record := ((Record.span "s").withAttribute "code" "a12b").withAttribute "kept" "34"
    let text := "a12b".toList.toArray
    ∃ pattern template,
      compile ((Field.named "actions").item 0) digitsMask = .ok (.mask "code" pattern template) ∧
        (Action.mask "code" pattern template).alter record =
          record.withAttribute "code" "<>a<12>b<>" ∧
        ∃ ms, ∃ fill : Match → List Char,
          Successive pattern.regex text none ms ∧ pattern.regex.node.Apart text ms ∧
          interleave (gaps text ms) (ms.map fun m => (m.whole.textIn text).toList) =
            "a12b".toList ∧
          (∀ m t, Template.Filled (pattern.capture? text m) "<$\x7Bdigits\x7D>".toList t ↔
            t = fill m) ∧
          interleave (gaps text ms) (ms.map fill) = "<>a<12>b<>".toList := by
  intro record text
  let template := Template.parse "<$\x7Bdigits\x7D>"
  obtain ⟨pattern, hpattern, hP⟩ := Except.exists_of_any
    (x := Pattern.compile .search "(?<digits>[0-9]*)")
    (P := fun pattern => decide ((∀ name ∈ template.placeholders, name ∈ pattern.groupNames) ∧
      masked pattern template "a12b" = "<>a<12>b<>"))
    (by decide +kernel)
  obtain ⟨hplaceholders, hmasked⟩ := of_decide_eq_true hP
  have hcompile : compile ((Field.named "actions").item 0) digitsMask =
      .ok (.mask "code" pattern template) := by
    refine compile_eq_ok_iff.mpr ⟨by decide, by decide, pattern, ?_, template, ?_, rfl⟩
    · exact compilePattern_eq_ok_iff.mpr
        ⟨_, rfl, hpattern, by simp [Config.Action.GroupsAgree, digitsMask]⟩
    · exact compileTemplate_eq_ok_iff.mpr ⟨_, rfl, rfl, hplaceholders⟩
  have hvalue : record.attributes.get? "code" = some "a12b" := by decide
  have halter : (Action.mask "code" pattern template).alter record =
      record.withAttribute "code" "<>a<12>b<>" := by
    rw [alter_mask_of_some hvalue, hmasked]
  obtain ⟨source, replace, -, hsource, -, hreplace, -, hmask⟩ :=
    mask_splices_matches hcompile record
  obtain rfl := Option.some.inj hreplace
  obtain ⟨ms, fill, hsuccessive, hapart, hgaps, -, hfill, hafter, -⟩ := hmask "a12b" hvalue
  have hspliced : "<>a<12>b<>" = String.ofList (interleave (gaps text ms) (ms.map fill)) := by
    have hget := congrArg (fun r => r.attributes.get? "code") (halter.symm.trans hafter)
    simp only [Record.withAttribute, Attributes.get?_insert, if_true, Option.some.injEq] at hget
    exact hget
  refine ⟨pattern, template, hcompile, halter, ms, fill, hsuccessive, hapart, hgaps, hfill, ?_⟩
  rw [hspliced, String.toList_ofList]

end Action

end Telemetry
