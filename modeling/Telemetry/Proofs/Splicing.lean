import Telemetry.Proofs.Masking
import Telemetry.Proofs.Relabeling

/-!
# New subjects as splices

What a rule makes of a subject is the subject with placeholders put in place of what some of its
groups cover. The stretches that are copied lie in the text, one behind another, so a reading that
refuses every other stretch gives the same (`templated?_eq_some`), and with what was covered put
back in place of the placeholders the subject is there again (`flatMap_original_parts`). Main
statement: `applyRule_splices`.
-/

namespace Telemetry.Relabeler

open Config (Field)
open Regex (Match Span)

variable {text : Array Char} {last : Nat} {groups : List (String × Span)}

/-! ## Stretches in the text -/

/-- The characters from one position to another, if the positions are in order and in the text. -/
def slice? (text : Array Char) (start stop : Nat) : Option (List Char) :=
  if start ≤ stop ∧ stop ≤ text.size then some (text.extract start stop).toList else none

theorem slice?_of_le {start stop : Nat} (hle : start ≤ stop) (hstop : stop ≤ text.size) :
    slice? text start stop = some (text.extract start stop).toList :=
  if_pos ⟨hle, hstop⟩

/-- The text from the position `last` on as `templated` gives it, unless it would take a stretch that
is not in order or not in the text. -/
def templated? (text : Array Char) : Nat → List (String × Span) → Option (List Char)
  | last, [] => slice? text last text.size
  | last, (name, span) :: rest =>
    if last ≤ span.start then do
      let between ← slice? text last span.start
      let behind ← templated? text span.stop rest
      return between ++ '{' :: name.toList ++ '}' :: behind
    else templated? text last rest

/-- Where the groups lie in the text, no other stretch is taken. -/
theorem templated?_eq_some (hlast : last ≤ text.size)
    (hgroups : ∀ group ∈ groups, group.2.stop ≤ text.size) :
    templated? text last groups = some (templated text last groups) := by
  induction groups generalizing last with
  | nil => exact slice?_of_le hlast (Nat.le_refl _)
  | cons group groups ih =>
    obtain ⟨name, span⟩ := group
    obtain ⟨hstop, hrest⟩ := List.forall_mem_cons.mp hgroups
    rw [templated?, templated]
    split
    · next hstart =>
      have hbetween := slice?_of_le hstart (Nat.le_trans span.start_le_stop hstop)
      rw [hbetween, ih hstop hrest]
      rfl
    · exact ih hlast hrest

/-! ## Putting back -/

/-- The characters of the old subject that a part stands for. -/
def Part.original (text : Array Char) : Part → List Char
  | .copied start stop => (text.extract start stop).toList
  | .placeholder _ span => (span.textIn text).toList

/-- With what they cover in place of the placeholders, the parts of a new subject make the old
one. -/
theorem flatMap_original_parts (hlast : last ≤ text.size)
    (hgroups : ∀ group ∈ groups, last ≤ group.2.start ∧ group.2.stop ≤ text.size)
    (hapart : groups.Pairwise (fun a b => a.2.stop ≤ b.2.start)) :
    (parts text.size last groups).flatMap (Part.original text) = (text.extract last).toList := by
  induction groups generalizing last with
  | nil => simp [parts, Part.original]
  | cons group groups ih =>
    obtain ⟨name, span⟩ := group
    obtain ⟨⟨hstart, hstop⟩, hrest⟩ := List.forall_mem_cons.mp hgroups
    obtain ⟨hfollow, hapart⟩ := List.pairwise_cons.mp hapart
    have hspan := span.start_le_stop
    have hbehind := ih hstop (fun g hg => ⟨hfollow g hg, (hrest g hg).2⟩) hapart
    -- the stretch before the group, the group, and by induction all that is behind it
    simp only [parts, List.flatMap_cons, Part.original, hbehind, Span.textIn, String.toList_ofList]
    rw [Regex.toList_extract_append hspan hstop,
      Regex.toList_extract_append hstart (Nat.le_trans hspan hstop)]

/-! ## Captures -/

/-- A named group that takes part in a match, with what it covers. -/
structure Capture where
  index : Nat
  name : String
  span : Span
  deriving DecidableEq

/-- The name of a capture with what the group covers. -/
def Capture.named (c : Capture) : String × Span := (c.name, c.span)

/-- The attribute that is made of a capture. -/
def Capture.entry (text : Array Char) (c : Capture) : String × String := (c.name, c.span.textIn text)

/-- The captures of a match, in order of the groups. -/
def capturesOf (rule : Pattern) (m : Match) : List Capture :=
  rule.regex.namedGroups.filterMap (fun g => (m.group? g.1).map (⟨g.1, g.2, ·⟩))

/-- There is a capture for each named group that takes part. -/
theorem mem_capturesOf_iff {rule : Pattern} {m : Match} {c : Capture} :
    c ∈ capturesOf rule m ↔
      (c.index, c.name) ∈ rule.regex.namedGroups ∧ m.group? c.index = some c.span := by
  rw [capturesOf, List.mem_filterMap]
  constructor
  · rintro ⟨⟨i, name⟩, hg, hc⟩
    obtain ⟨span, hspan, rfl⟩ := Option.map_eq_some_iff.mp hc
    exact ⟨hg, hspan⟩
  · rintro ⟨hg, hspan⟩
    exact ⟨(c.index, c.name), hg, by rw [hspan, Option.map_some]⟩

theorem pairwise_capturesOf (rule : Pattern) (m : Match) :
    (capturesOf rule m).Pairwise (fun a b => a.index < b.index) := by
  refine List.Pairwise.filterMap _ ?_ rule.regex.pairwise_namedGroups
  intro g g' hlt c hc c' hc'
  obtain ⟨_, -, rfl⟩ := Option.map_eq_some_iff.mp hc
  obtain ⟨_, -, rfl⟩ := Option.map_eq_some_iff.mp hc'
  exact hlt

theorem map_named_capturesOf (rule : Pattern) (m : Match) :
    (capturesOf rule m).map Capture.named = groupSpans rule m := by
  simp [capturesOf, groupSpans, Capture.named, List.map_filterMap, Function.comp_def]

theorem map_entry_capturesOf (rule : Pattern) (text : Array Char) (m : Match) :
    (capturesOf rule m).map (Capture.entry text) = rule.captures text m := by
  simp [capturesOf, Pattern.captures, Capture.entry, List.map_filterMap, Function.comp_def]

theorem nodup_names_capturesOf {source : String} {rule : Pattern}
    (h : Pattern.compile .search source = .ok rule) (text : Array Char) (m : Match) :
    (((capturesOf rule m).map (Capture.entry text)).map (·.1)).Nodup := by
  rw [map_entry_capturesOf]
  exact Pattern.nodup_keys_captures (Pattern.nodup_groupNames h) text m

/-! ## Rules -/

/-- The parts of a new subject with placeholders for the given captures. -/
def partsOf (subject : String) (replaced : List Capture) : List Part :=
  parts subject.toList.length 0 (replaced.map Capture.named)

/-- A new subject is the old one with `{name}` in place of what some captures cover. These lie in
the text, one behind another, in order of their indices; and with what they cover put back in their
places the old subject is there again. -/
structure Splices (subject : String) (replaced : List Capture) (rewritten : String) : Prop where
  ascending : replaced.Pairwise (fun a b => a.index < b.index)
  apart : replaced.Pairwise (fun a b => a.span.stop ≤ b.span.start)
  inside : ∀ c ∈ replaced, c.span.stop ≤ subject.toList.length
  spliced : String.ofList ((partsOf subject replaced).flatMap (Part.chars subject.toList.toArray)) =
    rewritten
  restored :
    String.ofList ((partsOf subject replaced).flatMap (Part.original subject.toList.toArray)) =
      subject

/-- The groups that get a placeholder are captures of the match. -/
theorem exists_placed (rule : Pattern) (m : Match) :
    ∃ replaced : List Capture, replaced.Sublist (capturesOf rule m) ∧
      placed 0 (groupSpans rule m) = replaced.map Capture.named := by
  have hsublist := placed_sublist 0 (groupSpans rule m)
  rw [← map_named_capturesOf] at hsublist ⊢
  exact List.sublist_map_iff.mp hsublist

/-- The first group gets a placeholder, for nothing has been replaced before it. -/
theorem placed_ne_nil (h : groups ≠ []) : placed 0 groups ≠ [] := by
  cases groups with
  | nil => exact absurd rfl h
  | cons group groups => simp [placed]

/-- Captures that lie in the text, one behind another, make a splice. -/
theorem splices_of_apart {subject : String} {replaced : List Capture}
    (hascending : replaced.Pairwise (fun a b => a.index < b.index))
    (hapart : replaced.Pairwise (fun a b => a.span.stop ≤ b.span.start))
    (hinside : ∀ c ∈ replaced, c.span.stop ≤ subject.toList.length) :
    Splices subject replaced (String.ofList
      ((partsOf subject replaced).flatMap (Part.chars subject.toList.toArray))) := by
  have hgroups : ∀ group ∈ replaced.map Capture.named,
      0 ≤ group.2.start ∧ group.2.stop ≤ subject.toList.toArray.size := by
    intro group hgroup
    obtain ⟨c, hc, rfl⟩ := List.mem_map.mp hgroup
    exact ⟨Nat.zero_le _, hinside c hc⟩
  have hrestored := flatMap_original_parts (Nat.zero_le _) hgroups (List.pairwise_map.mpr hapart)
  rw [List.size_toArray] at hrestored
  refine ⟨hascending, hapart, hinside, rfl, ?_⟩
  rw [partsOf, hrestored]
  simp

/-- A rule that occurs in a subject makes a new one of it by a splice of captures of its first
match, and takes only stretches for it that are in the text. If there are captures, some are
replaced; and each of them is extracted once, under a name of its own. -/
theorem applyRule_splices {field : Field} {source : String} {rule : Pattern}
    (h : compileRule field source = .ok rule) {subject : String} (hoccurs : rule.OccursIn subject) :
    let text := subject.toList.toArray
    ∃ (m : Match) (extracted : List (String × String)) (rewritten : String)
        (replaced : List Capture),
      rule.regex.firstMatch text = some m ∧
      applyRule rule subject = some (extracted, rewritten) ∧
      templated? text 0 (groupSpans rule m) = some rewritten.toList ∧
      replaced.Sublist (capturesOf rule m) ∧ Splices subject replaced rewritten ∧
      (capturesOf rule m ≠ [] → replaced ≠ []) ∧
      extracted = (capturesOf rule m).map (Capture.entry text) ∧ (extracted.map (·.1)).Nodup := by
  intro text
  obtain ⟨hcompile, -⟩ := compileRule_eq_ok_iff.mp h
  obtain ⟨m, hm⟩ := (Pattern.occursIn_iff_exists_firstMatch hcompile subject).mp hoccurs
  have hfinds := finds_of_firstMatch hcompile hm
  -- every capture lies in the match, and so in the text
  have hinside : ∀ c ∈ capturesOf rule m, c.span.stop ≤ text.size := by
    intro c hc
    obtain ⟨-, hspan⟩ := mem_capturesOf_iff.mp hc
    exact Nat.le_trans (hfinds.encloses _ _ hspan).2 hfinds.stop_le
  have hgroups : ∀ group ∈ groupSpans rule m, group.2.stop ≤ text.size := by
    intro group hgroup
    rw [← map_named_capturesOf] at hgroup
    obtain ⟨c, hc, rfl⟩ := List.mem_map.mp hgroup
    exact hinside c hc
  obtain ⟨replaced, hsublist, hplaced⟩ := exists_placed rule m
  have hapart : replaced.Pairwise (fun a b => a.span.stop ≤ b.span.start) := by
    have hpairwise := pairwise_placed 0 (groupSpans rule m)
    rw [hplaced] at hpairwise
    exact List.pairwise_map.mp hpairwise
  have hsplices := splices_of_apart ((pairwise_capturesOf rule m).sublist hsublist) hapart
    fun c hc => hinside c (hsublist.subset hc)
  have htemplated : (partsOf subject replaced).flatMap (Part.chars text) =
      templated text 0 (groupSpans rule m) := by
    rw [templated_eq_parts, hplaced]
    rfl
  have happlied : applyRule rule subject = some ((capturesOf rule m).map (Capture.entry text),
      String.ofList ((partsOf subject replaced).flatMap (Part.chars text))) := by
    rw [applyRule_of_firstMatch hm, ← templated_eq_parts, htemplated, map_entry_capturesOf]
  refine ⟨m, _, _, replaced, hm, happlied, ?_, hsublist, hsplices, fun hsome hnone => ?_, rfl,
    nodup_names_capturesOf hcompile text m⟩
  · rw [String.toList_ofList, htemplated]
    exact templated?_eq_some (Nat.zero_le _) hgroups
  · have hgroupSpans : groupSpans rule m ≠ [] := by
      rw [← map_named_capturesOf]
      simpa using hsome
    exact placed_ne_nil hgroupSpans (by rw [hplaced, hnone, List.map_nil])

/-- Takes the request line of a log apart; the area lies in the route, and an item need not be
there. -/
def requestLine : String := "(?<verb>[A-Z]+) (?<route>/(?<area>[a-z]+)(?:/(?<item>[0-9]+))?)"

/-- The area has gone with the route, so it gets no placeholder, but it is extracted as well. The
item takes no part in the match. -/
theorem applyRule_splices_requestLine :
    let subject := "GET /orders done"
    ∃ rule extracted rewritten replaced,
      compileRule (.named "body") requestLine = .ok rule ∧ rule.OccursIn subject ∧
        applyRule rule subject = some (extracted, rewritten) ∧
        Splices subject replaced rewritten ∧
        extracted = [("verb", "GET"), ("route", "/orders"), ("area", "orders")] ∧
        rewritten = "\x7Bverb\x7D \x7Broute\x7D done" := by
  intro subject
  obtain ⟨rule, m, hcompile, hm, hP⟩ := exists_occurrence requestLine subject
    (fun rule _ => decide (applyRule rule subject =
      some ([("verb", "GET"), ("route", "/orders"), ("area", "orders")],
        "\x7Bverb\x7D \x7Broute\x7D done"))) (by decide +kernel)
  have hmade := of_decide_eq_true hP
  obtain ⟨hcompiled, -⟩ := compileRule_eq_ok_iff.mp hcompile
  have hoccurs : rule.OccursIn subject :=
    (Pattern.occursIn_iff_exists_firstMatch hcompiled subject).mpr ⟨m, hm⟩
  obtain ⟨_, extracted, rewritten, replaced, -, happlied, -, -, hsplices, -⟩ :=
    applyRule_splices hcompile hoccurs
  obtain ⟨hextracted, hrewritten⟩ :=
    Prod.mk.inj (Option.some.inj (happlied.symm.trans hmade))
  exact ⟨rule, extracted, rewritten, replaced, hcompile, hoccurs, happlied, hsplices, hextracted,
    hrewritten⟩

end Telemetry.Relabeler
