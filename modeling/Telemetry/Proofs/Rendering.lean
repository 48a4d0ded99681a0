import Telemetry.Proofs.Templates

/-!
# Writing a template back

A text that is taken for a template is the text of its parts again, and its parts are in a form of
which there is one for each text (`Canonical`): literals that could be joined are joined, and what
could be taken for a placeholder is one. Every list of parts in this form is what its own text is
taken apart into. Main statement: `parse_canonical`.
-/

namespace Telemetry.Template

variable {s name : String} {parts qs : List Part}

/-! ## Canonical parts -/

/-- Parts that their text is taken apart into: each literal has some text and stands by itself, each
name ends before a brace, and no placeholder begins in a literal, unless it is the last part and the
placeholder does not end in it. -/
structure Canonical (parts : List Part) : Prop where
  nonempty : .literal "" ∉ parts
  apart : ∀ s t, ¬ [.literal s, .literal t] <:+: parts
  name : ∀ name, .group name ∈ parts → '}' ∉ name.toList
  plain : ∀ s name, [.literal s, .group name] <:+: parts → Plain s.toList
  last : ∀ s, [.literal s] <:+ parts → Unfinished s.toList

namespace Canonical

theorem nil : Canonical [] := by
  constructor <;> simp

/-- What stands at the end of canonical parts is canonical. -/
theorem of_suffix (h : Canonical parts) (hends : qs <:+ parts) : Canonical qs where
  nonempty := fun hmem => h.nonempty (hends.subset hmem)
  apart := fun s t hstands => h.apart s t (hstands.trans hends.isInfix)
  name := fun name hmem => h.name name (hends.subset hmem)
  plain := fun s name hstands => h.plain s name (hstands.trans hends.isInfix)
  last := fun s hlast => h.last s (hlast.trans hends)

theorem literal (hs : s ≠ "") (hrest : Unfinished s.toList) : Canonical [.literal s] where
  nonempty := by simpa using Ne.symm hs
  apart := by simp [List.infix_cons_iff]
  name := by simp
  plain := by simp [List.infix_cons_iff]
  last := by
    intro t ht
    obtain rfl : t = s := by simpa [List.suffix_cons_iff] using ht
    exact hrest

theorem group_cons (hname : '}' ∉ name.toList) (h : Canonical parts) :
    Canonical (.group name :: parts) where
  nonempty := by simpa using h.nonempty
  apart := by simpa [List.infix_cons_iff] using h.apart
  name := by simpa [hname] using h.name
  plain := by simpa [List.infix_cons_iff] using h.plain
  last := by simpa [List.suffix_cons_iff] using h.last

theorem literal_group_cons (hs : s ≠ "") (hplain : Plain s.toList)
    (h : Canonical (.group name :: parts)) : Canonical (.literal s :: .group name :: parts) where
  nonempty := by
    have hrest := h.nonempty
    simpa [Ne.symm hs] using hrest
  apart := by
    intro t u hstands
    rcases List.infix_cons_iff.mp hstands with hbegins | hstands
    · simp at hbegins
    · exact h.apart t u hstands
  name := by
    intro name hmem
    exact h.name name (by simpa using hmem)
  plain := by
    intro t name' hstands
    rcases List.infix_cons_iff.mp hstands with hbegins | hstands
    · obtain ⟨rfl, -⟩ : t = s ∧ name' = name := by simpa using hbegins
      exact hplain
    · exact h.plain t name' hstands
  last := by
    intro t ht
    rcases List.suffix_cons_iff.mp ht with heq | ht
    · simp at heq
    · exact h.last t ht

end Canonical

/-! ## The parts of a text -/

theorem literalOf_toList (hs : s ≠ "") : literalOf s.toList.reverse = [.literal s] := by
  simp [literalOf, hs]

theorem canonical_literalOf {text : List Char} (h : Unfinished text) :
    Canonical (literalOf text.reverse) := by
  by_cases htext : text = []
  · simpa [htext, literalOf] using Canonical.nil
  · have hs : String.ofList text ≠ "" := by simpa using htext
    simpa [literalOf, htext] using Canonical.literal hs (by simpa using h)

/-- What a text is taken apart into is canonical. -/
theorem canonical_partsOf {text rest : List Char} {stretches : List Stretch}
    (h : Scan text stretches rest) : Canonical (partsOf stretches rest) := by
  induction h with
  | rest hrest => exact canonical_literalOf hrest
  | @placeholder before name after stretches rest hbefore hname _ ih =>
    have hgroup : Canonical (.group (String.ofList name) :: partsOf stretches rest) :=
      ih.group_cons (by simpa using hname)
    by_cases hempty : before = []
    · simpa [partsOf, Stretch.parts, hempty, literalOf] using hgroup
    · have hs : String.ofList before ≠ "" := by simpa using hempty
      have hcons := hgroup.literal_group_cons hs (by simpa using hbefore)
      simpa [partsOf, Stretch.parts, literalOf, hempty] using hcons

/-- Canonical parts are what the scan of their text finds. -/
theorem exists_scan_render : ∀ parts : List Part, Canonical parts →
    ∃ stretches rest, Scan (render ⟨parts⟩).toList stretches rest ∧ partsOf stretches rest = parts
  | [], _ => ⟨[], [], .rest Plain.nil.unfinished, rfl⟩
  | [.literal s], h => by
    have hs : s ≠ "" := fun hs => h.nonempty (by simp [hs])
    have hrest : Unfinished s.toList := h.last s (List.suffix_refl _)
    refine ⟨[], s.toList, ?_, literalOf_toList hs⟩
    simpa [render, Part.render] using Scan.rest hrest
  | .group name :: parts, h => by
    obtain ⟨stretches, rest, hscan, hparts⟩ :=
      exists_scan_render parts (h.of_suffix (List.suffix_cons _ _))
    have hname : '}' ∉ name.toList := h.name name List.mem_cons_self
    refine ⟨⟨[], name.toList⟩ :: stretches, rest, ?_, ?_⟩
    · simpa [render, Part.render] using Scan.placeholder Plain.nil hname hscan
    · simpa [partsOf, Stretch.parts, literalOf] using hparts
  | .literal s :: .group name :: parts, h => by
    have hgroup := h.of_suffix (List.suffix_cons _ _)
    obtain ⟨stretches, rest, hscan, hparts⟩ :=
      exists_scan_render parts (hgroup.of_suffix (List.suffix_cons _ _))
    have hs : s ≠ "" := fun hs => h.nonempty (by simp [hs])
    have hplain : Plain s.toList := h.plain s name (List.prefix_append _ parts).isInfix
    have hname : '}' ∉ name.toList := hgroup.name name List.mem_cons_self
    refine ⟨⟨s.toList, name.toList⟩ :: stretches, rest, ?_, ?_⟩
    · simpa [render, Part.render] using Scan.placeholder hplain hname hscan
    · simpa [partsOf, Stretch.parts, literalOf_toList hs] using hparts
  | .literal s :: .literal t :: parts, h =>
    absurd (List.prefix_append [.literal s, .literal t] parts).isInfix (h.apart s t)

/-! ## Round trips -/

/-- Writing a template back is filling in each placeholder with itself. -/
theorem filled_render {text rest : List Char} {stretches : List Stretch}
    (h : Scan text stretches rest) :
    Filled (fun name => some (Part.group name).render) text text := by
  induction h with
  | rest hrest => exact .rest hrest
  | placeholder hbefore hname _ ih =>
    simpa [Part.render] using Filled.placeholder hbefore hname ih

theorem render_eq_expand (template : Template) :
    template.render = template.expand (fun name => some (Part.group name).render) :=
  rfl

/-- Nothing of a text is lost when it is taken for a template. -/
theorem render_parse (text : String) : (parse text).render = text := by
  obtain ⟨stretches, rest, hscan, -⟩ := exists_scan text
  have hfilled := (filled_iff _ text _).mp (filled_render hscan)
  rw [render_eq_expand]
  exact String.toList_injective hfilled.symm

theorem placeholders_literalOf (seen : List Char) : placeholders ⟨literalOf seen⟩ = [] := by
  cases seen <;> rfl

theorem placeholders_append (ps qs : List Part) :
    placeholders ⟨ps ++ qs⟩ = placeholders ⟨ps⟩ ++ placeholders ⟨qs⟩ :=
  List.filterMap_append

theorem placeholders_partsOf (stretches : List Stretch) (rest : List Char) :
    placeholders ⟨partsOf stretches rest⟩ =
      stretches.map (fun stretch => String.ofList stretch.name) := by
  induction stretches with
  | nil => exact placeholders_literalOf _
  | cons stretch stretches ih =>
    rw [partsOf, List.flatMap_cons, List.append_assoc, ← partsOf, Stretch.parts, List.append_assoc,
      placeholders_append, placeholders_literalOf, placeholders_append, ih]
    rfl

/-- A text is written back from its parts, which are canonical, and its placeholders are those that
are found when it is scanned from left to right. The canonical parts are exactly those that their
own text is taken apart into. -/
theorem parse_canonical :
    (∀ text : String, (parse text).render = text ∧ Canonical (parse text).parts ∧
      ∀ names, names = (parse text).placeholders ↔
        ∃ stretches rest, Scan text.toList stretches rest ∧
          names = stretches.map (fun stretch => String.ofList stretch.name)) ∧
    ∀ parts, parse (render ⟨parts⟩) = ⟨parts⟩ ↔ Canonical parts := by
  have hcanonical (text : String) : Canonical (parse text).parts := by
    obtain ⟨stretches, rest, hscan, hparts⟩ := exists_scan text
    rw [hparts]
    exact canonical_partsOf hscan
  have hplaceholders (text : String) {stretches : List Stretch} {rest : List Char}
      (h : Scan text.toList stretches rest) : (parse text).placeholders =
        stretches.map (fun stretch => String.ofList stretch.name) := by
    rw [← placeholders_partsOf stretches rest, ← parts_parse_of_scan h]
  refine ⟨fun text => ⟨render_parse text, hcanonical text, fun names => ?_⟩, fun parts => ?_⟩
  · constructor
    · rintro rfl
      obtain ⟨stretches, rest, hscan, -⟩ := exists_scan text
      exact ⟨stretches, rest, hscan, hplaceholders text hscan⟩
    · rintro ⟨stretches, rest, hscan, rfl⟩
      exact (hplaceholders text hscan).symm
  · constructor
    · intro h
      have hparts := hcanonical (render ⟨parts⟩)
      rwa [h] at hparts
    · intro h
      obtain ⟨stretches, rest, hscan, hparts⟩ := exists_scan_render parts h
      have hparse := parts_parse_of_scan hscan
      rw [hparts] at hparse
      exact congrArg Template.mk hparse

/-- A dollar sign may stand before a placeholder, and a name may hold what looks like one. -/
example : parse "$$\x7Ba\x7D$\x7Bb$\x7Bc\x7D" =
    ⟨[.literal "$", .group "a", .group "b$\x7Bc"]⟩ := by decide

end Telemetry.Template
