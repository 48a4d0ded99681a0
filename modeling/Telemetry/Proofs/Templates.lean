import Telemetry.Template

/-!
# Filling in a template

A text is scanned from left to right for placeholders, each of which is the first `${` with the
first `}` behind it. There is one way to do so (`Scan.unique`), and a text is taken apart into the
parts that are found in that way (`parts_parse_of_scan`). `Filled group? text out` says what it is
to replace each `${name}` of a text by what `group?` gives for the name: what is put in is not
scanned again, and all else is copied. The parts of a text do just that (`filled_iff`).
-/

namespace Telemetry.Template

/-- No placeholder begins in the text. -/
def Plain (text : List Char) : Prop := ∀ before after, text ≠ before ++ '$' :: '{' :: after

/-- No placeholder that begins in the text ends in it. -/
def Unfinished (text : List Char) : Prop :=
  ∀ before after, text = before ++ '$' :: '{' :: after → '}' ∉ after

/-- A placeholder in a text, with the text in front of it. -/
structure Stretch where
  before : List Char
  name : List Char

/-- The first text consists of stretches up to the end of a placeholder, from left to right, and the
second one, in which no placeholder is finished. -/
inductive Scan : List Char → List Stretch → List Char → Prop where
  | rest {text : List Char} : Unfinished text → Scan text [] text
  | placeholder {before name after : List Char} {stretches : List Stretch} {rest : List Char} :
      Plain before → '}' ∉ name → Scan after stretches rest →
      Scan (before ++ '$' :: '{' :: (name ++ '}' :: after)) (⟨before, name⟩ :: stretches) rest

/-- The second text is the first one with each placeholder in it, from left to right, replaced by
the group that it names; nothing stands for a group that is absent. -/
inductive Filled (group? : String → Option String) : List Char → List Char → Prop where
  | rest {text : List Char} : Unfinished text → Filled group? text text
  | placeholder {before name after out : List Char} : Plain before → '}' ∉ name →
      Filled group? after out →
      Filled group? (before ++ '$' :: '{' :: (name ++ '}' :: after))
        (before ++ ((group? (String.ofList name)).getD "").toList ++ out)

/-! ## Placeholders in a text -/

variable {text before after : List Char}

theorem Plain.nil : Plain [] := by
  intro before after h
  simp at h

/-- A placeholder behind a dollar sign does not begin before it. -/
theorem Plain.exists_of_append_eq (h : Plain text) {rest : List Char}
    (heq : text ++ '$' :: rest = before ++ '$' :: '{' :: after) :
    ∃ between, before = text ++ between := by
  rcases List.append_eq_append_iff.mp heq with ⟨between, hbefore, -⟩ | ⟨between, htext, hrest⟩
  · exact ⟨between, hbefore⟩
  · match between, hrest with
    | [], _ => exact ⟨[], by simpa using htext.symm⟩
    | [_], hrest => simp at hrest
    | c :: d :: between, hrest =>
      simp only [List.cons_append, List.cons.injEq] at hrest
      obtain ⟨rfl, rfl, -⟩ := hrest
      exact absurd htext (h before between)

theorem Plain.unfinished (h : Plain text) : Unfinished text :=
  fun before after heq => absurd heq (h before after)

/-- A name without an end makes no placeholder. -/
theorem Plain.unfinished_append (h : Plain text) {name : List Char} (hname : '}' ∉ name) :
    Unfinished (text ++ '$' :: '{' :: name) := by
  intro before after heq hmem
  obtain ⟨between, rfl⟩ := h.exists_of_append_eq heq
  rw [List.append_assoc, List.append_cancel_left_eq] at heq
  have hafter : after <:+ name := by
    match between, heq with
    | [], heq =>
      simp only [List.nil_append, List.cons.injEq, true_and] at heq
      exact heq ▸ List.suffix_refl _
    | [_], heq => simp at heq
    | _ :: _ :: between, heq =>
      simp only [List.cons_append, List.cons.injEq] at heq
      exact ⟨between ++ ['$', '{'], by simp [heq.2.2]⟩
  exact hname (hafter.subset hmem)

/-- A character more begins no placeholder, unless it is a brace behind a dollar sign. -/
theorem Plain.concat (h : Plain text) {c : Char} (hc : c = '{' → text.getLast? ≠ some '$') :
    Plain (text ++ [c]) := by
  intro before after heq
  rcases List.eq_nil_or_concat after with rfl | ⟨after, d, rfl⟩
  · have hsplit : text ++ [c] = (before ++ ['$']) ++ ['{'] := by simpa using heq
    obtain ⟨rfl, hbrace⟩ := List.append_inj' hsplit rfl
    exact hc (by simpa using hbrace) (by simp)
  · have hsplit : text ++ [c] = (before ++ '$' :: '{' :: after) ++ [d] := by simpa using heq
    obtain ⟨rfl, -⟩ := List.append_inj' hsplit rfl
    exact h before after rfl

/-- The first placeholder of a text begins in one place only. -/
theorem Plain.append_inj {text' rest rest' : List Char} (h : Plain text) (h' : Plain text')
    (heq : text ++ '$' :: '{' :: rest = text' ++ '$' :: '{' :: rest') :
    text = text' ∧ rest = rest' := by
  obtain ⟨more, hmore⟩ := h.exists_of_append_eq heq
  obtain ⟨more', hmore'⟩ := h'.exists_of_append_eq heq.symm
  have hlength : text.length = text'.length := by
    have hle := congrArg List.length hmore
    have hle' := congrArg List.length hmore'
    rw [List.length_append] at hle hle'
    omega
  obtain ⟨rfl, hrest⟩ := List.append_inj heq hlength
  exact ⟨rfl, by simpa using hrest⟩

/-- A name ends at the first brace. -/
theorem append_brace_inj {name name' rest rest' : List Char} (h : '}' ∉ name) (h' : '}' ∉ name')
    (heq : name ++ '}' :: rest = name' ++ '}' :: rest') : name = name' ∧ rest = rest' := by
  induction name generalizing name' with
  | nil =>
    cases name' with
    | nil => simpa using heq
    | cons c name' =>
      obtain ⟨rfl, -⟩ := List.cons.inj heq
      simp at h'
  | cons c name ih =>
    cases name' with
    | nil =>
      obtain ⟨rfl, -⟩ := List.cons.inj heq
      simp at h
    | cons c' name' =>
      obtain ⟨rfl, htail⟩ := List.cons.inj heq
      obtain ⟨rfl, hrest⟩ := ih (List.not_mem_of_not_mem_cons h)
        (List.not_mem_of_not_mem_cons h') htail
      exact ⟨rfl, hrest⟩

/-- A text is scanned in one way only. -/
theorem Scan.unique {stretches stretches' : List Stretch} {rest rest' : List Char}
    (h : Scan text stretches rest) (h' : Scan text stretches' rest') :
    stretches = stretches' ∧ rest = rest' := by
  induction h generalizing stretches' rest' with
  | @rest text hrest =>
    cases h' with
    | rest => exact ⟨rfl, rfl⟩
    | @placeholder before name after => exact absurd (by simp) (hrest before _ rfl)
  | @placeholder before name after stretches rest hbefore hname _ ih =>
    -- both ways take the same placeholder: it is the first one, and ends at the first brace
    generalize htext : before ++ '$' :: '{' :: (name ++ '}' :: after) = text at h'
    cases h' with
    | rest hrest => exact absurd (by simp) (hrest before _ htext.symm)
    | @placeholder before' name' after' _ _ hbefore' hname' hafter' =>
      obtain ⟨rfl, hbehind⟩ := hbefore.append_inj hbefore' htext
      obtain ⟨rfl, rfl⟩ := append_brace_inj hname hname' hbehind
      obtain ⟨rfl, rfl⟩ := ih hafter'
      exact ⟨rfl, rfl⟩

/-! ## Taking a text apart -/

/-- The parts of a stretch. -/
def Stretch.parts (stretch : Stretch) : List Part :=
  literalOf stretch.before.reverse ++ [.group (String.ofList stretch.name)]

/-- The parts of a scanned text. -/
def partsOf (stretches : List Stretch) (rest : List Char) : List Part :=
  stretches.flatMap Stretch.parts ++ literalOf rest.reverse

/-- The text that is being taken apart: what is part of a literal, what is part of a name if a
placeholder has begun, and what is still to be read. -/
def scanned (seen : List Char) (name : Option (List Char)) (text : List Char) : List Char :=
  match name with
  | none => seen.reverse ++ text
  | some name => seen.reverse ++ '$' :: '{' :: (name.reverse ++ text)

/-- Where a text has been read so far, no placeholder has been passed over. -/
def Scanned (seen : List Char) (name : Option (List Char)) (text : List Char) : Prop :=
  Plain seen.reverse ∧
    match name with
    | none => seen.head? = some '$' → text.head? ≠ some '{'
    | some name => '}' ∉ name

theorem exists_scan_partsFrom (seen : List Char) (name : Option (List Char)) (text : List Char)
    (h : Scanned seen name text) :
    ∃ stretches rest, Scan (scanned seen name text) stretches rest ∧
      partsFrom seen name text = partsOf stretches rest := by
  induction seen, name, text using partsFrom.induct with
  | case1 seen =>
    refine ⟨[], seen.reverse, ?_, by simp [partsFrom, partsOf]⟩
    simpa [scanned] using Scan.rest h.1.unfinished
  | case2 seen name =>
    have hname : '}' ∉ name.reverse := by simpa using h.2
    refine ⟨[], seen.reverse ++ '$' :: '{' :: name.reverse, ?_, by simp [partsFrom, partsOf]⟩
    simpa [scanned] using Scan.rest (h.1.unfinished_append hname)
  | case3 seen rest ih =>
    rw [partsFrom]
    simpa [scanned] using ih ⟨h.1, by simp⟩
  | case4 seen c rest hopen ih =>
    rw [partsFrom]
    · have hplain : Plain (c :: seen).reverse := by
        rw [List.reverse_cons]
        refine h.1.concat fun hc hlast => h.2 ?_ (by simp [hc])
        simpa using hlast
      have hnext : (c :: seen).head? = some '$' → rest.head? ≠ some '{' := by
        intro hc hbrace
        obtain ⟨rest', rfl⟩ := List.head?_eq_some_iff.mp hbrace
        exact hopen rest' (by simpa using hc) rfl
      simpa [scanned] using ih ⟨hplain, hnext⟩
    · exact hopen
  | case5 seen name rest ih =>
    have hname : '}' ∉ name.reverse := by simpa using h.2
    obtain ⟨stretches, rest', hscan, hparts⟩ := ih ⟨Plain.nil, by simp⟩
    refine ⟨⟨seen.reverse, name.reverse⟩ :: stretches, rest', ?_, ?_⟩
    · simpa [scanned] using Scan.placeholder h.1 hname hscan
    · rw [partsFrom, if_pos rfl, hparts]
      simp [partsOf, Stretch.parts]
  | case6 seen name c rest hc ih =>
    rw [partsFrom, if_neg hc]
    have hname : '}' ∉ c :: name := by simpa [Ne.symm hc] using h.2
    simpa [scanned] using ih ⟨h.1, hname⟩

/-- Every text can be scanned, and is taken apart by that. -/
theorem exists_scan (text : String) :
    ∃ stretches rest, Scan text.toList stretches rest ∧
      (parse text).parts = partsOf stretches rest :=
  exists_scan_partsFrom [] none text.toList ⟨Plain.nil, by simp⟩

theorem parts_parse_of_scan {text : String} {stretches : List Stretch} {rest : List Char}
    (h : Scan text.toList stretches rest) : (parse text).parts = partsOf stretches rest := by
  obtain ⟨stretches', rest', h', hparts⟩ := exists_scan text
  obtain ⟨rfl, rfl⟩ := h.unique h'
  exact hparts

/-! ## Filling in -/

/-- The characters of the text that parts are filled in to. -/
def expansion (group? : String → Option String) (parts : List Part) : List Char :=
  parts.flatMap fun part => (part.expand group?).toList

theorem toList_expand (template : Template) (group? : String → Option String) :
    (template.expand group?).toList = expansion group? template.parts := by
  simp [expand, expansion, List.flatMap_map]

theorem expansion_literalOf (group? : String → Option String) (seen : List Char) :
    expansion group? (literalOf seen) = seen.reverse := by
  cases seen <;> simp [literalOf, expansion, Part.expand]

theorem expansion_append (group? : String → Option String) (ps qs : List Part) :
    expansion group? (ps ++ qs) = expansion group? ps ++ expansion group? qs :=
  List.flatMap_append

/-- What the parts of a stretch are filled in to stands before what those behind it are. -/
theorem expansion_partsOf_cons (group? : String → Option String) (stretch : Stretch)
    (stretches : List Stretch) (rest : List Char) :
    expansion group? (partsOf (stretch :: stretches) rest) =
      stretch.before ++ ((group? (String.ofList stretch.name)).getD "").toList ++
        expansion group? (partsOf stretches rest) := by
  have hstretch : expansion group? stretch.parts =
      stretch.before ++ ((group? (String.ofList stretch.name)).getD "").toList := by
    rw [Stretch.parts, expansion_append, expansion_literalOf, List.reverse_reverse]
    simp [expansion, Part.expand]
  rw [partsOf, List.flatMap_cons, List.append_assoc, expansion_append, hstretch, partsOf]

/-- To fill in a text is to scan it and to fill in its parts. -/
theorem filled_iff_scan {group? : String → Option String} {text out : List Char} :
    Filled group? text out ↔ ∃ stretches rest, Scan text stretches rest ∧
      out = expansion group? (partsOf stretches rest) := by
  constructor
  · intro h
    induction h with
    | @rest text hrest => exact ⟨[], text, .rest hrest, by simp [partsOf, expansion_literalOf]⟩
    | @placeholder before name after out hbefore hname _ ih =>
      obtain ⟨stretches, rest, hscan, rfl⟩ := ih
      exact ⟨⟨before, name⟩ :: stretches, rest, .placeholder hbefore hname hscan,
        (expansion_partsOf_cons group? ⟨before, name⟩ stretches rest).symm⟩
  · rintro ⟨stretches, rest, h, rfl⟩
    induction h with
    | rest hrest => simpa [partsOf, expansion_literalOf] using Filled.rest hrest
    | placeholder hbefore hname _ ih =>
      rw [expansion_partsOf_cons]
      exact .placeholder hbefore hname ih

/-- The parts that a text is taken apart into fill in each of its placeholders and copy all else. -/
theorem filled_iff (group? : String → Option String) (text : String) (out : List Char) :
    Filled group? text.toList out ↔ out = ((parse text).expand group?).toList := by
  rw [filled_iff_scan, toList_expand]
  constructor
  · rintro ⟨stretches, rest, hscan, rfl⟩
    rw [parts_parse_of_scan hscan]
  · rintro rfl
    obtain ⟨stretches, rest, hscan, hparts⟩ := exists_scan text
    exact ⟨stretches, rest, hscan, by rw [hparts]⟩

/-- What is put in is not scanned again, and a placeholder without an end stands for itself. -/
example : (parse "$1<$\x7Ba\x7D>$\x7Bb").expand (fun _ => some "$\x7Ba\x7D") =
    "$1<$\x7Ba\x7D>$\x7Bb" := by decide

end Telemetry.Template
