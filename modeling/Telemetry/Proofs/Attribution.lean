import Telemetry.Proofs.Documents

/-!
# Which entry an error is about

A document is read, its ids are compared and its processors are compiled, in this order, and each
pass ends at the first entry that it cannot take. The error of a document names that entry, and
where only actions keep a processor from compiling, it names the first of them that does not
compile. Entries behind that read well and repeat no id change nothing. Main statement:
`error_of_outline`.
-/

namespace Telemetry

open Config (Flaw Field)

/-! ## Where flaws are reported -/

/-- All flaws that a program can find are at fields with a property. -/
def Config.FlawsAt {α : Type} (P : Field → Prop) (x : Except Flaw α) : Prop :=
  ∀ flaw, x = .error flaw → P flaw.field

namespace Config.FlawsAt

variable {α β : Type} {P : Field → Prop}

theorem ok (a : α) : FlawsAt P (Except.ok a) := by
  intro flaw h
  cases h

theorem error {flaw : Flaw} (h : P flaw.field) : FlawsAt P (Except.error flaw : Except Flaw α) := by
  intro flaw' h'
  cases h'
  exact h

theorem bind {x : Except Flaw α} {f : α → Except Flaw β} (hx : FlawsAt P x)
    (hf : ∀ a, FlawsAt P (f a)) : FlawsAt P (x >>= f) := by
  intro flaw h
  rcases Except.bind_eq_error_iff.mp h with h | ⟨a, -, h⟩
  · exact hx flaw h
  · exact hf a flaw h

theorem mapError {ε : Type} {x : Except ε α} {f : ε → Flaw} (h : ∀ e, P (f e).field) :
    FlawsAt P (x.mapError f) := by
  intro flaw hflaw
  obtain ⟨e, -, rfl⟩ := Except.mapError_eq_error_iff.mp hflaw
  exact h e

end Config.FlawsAt

open Config (FlawsAt)

/-! ## Actions -/

/-- An action that compiles on its own, wherever it stands. -/
def Config.Action.Compiles (action : Config.Action) : Prop :=
  ∃ field step, Action.compile field action = .ok step

namespace Action

theorem exists_compile_iff_compiles (field : Field) (action : Config.Action) :
    (∃ step, compile field action = .ok step) ↔ action.Compiles := by
  constructor
  · rintro ⟨step, h⟩
    exact ⟨field, step, h⟩
  · rintro ⟨field', step, h⟩
    exact (exists_compile_eq_ok_iff field action).mpr
      ((exists_compile_eq_ok_iff field' action).mp ⟨step, h⟩)

/-- An action that does not compile has a flaw, wherever it stands. -/
theorem exists_error_of_not_compiles (field : Field) {action : Config.Action}
    (h : ¬ action.Compiles) : ∃ flaw, compile field action = .error flaw := by
  cases hcompile : compile field action with
  | ok step => exact absurd ⟨field, step, hcompile⟩ h
  | error flaw => exact ⟨flaw, rfl⟩

theorem Source.flawsAt_compile (field : Field) (config : Config.Action) :
    FlawsAt (fun f => ∃ name, f = field.member name) (Source.compile field config) := by
  unfold Source.compile
  split
  · exact .ok _
  · exact .ok _
  · exact .error ⟨_, rfl⟩
  · exact .error ⟨_, rfl⟩

theorem flawsAt_compilePattern (field : Field) (anchoring : Anchoring) (config : Config.Action) :
    FlawsAt (fun f => ∃ name, f = field.member name) (compilePattern field anchoring config) := by
  unfold compilePattern
  split
  · exact .error ⟨_, rfl⟩
  · refine .bind (.mapError fun _ => ⟨_, rfl⟩) fun pattern => ?_
    unfold Field.checkGroups
    split
    · exact .ok _
    · split
      · exact .ok _
      · exact .error ⟨_, rfl⟩

theorem flawsAt_compileTemplate (field : Field) (pattern : Pattern) (config : Config.Action) :
    FlawsAt (fun f => ∃ name, f = field.member name) (compileTemplate field pattern config) := by
  unfold compileTemplate
  split
  · exact .error ⟨_, rfl⟩
  · dsimp only
    split
    · exact .ok _
    · exact .error ⟨_, rfl⟩

theorem flawsAt_requireGroups (field : Field) (pattern : Pattern) :
    FlawsAt (fun f => f = field) (field.requireGroups pattern) := by
  unfold Field.requireGroups
  split
  · exact .error rfl
  · exact .ok _

/-- Whatever is wrong with an action is reported at one of its own fields. -/
theorem flawsAt_compile (field : Field) (config : Config.Action) :
    FlawsAt (fun f => ∃ name, f = field.member name) (compile field config) := by
  unfold compile
  by_cases hkey : config.key = ""
  · simp only [hkey, if_true]
    exact .error ⟨_, rfl⟩
  · cases hunused : config.unused? with
    | some name =>
      simp only [hkey, if_false]
      exact .error ⟨_, rfl⟩
    | none =>
      simp only [hkey, if_false]
      cases config.kind with
      | insert | update => exact .bind (Source.flawsAt_compile field config) fun _ => .ok _
      | delete | hash => exact .ok _
      | extract =>
        refine .bind (flawsAt_compilePattern field .full config) fun pattern => ?_
        refine .bind (fun flaw h => ?_) fun _ => .ok _
        exact ⟨_, flawsAt_requireGroups _ _ flaw h⟩
      | mask =>
        refine .bind (flawsAt_compilePattern field .search config) fun pattern => ?_
        exact .bind (flawsAt_compileTemplate field pattern config) fun _ => .ok _

/-- The field of a flaw starts with the way to the action that has it. -/
theorem text_field_of_error {index : Nat} {action : Config.Action} {flaw : Flaw}
    (h : compile ((Field.named "actions").item index) action = .error flaw) :
    ∃ rest, flaw.field.text = "actions[" ++ toString index ++ "]." ++ rest := by
  obtain ⟨name, hfield⟩ := flawsAt_compile _ action flaw h
  refine ⟨name, ?_⟩
  rw [hfield]
  simp only [Field.text, String.append_assoc]
  rfl

end Action

/-! ## Processors -/

/-- A processor that only its actions keep from compiling: one of them does not compile, and with
others the processor would. -/
structure Config.Processor.FailsByActions (config : Config.Processor)
    (actions : List Config.Action) : Prop where
  given : config.actions = some actions
  failing : ∃ action ∈ actions, ¬ action.Compiles
  repaired : ∃ others, Pipeline.Compiles { config with actions := some others }

namespace Processor

/-- A processor that only its actions keep from compiling is refused for the first of them that does
not compile. -/
theorem compile_of_failsByActions {config : Config.Processor} {actions : List Config.Action}
    (h : config.FailsByActions actions) :
    ∃ index action flaw, actions.FirstFailing Config.Action.Compiles index action ∧
      Action.compile ((Field.named "actions").item index) action = .error flaw ∧
      compile config = .error (.rejected config.id flaw) := by
  obtain ⟨others, processor, hothers⟩ := h.repaired
  obtain ⟨hid, hsections, hinclude, hexclude, hincluded, hexcluded, -⟩ :=
    compile_eq_ok_iff.mp hothers
  -- the other sections are the same, so what is checked before the actions passes here too
  have hfit := (checkSections_eq_ok_iff _).mp hsections
  have hkind : config.kind = .attribute := hfit.actions rfl
  have hsections : checkSections config = .ok () :=
    (checkSections_eq_ok_iff config).mpr ⟨fun _ => hkind, hfit.body, hfit.name, hfit.filter⟩
  obtain ⟨index, action, hfirst⟩ := List.exists_firstFailing h.failing
  obtain ⟨flaw, hflaw⟩ :=
    Action.exists_error_of_not_compiles ((Field.named "actions").item index) hfirst.not
  have hitems : (Field.named "actions").compileItems Action.compile 0 actions = .error flaw :=
    (Field.compileItems_eq_error_iff Action.exists_compile_iff_compiles).mpr
      ⟨index, action, hfirst, by rwa [Nat.zero_add]⟩
  have heffect : compileEffect config = .error flaw := by
    have hsome : actions.isEmpty = false :=
      List.isEmpty_eq_false_iff_exists_mem.mpr ⟨action, hfirst.mem⟩
    simp only [compileEffect, hkind, h.given, hsome, hitems]
    rfl
  have hnamed : compileNamed config = .error flaw := by
    simp only [compileNamed, hsections, hinclude, hexclude, hincluded, hexcluded, heffect]
    rfl
  refine ⟨index, action, flaw, hfirst, hflaw, ?_⟩
  rw [compile, if_neg hid, hnamed]
  rfl

/-- The error of a processor that does not compile calls it by its id. -/
theorem processor?_of_compile_eq_error {config : Config.Processor} {e : Config.Error}
    (h : compile config = .error e) :
    e.processor? = some (if config.id = "" then "<unnamed>" else config.id) := by
  unfold compile at h
  split at h
  · next hid =>
    obtain rfl := Except.error.inj h
    simp [hid, Config.Error.processor?, unnamed]
  · next hid =>
    obtain ⟨flaw, -, rfl⟩ := Except.mapError_eq_error_iff.mp h
    simp [hid, Config.Error.processor?]

end Processor

/-! ## Entries -/

namespace Config

/-- How errors call an entry that is no processor: by its id if it is an object that has a text for
one, and by its index otherwise. -/
structure Labels (index : Nat) (entry : Json) (label : String) : Prop where
  byId : ∀ members id, entry = .object members → Keyed.get? "id" members = some (.string id) →
    label = id
  byIndex : (¬ ∃ members id, entry = .object members ∧
    Keyed.get? "id" members = some (.string id)) → label = "#" ++ toString index

theorem labels_entryLabel (index : Nat) (entry : Json) :
    Labels index entry (entryLabel index entry) := by
  constructor
  · rintro members id rfl hid
    simp [entryLabel, Json.member?, hid, Json.asString?]
  · intro hnone
    suffices (entry.member? "id").bind Json.asString? = none by simp [entryLabel, this]
    cases hid : (entry.member? "id").bind Json.asString? with
    | none => rfl
    | some id =>
      obtain ⟨j, hmember, htext⟩ := Option.bind_eq_some_iff.mp hid
      cases entry with
      | object members =>
        cases j with
        | string s => exact absurd ⟨members, s, rfl, hmember⟩ hnone
        | _ => cases htext
      | _ => cases hmember

/-- The ids of the entries that are processors. -/
def entryIds (entries : List Json) : List String :=
  entries.filterMap (fun entry => (Processor.form.decode entry).toOption.map (·.id))

theorem entryIds_of_forall₂ {entries : List Json} {configs : List Processor}
    (h : List.Forall₂ (fun entry config => Processor.form.decode entry = .ok config) entries
      configs) : entryIds entries = configs.map (·.id) := by
  induction h with
  | nil => rfl
  | cons hentry _ ih => simp_all [entryIds, Except.toOption]

/-- More entries that are processors and repeat no id. -/
structure Continues (entries more : List Json) : Prop where
  processors : ∀ entry ∈ more, IsProcessor entry
  distinct : (entryIds more).Nodup
  fresh : ∀ id ∈ entryIds more, id ∉ entryIds entries

end Config

/-! ## Documents -/

namespace Pipeline

open Config

/-- Of a document whose outline is accepted, the entries are read and then made a pipeline. -/
theorem result_ofSource_of_outline (serial : Nat) {j : Json} {entries : List Json}
    (h : outline.decode j = .ok entries) :
    (ofSource serial (.value j)).result =
      readEntries 0 entries >>= fun configs => (build serial ⟨configs⟩).result := by
  simp only [ofSource, Source.read, ofJson, h]
  cases readEntries 0 entries with
  | error e => rfl
  | ok configs => rfl

/-- What makes a document fail makes it fail alike with more entries that repeat no id. -/
theorem result_ofSource_of_continues {serial : Nat} (serial' : Nat) {j j' : Json}
    {entries more : List Json} {e : Error} (h : outline.decode j = .ok entries)
    (h' : outline.decode j' = .ok (entries ++ more)) (hmore : Continues entries more)
    (he : (ofSource serial (.value j)).result = .error e) :
    (ofSource serial' (.value j')).result = .error e := by
  rw [result_ofSource_of_outline serial h, Except.bind_eq_error_iff] at he
  rw [result_ofSource_of_outline serial' h', Except.bind_eq_error_iff]
  rcases he with he | ⟨configs, hconfigs, he⟩
  · left
    obtain ⟨i, entry, mismatch, hfirst, hdecode, rfl⟩ := readEntries_eq_error_iff.mp he
    exact readEntries_eq_error_iff.mpr ⟨i, entry, mismatch, hfirst.append more, hdecode, rfl⟩
  · right
    have hread := readEntries_eq_ok_iff.mp hconfigs
    obtain ⟨added, hadded⟩ := List.Forall₂.exists_of_forall_exists hmore.processors
    refine ⟨configs ++ added, readEntries_eq_ok_iff.mpr (List.rel_append hread hadded), ?_⟩
    have hids := entryIds_of_forall₂ hadded
    rw [build_eq_error_iff] at he ⊢
    rcases he with ⟨c, hc, rfl⟩ | ⟨hnodup, i, c, hc, hcompile⟩
    · exact .inl ⟨c, hc.append added, rfl⟩
    · refine .inr ⟨?_, i, c, hc.append added, hcompile⟩
      rw [List.map_append, List.nodup_append]
      refine ⟨hnodup, hids ▸ hmore.distinct, fun id hid id' hid' heq => ?_⟩
      exact hmore.fresh id' (hids ▸ hid') (entryIds_of_forall₂ hread ▸ heq ▸ hid)

/-- The error of a document is about the first entry that is no processor, else about the first
processor that repeats an id, else about the first one that does not compile; entries behind that
read well and repeat no id do not change it. -/
theorem error_of_outline (serial : Nat) {j : Json} {entries : List Json}
    (h : outline.decode j = .ok entries) :
    ((∃ entry ∈ entries, ¬ IsProcessor entry) →
        ∃ i entry mismatch label, entries.FirstFailing IsProcessor i entry ∧
          Config.Processor.form.decode entry = .error mismatch ∧ Labels i entry label ∧
          (ofSource serial (.value j)).result = .error (.malformed label mismatch)) ∧
      (∀ configs : List Config.Processor,
        List.Forall₂ (fun entry config => Config.Processor.form.decode entry = .ok config)
            entries configs →
          (¬ (configs.map (·.id)).Nodup →
            ∃ config, FirstRepeating configs config ∧
              (ofSource serial (.value j)).result = .error (.duplicateId config.id)) ∧
          ((configs.map (·.id)).Nodup → (∃ config ∈ configs, ¬ Compiles config) →
            ∃ i config e, configs.FirstFailing Compiles i config ∧
              Processor.compile config = .error e ∧
              (ofSource serial (.value j)).result = .error e ∧
              e.processor? = some (if config.id = "" then "<unnamed>" else config.id) ∧
              ∀ actions, config.FailsByActions actions → ∃ index action flaw rest,
                actions.FirstFailing Config.Action.Compiles index action ∧
                  e = .rejected config.id flaw ∧
                  flaw.field.text = "actions[" ++ toString index ++ "]." ++ rest)) ∧
      ∀ e, (ofSource serial (.value j)).result = .error e →
        ∀ more, Continues entries more → ∀ serial' j', outline.decode j' = .ok (entries ++ more) →
          (ofSource serial' (.value j')).result = .error e := by
  have hresult := result_ofSource_of_outline serial h
  refine ⟨fun hexists => ?_, fun configs hconfigs => ?_, fun e he more hmore serial' j' h' =>
    result_ofSource_of_continues serial' h h' hmore he⟩
  · obtain ⟨i, entry, hfirst⟩ := List.exists_firstFailing hexists
    cases hdecode : Config.Processor.form.decode entry with
    | ok config => exact absurd ⟨config, hdecode⟩ hfirst.not
    | error mismatch =>
      refine ⟨i, entry, mismatch, _, hfirst, hdecode, labels_entryLabel i entry, ?_⟩
      have hread : readEntries 0 entries = .error (.malformed (entryLabel i entry) mismatch) :=
        readEntries_eq_error_iff.mpr
          ⟨i, entry, mismatch, hfirst, hdecode, by rw [Nat.zero_add]⟩
      rw [hresult, hread]
      rfl
  · have hbuild : (ofSource serial (.value j)).result = (build serial ⟨configs⟩).result := by
      rw [hresult, readEntries_eq_ok_iff.mpr hconfigs]
      rfl
    rw [hbuild]
    refine ⟨fun hrepeats => ?_, fun hnodup hexists => ?_⟩
    · obtain ⟨config, hfirst⟩ := exists_firstRepeating hrepeats
      exact ⟨config, hfirst, build_eq_error_iff.mpr (.inl ⟨config, hfirst, rfl⟩)⟩
    · obtain ⟨i, config, hfirst⟩ := List.exists_firstFailing hexists
      cases hcompile : Processor.compile config with
      | ok p => exact absurd ⟨p, hcompile⟩ hfirst.not
      | error e =>
        refine ⟨i, config, e, hfirst, hcompile,
          build_eq_error_iff.mpr (.inr ⟨hnodup, i, config, hfirst, hcompile⟩),
          Processor.processor?_of_compile_eq_error hcompile, ?_⟩
        intro actions hactions
        obtain ⟨index, action, flaw, hfirst, hflaw, hrejected⟩ :=
          Processor.compile_of_failsByActions hactions
        obtain ⟨rest, htext⟩ := Action.text_field_of_error hflaw
        exact ⟨index, action, flaw, rest, hfirst,
          Except.error.inj (hcompile.symm.trans hrejected), htext⟩

/-- An attribute processor whose second action has no pattern. -/
def halfMask : Config.Processor where
  id := "mask"
  kind := .attribute
  actions := some [{ kind := .delete, key := "debug" }, { kind := .mask, key := "card" }]

/-- A document with some entries. -/
def documentOf (entries : List Json) : Json := .object [("processors", .array entries)]

theorem decode_outline_documentOf (entries : List Json) :
    outline.decode (documentOf entries) = .ok entries :=
  (decode_outline_object_iff (by simp)).mpr ⟨by simp, rfl⟩

/-- The errors of documents with the processor: its second action is to blame, also if another
processor follows, unless an entry is no processor or the processor stands twice. -/
theorem error_of_outline_halfMask :
    ∃ actions flaw mismatch, halfMask.FailsByActions actions ∧
      (ofSource 0 (.value (documentOf [Config.Processor.form.encode halfMask]))).result =
        .error (.rejected "mask" flaw) ∧
      (∃ rest, flaw.field.text = "actions[1]." ++ rest) ∧
      (ofSource 1 (.value (documentOf ([Config.Processor.form.encode halfMask] ++
        [Config.Processor.form.encode { halfMask with id := "more" }])))).result =
          .error (.rejected "mask" flaw) ∧
      (ofSource 0 (.value (documentOf [Config.Processor.form.encode halfMask,
        .object [("id", .string "no kind")]]))).result =
          .error (.malformed "no kind" mismatch) ∧
      (ofSource 0 (.value (documentOf [Config.Processor.form.encode halfMask,
        Config.Processor.form.encode halfMask]))).result = .error (.duplicateId "mask") := by
  have hread (c : Config.Processor) : Config.Processor.form.decode
      (Config.Processor.form.encode c) = .ok c := Config.Processor.form.decode_encode (by decide) c
  have hdelete : Config.Action.Compiles { kind := .delete, key := "debug" } :=
    ⟨.named "actions", _, rfl⟩
  have hmask : ¬ Config.Action.Compiles { kind := .mask, key := "card" } := by
    rintro ⟨field, step, hstep⟩
    cases hstep
  have hcompiles : ¬ Compiles halfMask := by
    rintro ⟨p, hp⟩
    cases hp
  have hfails : halfMask.FailsByActions
      [{ kind := .delete, key := "debug" }, { kind := .mask, key := "card" }] :=
    ⟨rfl, ⟨_, List.mem_cons_of_mem _ List.mem_cons_self, hmask⟩,
      ⟨[{ kind := .delete, key := "debug" }], _, rfl⟩⟩
  have hforeign : ¬ IsProcessor (.object [("id", .string "no kind")]) := by
    rintro ⟨c, hc⟩
    cases hc
  -- one entry, which does not compile
  obtain ⟨-, hrejected, happend⟩ :=
    error_of_outline 0 (decode_outline_documentOf [Config.Processor.form.encode halfMask])
  obtain ⟨i, config, e, hfirst, -, hresult, -, hactions⟩ :=
    (hrejected [halfMask] (.cons (hread _) .nil)).2 (by decide)
      ⟨halfMask, List.mem_cons_self, hcompiles⟩
  obtain rfl : config = halfMask := by simpa using hfirst.mem
  obtain ⟨_, _, flaw, rest, haction, rfl, htext⟩ := hactions _ hfails
  obtain ⟨_, rfl, hsecond⟩ := (List.firstFailing_cons_of hdelete).mp haction
  obtain ⟨rfl, -⟩ := (List.firstFailing_cons_of_not hmask).mp hsecond
  have hcontinues : Continues [Config.Processor.form.encode halfMask]
      [Config.Processor.form.encode { halfMask with id := "more" }] := by
    constructor
    · simp [IsProcessor, hread]
    · simp [entryIds, hread, Except.toOption]
    · simp [entryIds, hread, Except.toOption, halfMask]
  -- a second entry that is no processor
  obtain ⟨i, entry, mismatch, label, hfirst, -, hlabel, hmalformed⟩ :=
    (error_of_outline 0 (decode_outline_documentOf [Config.Processor.form.encode halfMask,
      .object [("id", .string "no kind")]])).1
      ⟨.object [("id", .string "no kind")], by simp, hforeign⟩
  obtain rfl : entry = .object [("id", .string "no kind")] := by
    rcases List.mem_cons.mp hfirst.mem with rfl | hentry
    · exact absurd ⟨halfMask, hread halfMask⟩ hfirst.not
    · simpa using hentry
  obtain rfl := hlabel.byId _ "no kind" rfl rfl
  -- the same entry twice
  obtain ⟨config, hrepeats, hduplicate⟩ :=
    ((error_of_outline 0 (decode_outline_documentOf [Config.Processor.form.encode halfMask,
      Config.Processor.form.encode halfMask])).2.1 [halfMask, halfMask]
      (.cons (hread _) (.cons (hread _) .nil))).1 (by decide)
  obtain rfl : config = halfMask := by simpa using hrepeats.mem
  exact ⟨_, flaw, mismatch, hfails, hresult, ⟨rest, htext⟩,
    happend _ hresult _ hcontinues 1 _ (decode_outline_documentOf _), hmalformed, hduplicate⟩

end Pipeline

end Telemetry
