import Telemetry.Config.Compile
import Telemetry.Digest.Sha256
import Telemetry.Record.Basic
import Telemetry.Template

/-!
# Actions

An action changes the attributes of a record. Only an insertion makes anything of an absent
attribute. Extractions match the whole value of their attribute and put the groups under their
names; masks replace every occurrence in the value.
-/

namespace Telemetry

open Config (Flaw Field ActionKind)

/-- Where the new value of an insertion or update comes from. -/
inductive Action.Source where
  | literal (text : String)
  | attribute (key : String)
  deriving DecidableEq, Repr

/-- A compiled action. -/
inductive Action where
  | insert (key : String) (source : Action.Source)
  | update (key : String) (source : Action.Source)
  | delete (key : String)
  | hash (key : String)
  | extract (key : String) (pattern : Pattern)
  | mask (key : String) (pattern : Pattern) (template : Template)

/-! ## Compiling -/

/-- The options that actions of a kind may have. -/
def Config.ActionKind.options : ActionKind → List String
  | .insert | .update => ["value", "fromAttribute"]
  | .delete | .hash => []
  | .extract => ["pattern", "groupNames"]
  | .mask => ["pattern", "groupNames", "replace"]

/-- The options that are given for an action. -/
def Config.Action.given (config : Config.Action) : List String :=
  [("value", config.value.isSome), ("fromAttribute", config.fromAttribute.isSome),
    ("pattern", config.pattern.isSome), ("groupNames", config.groupNames.isSome),
    ("replace", config.replace.isSome)].filterMap (fun o => if o.2 then some o.1 else none)

/-- The first option that is given but may not be. -/
def Config.Action.unused? (config : Config.Action) : Option String :=
  config.given.find? (fun name => !config.kind.options.contains name)

namespace Action

/-- Compiles the source of an insertion or update. -/
def Source.compile (field : Field) (config : Config.Action) : Except Flaw Source :=
  match config.value, config.fromAttribute with
  | some text, none => .ok (.literal text)
  | none, some key => .ok (.attribute key)
  | some _, some _ => .error ((field.member "fromAttribute").flaw (.illegal .twoSources))
  | none, none => .error ((field.member "value").flaw .missing)

/-- Compiles the pattern of an action and compares its groups with the declared ones. -/
def compilePattern (field : Field) (anchoring : Anchoring) (config : Config.Action) :
    Except Flaw Pattern := do
  match config.pattern with
  | none => .error ((field.member "pattern").flaw .missing)
  | some source =>
    let pattern ← (field.member "pattern").compilePattern anchoring source
    (field.member "groupNames").checkGroups config.groupNames pattern

/-- Compiles the template of a mask, whose placeholders have to be groups of its pattern. -/
def compileTemplate (field : Field) (pattern : Pattern) (config : Config.Action) :
    Except Flaw Template :=
  match config.replace with
  | none => .error ((field.member "replace").flaw .missing)
  | some text =>
    let template := Template.parse text
    let unknown := template.placeholders.filter (fun name => !pattern.groupNames.contains name)
    if unknown.isEmpty then .ok template
    else .error ((field.member "replace").flaw (.groups unknown pattern.groupNames))

/-- Compiles the action in a field. -/
def compile (field : Field) (config : Config.Action) : Except Flaw Action := do
  if config.key = "" then .error ((field.member "key").flaw (.value .emptyKey))
  if let some name := config.unused? then
    .error ((field.member name).flaw (.illegal (.unusedByAction config.kind)))
  match config.kind with
  | .insert => return .insert config.key (← Source.compile field config)
  | .update => return .update config.key (← Source.compile field config)
  | .delete => return .delete config.key
  | .hash => return .hash config.key
  | .extract =>
    let pattern ← compilePattern field .full config
    return .extract config.key (← (field.member "pattern").requireGroups pattern)
  | .mask =>
    let pattern ← compilePattern field .search config
    return .mask config.key pattern (← compileTemplate field pattern config)

/-! ## Applying -/

/-- The attribute that an action is on. -/
def key : Action → String
  | .insert key _ | .update key _ | .delete key | .hash key | .extract key _ | .mask key _ _ => key

/-- The new value of an insertion or update, if there is one. -/
def Source.value? (source : Source) (attributes : Attributes) : Option String :=
  match source with
  | .literal text => some text
  | .attribute key => attributes.get? key

/-- The attributes with a value put under a key, if there is one. -/
def put (attributes : Attributes) (key : String) (value : Option String) : Attributes :=
  match value with
  | some value => attributes.insert key value
  | none => attributes

/-- What the named groups cover in the first match of a pattern, for those that take part. -/
def extracted (pattern : Pattern) (value : String) : List (String × String) :=
  let text := value.toList.toArray
  match pattern.regex.firstMatch text with
  | some m => pattern.captures text m
  | none => []

/-- The text from the position `last` on, with each match replaced. -/
def splice (text : Array Char) (replacement : Regex.Match → List Char) :
    Nat → List Regex.Match → List Char
  | last, [] => (text.extract last).toList
  | last, m :: rest =>
    (text.extract last m.whole.start).toList ++ replacement m ++
      splice text replacement m.whole.stop rest

/-- The value with every match of the pattern replaced by the template. -/
def masked (pattern : Pattern) (template : Template) (value : String) : String :=
  let text := value.toList.toArray
  String.ofList (splice text
    (fun m => (template.expand (pattern.capture? text m)).toList) 0 (pattern.regex.allMatches text))

/-- The attributes after an action. -/
def apply (action : Action) (attributes : Attributes) : Attributes :=
  match action with
  | .insert key source =>
    if attributes.contains key then attributes else put attributes key (source.value? attributes)
  | .update key source =>
    if attributes.contains key then put attributes key (source.value? attributes) else attributes
  | .delete key => attributes.erase key
  | .hash key => put attributes key ((attributes.get? key).map Digest.Sha256.hex)
  | .extract key pattern =>
    match attributes.get? key with
    | some value => attributes.insertMany (extracted pattern value)
    | none => attributes
  | .mask key pattern template =>
    put attributes key ((attributes.get? key).map (masked pattern template))

/-- The attributes after some actions, one after another. -/
def applyAll (actions : List Action) (attributes : Attributes) : Attributes :=
  actions.foldl (fun attributes action => action.apply attributes) attributes

end Action

end Telemetry
