/-!
# Templates

A template is text with placeholders `${name}`. Everything else, a lone `$` or an unfinished
placeholder too, stands for itself. `Template.render` writes a template back.
-/

namespace Telemetry

/-- A part of a template. -/
inductive Template.Part where
  /-- Text that stands for itself. -/
  | literal (text : String)
  /-- A placeholder for the group called `name`. -/
  | group (name : String)
  deriving DecidableEq, Repr

/-- Text with placeholders. -/
structure Template where
  parts : List Template.Part
  deriving DecidableEq, Repr

namespace Template

/-- The literal of the characters seen, last first; no part if there are none. -/
def literalOf (seen : List Char) : List Part :=
  if seen.isEmpty then [] else [.literal (String.ofList seen.reverse)]

/-- The parts of a text behind the characters `seen`, which are to be part of a literal, last first.
Inside a placeholder `name` holds the characters of its name so far, last first. -/
def partsFrom : List Char → Option (List Char) → List Char → List Part
  | seen, none, [] => literalOf seen
  | seen, some name, [] => literalOf (name ++ '{' :: '$' :: seen)
  | seen, none, '$' :: '{' :: rest => partsFrom seen (some []) rest
  | seen, none, c :: rest => partsFrom (c :: seen) none rest
  | seen, some name, c :: rest =>
    if c = '}' then
      literalOf seen ++ .group (String.ofList name.reverse) :: partsFrom [] none rest
    else partsFrom seen (some (c :: name)) rest

/-- Takes a text for a template. -/
def parse (text : String) : Template := ⟨partsFrom [] none text.toList⟩

/-- The text of a part. -/
def Part.render : Part → String
  | .literal text => text
  | .group name => "$\x7B" ++ name ++ "\x7D"

/-- The text of a template. -/
def render (template : Template) : String := String.join (template.parts.map Part.render)

/-- The names in placeholders, in order. -/
def placeholders (template : Template) : List String :=
  template.parts.filterMap fun
    | .literal _ => none
    | .group name => some name

/-- The text of a part where the groups are what `group?` says. -/
def Part.expand (group? : String → Option String) : Part → String
  | .literal text => text
  | .group name => (group? name).getD ""

/-- The text of a template where the groups are what `group?` says; nothing stands for a group that
is absent. -/
def expand (template : Template) (group? : String → Option String) : String :=
  String.join (template.parts.map (Part.expand group?))

end Template

end Telemetry
