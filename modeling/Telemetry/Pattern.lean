import Telemetry.Regex.Joint

/-!
# Patterns

A pattern that an operator wrote, compiled once with guards on its size. Under `full` anchoring it
has to match a whole text, under `search` it may occur anywhere. A set of patterns tells which of
them match a text.
-/

namespace Telemetry

/-- How a pattern is applied to a text. -/
inductive Anchoring where
  /-- The whole text has to match. -/
  | full
  /-- The first occurrence anywhere in the text counts. -/
  | search
  deriving DecidableEq, Repr

/-- The text that is compiled for a pattern. -/
def Anchoring.source (anchoring : Anchoring) (pattern : String) : String :=
  match anchoring with
  | .full => "^(?:" ++ pattern ++ ")$"
  | .search => pattern

/-- A compiled pattern with the text that it was written as. -/
structure Pattern where
  source : String
  regex : Regex

namespace Pattern

/-- The greatest length of a pattern in bytes. -/
def maxBytes : Nat := 4096

/-- Why a pattern is refused. -/
inductive Reason where
  | tooLong
  | notCompiled (fault : Regex.CompileFault)
  deriving DecidableEq, Repr

/-- A refused pattern, as it is shown, and why it is refused. -/
structure Fault where
  shown : String
  reason : Reason
  deriving DecidableEq, Repr

/-- How a fault in the text of a pattern is told, with the pattern as it is shown. The words are
those of the compiler of patterns, which may quote the pattern and point at the place; nothing else
depends on them. -/
abbrev Wording := String → Regex.SyntaxFault → String

/-- The wording that tells the kind of the fault and no more. -/
def Wording.brief : Wording := fun _ fault => "regex parse error: " ++ fault.message

/-- The wording of a refusal. -/
def Fault.message (fault : Fault) (wording : Wording := .brief) : String :=
  match fault.reason with
  | .tooLong => "pattern exceeds " ++ toString maxBytes ++ " bytes"
  | .notCompiled (.malformed e) => wording fault.shown e
  | .notCompiled .tooLarge =>
    "Compiled regex exceeds size limit of " ++ toString Regex.weightLimit ++ " bytes."

/-- How a pattern that is too long is shown. -/
def shortened (source : String) : String := String.ofList (source.toList.take 32) ++ "..."

/-- Compiles a pattern. It has to be a pattern by itself before it is anchored, so that no text can
close the group that anchors it. -/
def compile (anchoring : Anchoring) (source : String) : Except Fault Pattern :=
  if maxBytes < source.utf8ByteSize then .error ⟨shortened source, .tooLong⟩
  else
    match Regex.compile source with
    | .error e => .error ⟨source, .notCompiled e⟩
    | .ok regex =>
      match anchoring with
      | .search => .ok ⟨source, regex⟩
      | .full =>
        match Regex.compile (anchoring.source source) with
        | .error e => .error ⟨source, .notCompiled e⟩
        | .ok regex => .ok ⟨source, regex⟩

/-- The names of the named groups, in order. -/
def groupNames (pattern : Pattern) : List String := pattern.regex.groupNames

/-- Whether the pattern matches a text. -/
def isMatch (pattern : Pattern) (text : String) : Bool := pattern.regex.isMatch text

/-- The texts of the named groups that take part in a match, in order of the groups. -/
def captures (pattern : Pattern) (text : Array Char) (m : Regex.Match) : List (String × String) :=
  pattern.regex.namedGroups.filterMap
    (fun g => (m.group? g.1).map (fun span => (g.2, span.textIn text)))

/-- The text of the named group in a match, if it takes part. -/
def capture? (pattern : Pattern) (text : Array Char) (m : Regex.Match) (name : String) :
    Option String :=
  (pattern.regex.namedSpan? m name).map (fun span => span.textIn text)

end Pattern

/-- Patterns that are tried together, in one program. -/
structure PatternSet where
  joint : Regex.Joint

namespace PatternSet

/-- Why a set of patterns is refused: one of them by itself, or all of them together. -/
inductive Fault where
  | item (index : Nat) (fault : Pattern.Fault)
  | whole (fault : Pattern.Fault)
  deriving DecidableEq, Repr

/-- Compiles the patterns one after another; `index` is the number of those before. -/
def compileItems (anchoring : Anchoring) : Nat → List String → Except Fault (List Pattern)
  | _, [] => .ok []
  | index, source :: sources =>
    match Pattern.compile anchoring source with
    | .error e => .error (.item index e)
    | .ok p => (compileItems anchoring (index + 1) sources).map (p :: ·)

/-- Compiles patterns that are tried together. Each of them has to be a pattern by itself before all
of them are compiled into one program. -/
def compile (anchoring : Anchoring) (sources : List String) : Except Fault PatternSet :=
  match compileItems anchoring 0 sources with
  | .error e => .error e
  | .ok _ =>
    match Regex.Joint.compile (sources.map anchoring.source) with
    | .error e => .error (.whole ⟨", ".intercalate sources, .notCompiled e⟩)
    | .ok joint => .ok ⟨joint⟩

/-- The places of the patterns that match a text, in ascending order. -/
def matching (set : PatternSet) (text : String) : List Nat := set.joint.matching text

/-- Whether one of the patterns matches a text. -/
def isMatch (set : PatternSet) (text : String) : Bool := set.joint.isMatch text

end PatternSet

end Telemetry
