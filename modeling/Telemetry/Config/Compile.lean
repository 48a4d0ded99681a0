import Telemetry.Config.Error

/-!
# Compiling at a field

What is compiled from the value of a field: a pattern, a pattern with the groups it is said to have,
or a set of patterns. Whatever is wrong is reported at that field.
-/

namespace Telemetry.Config.Field

/-- A flaw of the field. -/
def flaw (field : Field) (defect : Defect) : Flaw := ⟨field, defect⟩

/-- Compiles the pattern in a field. -/
def compilePattern (field : Field) (anchoring : Anchoring) (source : String) :
    Except Flaw Pattern :=
  (Pattern.compile anchoring source).mapError (fun fault => field.flaw (.pattern fault))

/-- Admits a pattern if its named groups are the declared ones, in order, where some are declared.
What differs is reported at the field `declaredAt`. -/
def checkGroups (declaredAt : Field) (declared : Option (List String)) (pattern : Pattern) :
    Except Flaw Pattern :=
  match declared with
  | none => .ok pattern
  | some expected =>
    if expected = pattern.groupNames then .ok pattern
    else .error (declaredAt.flaw (.groups expected pattern.groupNames))

/-- Admits a pattern if it has a named group. -/
def requireGroups (field : Field) (pattern : Pattern) : Except Flaw Pattern :=
  if pattern.groupNames.isEmpty then .error (field.flaw (.value (.noNamedGroups pattern.source)))
  else .ok pattern

/-- What is wrong with a set of patterns as a flaw: that of one pattern is one of its item. -/
def setFlaw (field : Field) : PatternSet.Fault → Flaw
  | .item index fault => (field.item index).flaw (.pattern fault)
  | .whole fault => field.flaw (.pattern fault)

/-- Compiles the patterns in a field that holds a list of them. -/
def compilePatternSet (field : Field) (anchoring : Anchoring) (sources : List String) :
    Except Flaw PatternSet :=
  (PatternSet.compile anchoring sources).mapError field.setFlaw

/-- Compiles the items of a list in a field, one after another; `index` is the number of those
before. -/
def compileItems (field : Field) (compile : Field → α → Except Flaw β) :
    Nat → List α → Except Flaw (List β)
  | _, [] => .ok []
  | index, a :: rest =>
    match compile (field.item index) a with
    | .error e => .error e
    | .ok b => (field.compileItems compile (index + 1) rest).map (b :: ·)

end Telemetry.Config.Field
