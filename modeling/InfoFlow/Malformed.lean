import InfoFlow.Value
import InfoFlow.Vocabulary
/-!
# What makes a statement malformed

The parts of a statement or of a policy are checked when they are put together. Each way in which
they can disagree is a cause of its own; `message` words it.
-/

namespace InfoFlow

/-- Why parts do not make a marker, an obligation, a statement or a policy. -/
inductive Malformed where
  /-- The text of a marker is empty or no text. -/
  | markerText (got : Value)
  /-- A value stands where a marker should. -/
  | notMarker (got : Value)
  /-- A value is none of the words of a choice. -/
  | notChoice (what : String) (words : List String) (got : Value)
  /-- The check of an obligation cannot be called. -/
  | checkNotCallable (got : Value)
  /-- The check of an obligation does not take its three arguments. -/
  | checkArity (label : String) (shape : Shape)
  /-- A value stands where an obligation should. -/
  | notObligation (got : Value)
  /-- Only what the premise binds can be authorized. -/
  | unboundAuthorized
  /-- Nothing is combined. -/
  | emptyCombination (joiner : String)
  /-- Obligations about pairs and about sets are combined. -/
  | mixedShapes (joiner : String)
  /-- A set cannot have fewer than no nodes. -/
  | negativeSize (count : Int)
  /-- The name of a statement is blank or no text. -/
  | blankName
  /-- An obligation about a set needs the whole destination set. -/
  | setNeedsAll (name label : String)
  /-- Two statements of a policy have one name. -/
  | declaredTwice (policy : Value) (name : String)

namespace Malformed

/-- The wording of each cause. -/
def message : Malformed → String
  | markerText got => "marker text must be a non-empty string, got " ++ got.quoted
  | notMarker got => "expected a marker, got " ++ got.quoted
  | notChoice what words got =>
    what ++ " must be one of " ++ String.intercalate ", " words ++ "; got " ++ got.quoted
  | checkNotCallable got => "obligation check must be callable, got " ++ got.quoted
  | checkArity label shape =>
    "obligation " ++ Text.quoted label ++ " must accept (ctx, source, " ++ shape.targetName ++ ")"
  | notObligation got => "obligation must be callable, got " ++ got.quoted
  | unboundAuthorized => "only the bound source or destination can be authorized"
  | emptyCombination joiner => "'" ++ joiner ++ "' needs at least one obligation"
  | mixedShapes joiner => "cannot combine pair and set obligations with '" ++ joiner ++ "'"
  | negativeSize count => "premise size bound must be non-negative, got " ++ toString count
  | blankName => "statement name must be a non-empty string"
  | setNeedsAll name label =>
    "statement " ++ Text.quoted name ++ ": set obligation " ++ Text.quoted label ++
      " requires the 'all' destination quantifier"
  | declaredTwice policy name =>
    "policy " ++ policy.quoted ++ " declares statement " ++ Text.quoted name ++ " twice"

end Malformed

/-- The value of a choice that a piece of data names, or the cause that it names none. -/
def Choice.read {α : Type} [Choice α] (what : String) (v : Value) : Except Malformed α :=
  match v.text?.bind Choice.ofText? with
  | some a => .ok a
  | none => .error (.notChoice what (Choice.words α) v)

end InfoFlow
