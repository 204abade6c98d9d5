import InfoFlow.Obligation.Basic
/-!
# What may stand for an obligation

A statement is given an obligation, a bare function, or some value that is neither. A function
becomes an obligation about pairs, if it takes the three arguments that obligations are called
with.
-/

namespace InfoFlow

/-- The parameters of a function. -/
structure Arity where
  required : Nat
  optional : Nat := 0
  /-- Whether it takes any number of further arguments. -/
  variadic : Bool := false
  /-- Whether it requires an argument that is given by its name. -/
  named : Bool := false

/-- Whether a function takes so many arguments. -/
def Arity.accepts (a : Arity) (n : Nat) : Bool :=
  !a.named && a.required ≤ n && (a.variadic || n ≤ a.required + a.optional)

/-- An obligation is called with the graph, the source and the target. -/
def Arity.ofObligation : Nat := 3

/-- A function that may decide an obligation. -/
structure Callable where
  name : String
  arity : Arity
  tag : Option String := none
  holds : Graph → Node → Target → Bool

/-- What may stand for an obligation. -/
inductive Candidate where
  | obligation (o : Obligation)
  | function (f : Callable)
  | value (v : Value)

namespace Obligation

/-- An obligation decided by a function: the shape is checked first, then the function, then the
markers. -/
def ofFunction (shape : Value) (f : Callable) (description : String) (markers : List Value) :
    Except Malformed Obligation := do
  let shape ← Choice.read "obligation shape" shape
  let label := if description = "" then f.name else description
  if !f.arity.accepts Arity.ofObligation then throw (.checkArity label shape)
  let markers ← markers.mapM Marker.ofValue
  return custom shape
    { name := f.name, description, markers, tag := f.tag, holds := f.holds }

/-- An obligation whose check is some value that is no function. -/
def ofUncallable (shape check : Value) : Except Malformed Obligation := do
  let _ ← (Choice.read "obligation shape" shape : Except Malformed Shape)
  throw (.checkNotCallable check)

/-- The obligation that a candidate stands for. -/
def ofCandidate : Candidate → Except Malformed Obligation
  | .obligation o => .ok o
  | .function f => ofFunction (.text (Choice.word Shape.pair)) f "" []
  | .value v => .error (.notObligation v)

end Obligation

end InfoFlow
