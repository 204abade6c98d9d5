import InfoFlow.Obligation.Basic
/-!
# Evaluating obligations

Ends are looked up before anything is decided, the target's first and then the subject's. The
quantifier of the subject is the outer one. Only calls of predicates that have a tag are told.
-/

namespace InfoFlow

/-- Asks a predicate of the caller. -/
def Predicate.ask (g : Graph) (p : Predicate) (s : Node) (t : Target) : Traced Bool :=
  match p.tag with
  | some tag => do
    .tell (.called ⟨tag, s, t⟩)
    pure (p.holds g s t)
  | none => pure (p.holds g s t)

/-- Whether two ends, each quantified, are related. -/
def relateEnds (g : Graph) (subject target : Endpoint) (s d : Node)
    (related : Node → Node → Bool) : Traced Bool := do
  let targets ← target.nodes g s d
  let subjects ← subject.nodes g s d
  pure (subject.quantifier.holds subjects fun a =>
    target.quantifier.holds targets fun b => related a b)

/-- Whether data flows, and only past blocked nodes. -/
def Graph.flowsThrough (g : Graph) (blocked : NodeSet) (s t : Node) : Bool :=
  g.flowsTo s t .data && !g.flowsAvoiding s t (· ∈ blocked)

/-- Whether one of some nodes sees the data of the source and controls a node. -/
def Graph.authorizes (g : Graph) (checkers : NodeSet) (s node : Node) : Bool :=
  let seen := g.reached s .data
  checkers.nodes.any fun c => c ∈ seen && g.controls c node

/-- The node that the premise binds on a side. -/
def Side.node (side : Side) (s d : Node) : Node :=
  match side with
  | .source => s
  | .destination => d

/-- Whether an atom holds of a matched pair. -/
def PairAtom.test (g : Graph) (s d : Node) : PairAtom → Traced Bool
  | always => pure true
  | influence subject target k => relateEnds g subject target s d (g.relates k)
  | authorized m side _ => do
    let checkers ← g.resolve .empty m
    pure (g.authorizes checkers s (side.node s d))
  | through m subject target => do
    let blocked ← g.resolve .empty m
    relateEnds g subject target s d (g.flowsThrough blocked)
  | custom p => p.ask g s (.node d)

/-- Whether an atom holds of a source and its matched destinations. -/
def SetAtom.test (g : Graph) (s : Node) (premise : NodeSet) : SetAtom → Traced Bool
  | equals m => do
    let nodes ← g.resolve .empty m
    pure (premise.same nodes)
  | atLeast n => pure (n ≤ premise.size)
  | custom p => p.ask g s (.nodes premise)

/-- Whether a formula holds of a matched pair. -/
def Formula.holdsOfPair (g : Graph) (f : Formula PairAtom) (s d : Node) : Traced Bool :=
  f.evaluate (PairAtom.test g s d)

/-- Whether a formula holds of a source and its matched destinations. -/
def Formula.holdsOfSet (g : Graph) (f : Formula SetAtom) (s : Node) (premise : NodeSet) :
    Traced Bool :=
  f.evaluate (SetAtom.test g s premise)

end InfoFlow
