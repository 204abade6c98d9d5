import InfoFlow.Graph.Walk
import InfoFlow.Obligation.Evaluate
import InfoFlow.Statement
/-!
# What a statement asserts

The meaning of a statement on a graph, said in walks and without any order of evaluation. The two
quantifiers of the premise decide which sources have to reach which destinations, and whose matched
destinations have to meet the obligation.
-/

namespace InfoFlow

/-- The nodes that a marker stands for: those of the controllers that carry it, if the graph
declares it. -/
def Graph.Marked (g : Graph) (m : Marker) (n : Node) : Prop :=
  g.declares m = true ∧ n ∈ g.nodes ∧ g.carries m n = true

namespace Statement

variable (s : Statement) (g : Graph)

/-- A source matches a destination that it reaches. -/
def Matches (a b : Node) : Prop := g.Marked s.destination b ∧ g.Reaches s.kind a b

/-- Some destination is matched. -/
def MatchesSome (a : Node) : Prop := ∃ b, s.Matches g a b

/-- Every destination is matched. -/
def MatchesAll (a : Node) : Prop := ∀ b, g.Marked s.destination b → g.Reaches s.kind a b

/-- The obligation holds of a source and each of its matched destinations, or of the source and the
set of them. -/
def Meets (a : Node) : Prop :=
  match s.obligation with
  | .pair f => ∀ b, s.Matches g a b → (f.holdsOfPair g a b).result = .ok true
  | .set f => ∃ p : NodeSet, (∀ b, b ∈ p ↔ s.Matches g a b) ∧
      (f.holdsOfSet g a p).result = .ok true

/-- What the statement asserts of a source. -/
def AssertsOf (a : Node) : Prop :=
  match s.sourceQuantifier, s.destinationQuantifier with
  | .some, .some => s.Meets g a
  | .some, .all => s.MatchesAll g a → s.Meets g a
  | .all, .some => s.MatchesSome g a ∧ s.Meets g a
  | .all, .all => s.MatchesAll g a ∧ s.Meets g a

/-- What the statement asserts: of every source, what it asserts of one. -/
def Asserts : Prop := ∀ a, g.Marked s.source a → s.AssertsOf g a

end Statement

end InfoFlow
