import InfoFlow.Resolve
/-!
# Endpoints

An end of a flow inside an obligation: the source or the destination that the premise binds, or
some or all nodes with a marker. A bound end stands for one node, whatever its quantifier.
-/

namespace InfoFlow

/-- What the premise of a statement binds. -/
inductive Side where
  | source
  | destination
deriving DecidableEq, Repr

instance : Choice Side where
  all := [.source, .destination]
  word
    | .source => "source"
    | .destination => "destination"

/-- Where the nodes of an end come from. -/
inductive Role where
  | bound (side : Side)
  | marked
deriving DecidableEq, Repr

instance : Choice Role where
  all := [.bound .source, .bound .destination, .marked]
  word
    | .bound side => Choice.word side
    | .marked => "marked"

/-- An end of a flow inside an obligation. -/
structure Endpoint where
  role : Role
  marker : Option Marker := none
  quantifier : Quantifier := .some
  label : String := ""

namespace Endpoint

/-- The end that the premise binds on a side. -/
def bound (side : Side) (label : String) : Endpoint := { role := .bound side, label }

/-- The source, under the name of its side. -/
def source : Endpoint := bound .source (Choice.word Side.source)

/-- The destination, under the name of its side. -/
def destination : Endpoint := bound .destination (Choice.word Side.destination)

/-- Some or all nodes with a marker. -/
def marked (m : Marker) (q : Quantifier) : Endpoint where
  role := .marked
  marker := some m
  quantifier := q
  label := Choice.word q ++ " " ++ m.text

/-- The markers of an end. -/
def markers (e : Endpoint) : List Marker := e.marker.toList

/-- The fault of a marked end without a marker. -/
def noSelection : Fault :=
  .never "endpoint without a node selection" [("role", .text (Choice.word Role.marked))]

/-- The nodes of an end for a matched pair. Markers are declared by then, so an undeclared one
stands for no node. -/
def nodes (g : Graph) (e : Endpoint) (s d : Node) : Traced NodeSet :=
  match e.role, e.marker with
  | .bound .source, _ => pure (.singleton s)
  | .bound .destination, _ => pure (.singleton d)
  | .marked, some m => g.resolve .empty m
  | .marked, none => .fault noSelection

end Endpoint

/-- Whether some or all nodes pass a test. -/
def Quantifier.holds (q : Quantifier) (ns : NodeSet) (test : Node → Bool) : Bool :=
  match q with
  | .some => ns.nodes.any test
  | .all => ns.nodes.all test

theorem Quantifier.holds_some {ns : NodeSet} {test : Node → Bool} :
    Quantifier.some.holds ns test = true ↔ ∃ n, n ∈ ns ∧ test n = true := by
  simp [Quantifier.holds, NodeSet.mem_nodes]

theorem Quantifier.holds_all {ns : NodeSet} {test : Node → Bool} :
    Quantifier.all.holds ns test = true ↔ ∀ n, n ∈ ns → test n = true := by
  simp [Quantifier.holds, NodeSet.mem_nodes]

end InfoFlow
