import InfoFlow.Graph.Basic
/-!
# Reachability

Both searches work through a queue of nodes and use up the arrows of each node that they visit, so
every arrow is followed once and the number of arrows and queued nodes bounds the search. The
closure collects what is reached; the avoiding search stops at its target and never enters a
blocked node.
-/

namespace InfoFlow.Graph

/-! ## What a node reaches -/

/-- The nodes that have been seen or are reached from the queue, within so many steps. -/
def visit : Nat → List (Node × Node) → List Node → List Node → List Node
  | 0, _, _, seen => seen
  | _ + 1, _, [], seen => seen
  | steps + 1, arrows, n :: queue, seen =>
    if n ∈ seen then visit steps arrows queue seen
    else visit steps (arrows.filter (·.1 ≠ n)) (queue ++ heads arrows n) (n :: seen)

/-- The nodes reached from some nodes along one edge or more, each once. -/
def reachedFrom (g : Graph) (ns : List Node) (k : EdgeKind) : List Node :=
  let arrows := g.arrows k
  let queue := ns.flatMap (heads arrows)
  visit (arrows.length + queue.length) arrows queue []

/-- The nodes reached from a node along one edge or more, each once. -/
def reached (g : Graph) (n : Node) (k : EdgeKind) : List Node := g.reachedFrom [n] k

/-- The set of the nodes reached from a node along one edge or more. -/
def influencees (g : Graph) (n : Node) (k : EdgeKind) : NodeSet := NodeSet.ofList (g.reached n k)

/-- Whether a node is reached from another along one edge or more. -/
def flowsTo (g : Graph) (s t : Node) (k : EdgeKind) : Bool := t ∈ g.reached s k

theorem flowsTo_iff {g : Graph} {s t : Node} {k : EdgeKind} :
    g.flowsTo s t k = true ↔ t ∈ g.influencees s k := by
  simp [flowsTo, influencees]

/-! ## Reaching around blocked nodes -/

/-- Whether an arrow into the target starts at a node that the queue reaches around the blocked
ones, within so many steps. -/
def arrives (blocked : Node → Bool) (target : Node) :
    Nat → List (Node × Node) → List Node → Bool
  | 0, _, _ => false
  | _ + 1, _, [] => false
  | steps + 1, arrows, n :: queue =>
    let next := heads arrows n
    target ∈ next ||
      arrives blocked target steps (arrows.filter (·.1 ≠ n)) (queue ++ next.filter (!blocked ·))

/-- Whether data flows along a path that enters no blocked node, its ends included. -/
def flowsAvoiding (g : Graph) (s t : Node) (blocked : Node → Bool) : Bool :=
  let arrows := g.arrows .data
  !blocked s && !blocked t && arrives blocked t (arrows.length + 1) arrows [s]

/-! ## Control -/

/-- Whether a node decides about another: it controls the other itself, or a node that its data
reaches does. -/
def controls (g : Graph) (s t : Node) : Bool :=
  t ∈ g.reachedFrom (s :: g.reached s .data) .control

/-- Whether two nodes are related as a kind of edge relates them. -/
def relates (g : Graph) (k : EdgeKind) (s t : Node) : Bool :=
  match k with
  | .data => g.flowsTo s t .data
  | .control => g.controls s t

end InfoFlow.Graph
