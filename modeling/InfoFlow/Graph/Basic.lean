import InfoFlow.Keyed
import InfoFlow.Marker
import InfoFlow.NodeSet
/-!
# Dependency graphs

A graph is a snapshot: controllers with their nodes, the markers that nodes carry, edges of two
kinds, and the markers that are declared. Only a node that some controller lists can be found by a
marker, while edges may join any nodes.
-/

namespace InfoFlow

/-- An edge of the dependency graph. -/
structure Edge where
  source : Node
  target : Node
  kind : EdgeKind
deriving DecidableEq

/-- A snapshot of the dependency graph. -/
structure Graph where
  /-- The nodes of each controller. -/
  controllers : Keyed String (List Node)
  /-- The markers of each node that has any. -/
  labels : Keyed Node (List Marker)
  edges : List Edge
  /-- The markers that the graph declares. -/
  declared : List Marker

namespace Graph

/-! ## Markers -/

/-- Whether a node carries a marker. -/
def carries (g : Graph) (m : Marker) (n : Node) : Bool :=
  (Keyed.get? g.labels n).any (·.contains m)

/-- Whether the graph declares a marker. -/
def declares (g : Graph) (m : Marker) : Bool := g.declared.contains m

/-- The nodes of all controllers. -/
def nodes (g : Graph) : List Node := g.controllers.flatMap (·.2)

/-- The nodes of the controllers that carry a marker. -/
def carriers (g : Graph) (m : Marker) : NodeSet := NodeSet.ofList (g.nodes.filter (g.carries m))

@[simp] theorem mem_carriers {g : Graph} {m : Marker} {n : Node} :
    n ∈ g.carriers m ↔ n ∈ g.nodes ∧ g.carries m n = true := by
  simp [carriers]

/-! ## Edges -/

/-- The edges of a kind, as pairs. -/
def arrows (g : Graph) (k : EdgeKind) : List (Node × Node) :=
  g.edges.filterMap fun e => if e.kind = k then some (e.source, e.target) else none

/-- The targets of the arrows from a node. -/
def heads (arrows : List (Node × Node)) (n : Node) : List Node :=
  (arrows.filter (·.1 = n)).map (·.2)

/-- The nodes one edge away from a node. -/
def successors (g : Graph) (n : Node) (k : EdgeKind) : NodeSet :=
  NodeSet.ofList (heads (g.arrows k) n)

@[simp] theorem mem_heads {arrows : List (Node × Node)} {n t : Node} :
    t ∈ heads arrows n ↔ (n, t) ∈ arrows := by
  simp [heads]

@[simp] theorem mem_arrows {g : Graph} {k : EdgeKind} {s t : Node} :
    (s, t) ∈ g.arrows k ↔ ⟨s, t, k⟩ ∈ g.edges := by
  simp only [arrows, List.mem_filterMap]
  constructor
  · rintro ⟨⟨s', t', k'⟩, he, h⟩
    by_cases hk : k' = k
    · simp_all
    · simp [hk] at h
  · exact fun h => ⟨_, h, by simp⟩

@[simp] theorem mem_successors {g : Graph} {n t : Node} {k : EdgeKind} :
    t ∈ g.successors n k ↔ ⟨n, t, k⟩ ∈ g.edges := by
  simp [successors]

/-! ## Building a graph -/

/-- The markers attached to some node. -/
def attached (labels : Keyed Node (List Marker)) : List Marker := labels.flatMap (·.2)

/-- A graph from unchecked parts. Of equal keys the last one counts; nodes are listed once; the
markers are checked first, then the kinds of the edges, then the declared markers, which are those
attached to some node unless they are given. -/
def build (controllers : List (String × List Node)) (labels : List (Node × List Value))
    (edges : List (Node × Node × Value)) (declared : Option (List Value)) :
    Except Malformed Graph := do
  let labels ← (Keyed.ofList labels).mapM fun (n, ms) => do return (n, ← ms.mapM Marker.ofValue)
  let edges ← edges.mapM fun (s, t, k) => do return Edge.mk s t (← Choice.read "edge kind" k)
  let declared ← match declared with
    | some ms => ms.mapM Marker.ofValue
    | none => pure (attached labels)
  return {
    controllers := (Keyed.ofList controllers).map fun (c, ns) => (c, NodeSet.distinct ns)
    labels, edges, declared }

end Graph

end InfoFlow
