import InfoFlow.Graph.Reach
import InfoFlow.Trace
/-!
# Looking up markers

A marker stands for the nodes of the controllers that carry it. Whether a marker that the graph
does not declare is an error or stands for no node is the caller's choice.
-/

namespace InfoFlow.Graph

/-- Whether the graph declares a marker; if not, either a fault or an event. -/
def checkDeclared (g : Graph) (unknown : UnknownMarkers) (m : Marker) : Traced Bool :=
  if g.declares m then pure true
  else
    match unknown with
    | .error => .fault (.unknownMarker m)
    | .empty => do
      .tell (.undeclared m)
      pure false

/-- The nodes that a marker stands for. -/
def resolve (g : Graph) (unknown : UnknownMarkers) (m : Marker) : Traced NodeSet := do
  if ← g.checkDeclared unknown m then pure (g.carriers m) else pure .empty

theorem resolve_of_declares {g : Graph} {m : Marker} (h : g.declares m = true)
    (unknown : UnknownMarkers) : g.resolve unknown m = pure (g.carriers m) := by
  simp [resolve, checkDeclared, h]

end InfoFlow.Graph
