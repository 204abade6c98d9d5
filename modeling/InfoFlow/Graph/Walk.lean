import InfoFlow.Graph.Basic
/-!
# Walks

A walk goes from node to node along edges of one kind, one edge at least. It may come back to where
it has been, and a node may reach itself only along a walk that does.
-/

namespace InfoFlow.Graph

/-- A walk from a node to a node, with the nodes between them in order. -/
inductive Walk (g : Graph) (k : EdgeKind) : Node → List Node → Node → Prop where
  | edge {s t : Node} (h : ⟨s, t, k⟩ ∈ g.edges) : Walk g k s [] t
  | step {s m t : Node} {ms : List Node} (h : ⟨s, m, k⟩ ∈ g.edges) (w : Walk g k m ms t) :
    Walk g k s (m :: ms) t

/-- Whether some walk leads from a node to a node. -/
def Reaches (g : Graph) (k : EdgeKind) (s t : Node) : Prop := ∃ ms, Walk g k s ms t

/-- One walk after the other. -/
theorem Walk.append {g : Graph} {k : EdgeKind} {s m t : Node} {ms ns : List Node}
    (h : Walk g k s ms m) (w : Walk g k m ns t) : Walk g k s (ms ++ m :: ns) t := by
  induction h with
  | edge h => exact .step h w
  | step h _ ih => exact .step h (ih w)

theorem Reaches.trans {g : Graph} {k : EdgeKind} {s m t : Node} :
    g.Reaches k s m → g.Reaches k m t → g.Reaches k s t
  | ⟨_, h⟩, ⟨_, w⟩ => ⟨_, h.append w⟩

/-- A walk starts with an edge, and goes on from there or ends there. -/
theorem reaches_iff {g : Graph} {k : EdgeKind} {s t : Node} :
    g.Reaches k s t ↔
      ⟨s, t, k⟩ ∈ g.edges ∨ ∃ m, ⟨s, m, k⟩ ∈ g.edges ∧ g.Reaches k m t := by
  constructor
  · rintro ⟨_, h | ⟨h, w⟩⟩
    · exact .inl h
    · exact .inr ⟨_, h, _, w⟩
  · rintro (h | ⟨_, h, _, w⟩)
    · exact ⟨_, .edge h⟩
    · exact ⟨_, .step h w⟩

end InfoFlow.Graph
