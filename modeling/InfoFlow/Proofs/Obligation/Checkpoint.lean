import InfoFlow.Proofs.Graph.Reachability
import InfoFlow.Proofs.Resolution
/-!
# Flows past checkpoints

The obligation to pass a checkpoint is decided by two searches, one through all nodes and one around
the checkpoints. Together they say what a reader expects of a checkpoint: data flows, and no walk
bypasses the nodes that carry the marker.
-/

namespace InfoFlow

/-- Data flows from node to node, and every walk meets a node that carries the marker, its ends
included. -/
def Graph.FlowsPast (g : Graph) (m : Marker) (a b : Node) : Prop :=
  g.Reaches .data a b ∧ ∀ ms, g.Walk .data a ms b → ∃ n ∈ a :: (ms ++ [b]), g.Marked m n

namespace Graph

theorem not_flowsAvoiding_iff {g : Graph} {a b : Node} {blocked : Node → Bool} :
    (!g.flowsAvoiding a b blocked) = true ↔
      ∀ ms, g.Walk .data a ms b → ∃ n ∈ a :: (ms ++ [b]), blocked n = true := by
  rw [Bool.not_eq_true', ← Bool.not_eq_true, flowsAvoiding_iff, not_exists]
  constructor
  · intro h ms w
    by_contra hnone
    refine h ms ⟨w, fun n hn => ?_⟩
    rw [← Bool.not_eq_true]
    exact fun hb => hnone ⟨n, hn, hb⟩
  · rintro h ms ⟨w, hfree⟩
    obtain ⟨n, hn, hb⟩ := h ms w
    rw [hfree n hn] at hb
    exact Bool.false_ne_true hb

theorem flowsThrough_iff {g : Graph} {m : Marker} {a b : Node} :
    g.flowsThrough (g.marked m) a b = true ↔ g.FlowsPast m a b := by
  unfold flowsThrough FlowsPast
  rw [Bool.and_eq_true, flowsTo_iff_reaches, not_flowsAvoiding_iff]
  simp only [decide_eq_true_eq, mem_marked]

end Graph

theorem PairAtom.test_through {g : Graph} {m : Marker} {subject target : Endpoint} {s d : Node}
    (hsubject : subject.Selects) (htarget : target.Selects) :
    ∃ v, (PairAtom.test g s d (.through m subject target)).result = .ok v ∧
      (v = true ↔
        subject.Asserts g s d fun a => target.Asserts g s d fun b => g.FlowsPast m a b) := by
  obtain ⟨v, hv, hiff⟩ := relateEnds_result (g := g) (s := s) (d := d) hsubject htarget
    fun a b => Graph.flowsThrough_iff (g := g) (m := m) (a := a) (b := b)
  refine ⟨v, ?_, hiff⟩
  rw [PairAtom.test, Traced.result_bind, Graph.resolve_empty_result]
  exact hv

/-- The obligation holds of a matched pair exactly if, with the subject's quantifier outside and the
target's inside, data flows between the ends they select and every walk between them, its ends
included, meets a node that carries the marker. -/
theorem holdsOfPair_through (g : Graph) (m : Marker) (subject target : Endpoint) (s d : Node)
    (hsubject : subject.Selects) (htarget : target.Selects) :
    ∃ f v, Obligation.through m subject target = .pair f ∧
      (f.holdsOfPair g s d).result = .ok v ∧
      (v = true ↔ subject.Asserts g s d fun a => target.Asserts g s d fun b =>
        g.Reaches .data a b ∧
          ∀ ms, g.Walk .data a ms b → ∃ n ∈ a :: (ms ++ [b]), g.Marked m n) := by
  obtain ⟨v, hv, hiff⟩ := PairAtom.test_through (g := g) (m := m) (s := s) (d := d) hsubject htarget
  exact ⟨.atom (.through m subject target), v, rfl, hv, hiff⟩

/-- A checkpoint that also flows to itself, between two nodes that carry no marker. -/
def guardMarker : Marker := ⟨"encryptor", by decide⟩

def guardedGraph : Graph where
  controllers := [("main", [.int 0, .int 1, .int 2])]
  labels := [(.int 1, [guardMarker])]
  edges := [⟨.int 0, .int 1, .data⟩, ⟨.int 1, .int 1, .data⟩, ⟨.int 1, .int 2, .data⟩]
  declared := [guardMarker]

theorem guardedGraph_flowsPast :
    Endpoint.source.Selects ∧ Endpoint.destination.Selects ∧
      guardedGraph.FlowsPast guardMarker (.int 0) (.int 2) := by
  have hsource : Endpoint.source.Selects := fun h => nomatch h
  have hdestination : Endpoint.destination.Selects := fun h => nomatch h
  refine ⟨hsource, hdestination, ?_⟩
  obtain ⟨f, v, hf, hv, hiff⟩ := holdsOfPair_through guardedGraph guardMarker .source .destination
    (.int 0) (.int 2) hsource hdestination
  obtain rfl := Obligation.pair.inj hf
  -- on this graph the two searches are run to their end
  have hrun : (Formula.holdsOfPair guardedGraph (.atom (.through guardMarker .source .destination))
      (.int 0) (.int 2)).result = .ok true := rfl
  rw [hrun] at hv
  exact hiff.1 (Except.ok.inj hv).symm

end InfoFlow
