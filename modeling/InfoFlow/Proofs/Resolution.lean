import InfoFlow.Assertion
/-!
# What markers and ends stand for

A marker resolves to the nodes it stands for, with or without events on the way. An end of a flow
asks for a property of the node that the premise binds, or of some or all nodes with its marker; two
ends are related exactly if the quantified statement holds, with the subject's quantifier outside.
-/

namespace InfoFlow

namespace Graph

/-- The nodes that a marker stands for; none if the graph does not declare it. -/
def marked (g : Graph) (m : Marker) : NodeSet := if g.declares m then g.carriers m else .empty

@[simp] theorem mem_marked {g : Graph} {m : Marker} {n : Node} :
    n ∈ g.marked m ↔ g.Marked m n := by
  unfold marked Marked
  by_cases h : g.declares m = true
  · rw [if_pos h, mem_carriers]
    simp only [h, true_and]
  · rw [if_neg h]
    simp only [h, NodeSet.not_mem_empty, Bool.false_eq_true, false_and]

theorem checkDeclared_result (g : Graph) (unknown : UnknownMarkers) (m : Marker) :
    (g.checkDeclared unknown m).result =
      if unknown = .error ∧ g.declares m = false then .error (.unknownMarker m)
      else .ok (g.declares m) := by
  unfold checkDeclared
  cases h : g.declares m with
  | true => simp
  | false => cases unknown <;> rfl

/-- A marker resolves to the nodes it stands for, unless its being undeclared is an error. -/
theorem resolve_result (g : Graph) (unknown : UnknownMarkers) (m : Marker) :
    (g.resolve unknown m).result =
      if unknown = .error ∧ g.declares m = false then .error (.unknownMarker m)
      else .ok (g.marked m) := by
  unfold resolve marked
  rw [Traced.result_bind, checkDeclared_result]
  cases h : g.declares m with
  | true => simp [Except.bind]
  | false => cases unknown <;> rfl

theorem resolve_empty_result (g : Graph) (m : Marker) :
    (g.resolve .empty m).result = .ok (g.marked m) := by
  rw [resolve_result, if_neg (by simp)]

end Graph

namespace Endpoint

/-- An end is bound by the premise, or it has a marker. -/
def Selects (e : Endpoint) : Prop := e.role = .marked → e.marker.isSome = true

/-- An end asks for a property of the bound node, or of some or all nodes with its marker. -/
def Asserts (e : Endpoint) (g : Graph) (s d : Node) (P : Node → Prop) : Prop :=
  match e.role, e.marker, e.quantifier with
  | .bound side, _, _ => P (side.node s d)
  | .marked, some m, .some => ∃ n, g.Marked m n ∧ P n
  | .marked, some m, .all => ∀ n, g.Marked m n → P n
  | .marked, none, _ => False

variable {g : Graph} {e : Endpoint} {s d : Node}

theorem holds_singleton (q : Quantifier) (n : Node) (test : Node → Bool) :
    q.holds (.singleton n) test = test n := by
  cases q <;> simp [Quantifier.holds, NodeSet.singleton]

/-- The nodes of an end are found, and a test of them decides what the end asks for. -/
theorem nodes_result (h : e.Selects) :
    ∃ ns, (e.nodes g s d).result = .ok ns ∧
      ∀ (test : Node → Bool) (P : Node → Prop), (∀ n, test n = true ↔ P n) →
        (e.quantifier.holds ns test = true ↔ e.Asserts g s d P) := by
  obtain ⟨role, marker, quantifier, label⟩ := e
  cases role with
  | bound side =>
    cases side with
    | source =>
      refine ⟨.singleton s, rfl, fun test P htest => ?_⟩
      rw [holds_singleton]
      exact htest s
    | destination =>
      refine ⟨.singleton d, rfl, fun test P htest => ?_⟩
      rw [holds_singleton]
      exact htest d
  | marked =>
    cases marker with
    | none => exact absurd (h rfl) Bool.false_ne_true
    | some m =>
      refine ⟨g.marked m, Graph.resolve_empty_result g m, fun test P htest => ?_⟩
      cases quantifier with
      | some => simp only [Quantifier.holds_some, Graph.mem_marked, htest, Asserts]
      | all => simp only [Quantifier.holds_all, Graph.mem_marked, htest, Asserts]

end Endpoint

/-- Two ends are related exactly if what they ask for holds, the subject's quantifier outside. -/
theorem relateEnds_result {g : Graph} {subject target : Endpoint} {s d : Node}
    (hsubject : subject.Selects) (htarget : target.Selects) {related : Node → Node → Bool}
    {P : Node → Node → Prop} (hrelated : ∀ a b, related a b = true ↔ P a b) :
    ∃ v, (relateEnds g subject target s d related).result = .ok v ∧
      (v = true ↔ subject.Asserts g s d fun a => target.Asserts g s d fun b => P a b) := by
  obtain ⟨ts, hts, ht⟩ := target.nodes_result (g := g) (s := s) (d := d) htarget
  obtain ⟨ss, hss, hs⟩ := subject.nodes_result (g := g) (s := s) (d := d) hsubject
  -- the targets are looked up first, but the subject's quantifier is outside
  refine ⟨_, ?_, hs _ _ fun a => ht _ _ (hrelated a)⟩
  unfold relateEnds
  rw [Traced.result_bind, hts]
  change (subject.nodes g s d >>= _).result = _
  rw [Traced.result_bind, hss]
  rfl

end InfoFlow
