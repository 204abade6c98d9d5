import InfoFlow.Proofs.Evaluation.Recording
import InfoFlow.Proofs.Obligation.Checkpoint
/-!
# What obligations mean

Atoms ask for walks between two ends, and a test of an atom answers yes exactly if there are such
walks. A formula is tested from left to right, and no further than its value needs; what is left out
does not change the answer, because every test ends with one.
-/

namespace InfoFlow

/-! ## Tests and what they test -/

/-- A test ends with an answer, which is yes exactly if a proposition is true. -/
def Traced.AnswersIff (x : Traced Bool) (P : Prop) : Prop :=
  ∃ v, x.result = .ok v ∧ (v = true ↔ P)

namespace Traced.AnswersIff

variable {x y : Traced Bool} {P Q : Prop}

theorem answers (h : x.AnswersIff P) : x.Answers := by
  obtain ⟨v, hv, -⟩ := h
  exact ⟨v, hv⟩

theorem iff (h : x.AnswersIff P) : x.result = .ok true ↔ P := by
  obtain ⟨v, hv, hP⟩ := h
  rw [hv, Except.ok.injEq]
  exact hP

theorem imp_iff (h : x.AnswersIff P) (hPQ : P ↔ Q) : x.AnswersIff Q := by
  obtain ⟨v, hv, hP⟩ := h
  exact ⟨v, hv, hP.trans hPQ⟩

protected theorem pure_true : (pure true : Traced Bool).AnswersIff True :=
  ⟨true, rfl, iff_of_true rfl trivial⟩

/-- The second test is not made after a no, which is then the answer to both. -/
theorem and (hx : x.AnswersIff P) (hy : y.AnswersIff Q) :
    (do if ← x then y else pure false : Traced Bool).AnswersIff (P ∧ Q) := by
  obtain ⟨v, hv, hP⟩ := hx
  cases v with
  | true =>
    obtain ⟨w, hw, hQ⟩ := hy
    refine ⟨w, ?_, ?_⟩
    · rw [Traced.result_bind, hv]
      exact hw
    · rw [and_iff_right (hP.1 rfl)]
      exact hQ
  | false =>
    refine ⟨false, ?_, ?_⟩
    · rw [Traced.result_bind, hv]
      rfl
    · have hnot : ¬P := fun h => Bool.false_ne_true (hP.2 h)
      exact iff_of_false Bool.false_ne_true fun h => hnot h.1

/-- The second test is not made after a yes. -/
theorem or (hx : x.AnswersIff P) (hy : y.AnswersIff Q) :
    (do if ← x then pure true else y : Traced Bool).AnswersIff (P ∨ Q) := by
  obtain ⟨v, hv, hP⟩ := hx
  cases v with
  | true =>
    refine ⟨true, ?_, iff_of_true rfl (.inl (hP.1 rfl))⟩
    rw [Traced.result_bind, hv]
    rfl
  | false =>
    obtain ⟨w, hw, hQ⟩ := hy
    have hnot : ¬P := fun h => Bool.false_ne_true (hP.2 h)
    refine ⟨w, ?_, ?_⟩
    · rw [Traced.result_bind, hv]
      exact hw
    · rw [or_iff_right hnot]
      exact hQ

end Traced.AnswersIff

/-- To go on with a yes or a no as they are is to leave a test as it is, with its events. -/
theorem Traced.ite_pure_eq (x : Traced Bool) :
    (do if ← x then pure true else pure false : Traced Bool) = x := by
  have hnext : (fun b : Bool => if b = true then (pure true : Traced Bool) else pure false) =
      pure := by
    ext b : 1
    cases b <;> rfl
  show (x >>= fun b : Bool => if b = true then pure true else pure false) = x
  rw [hnext, bind_pure]

namespace Formula

variable {α : Type} {test : α → Traced Bool}

theorem evaluateAll_singleton (p : Formula α) : evaluateAll test [p] = p.evaluate test := by
  rw [evaluateAll, evaluateAll]
  exact Traced.ite_pure_eq _

theorem evaluateAny_singleton (p : Formula α) : evaluateAny test [p] = p.evaluate test := by
  rw [evaluateAny, evaluateAny]
  exact Traced.ite_pure_eq _

end Formula

/-! ## Control -/

namespace Graph

/-- A node controls another, or a node that its data reaches does. -/
def Governs (g : Graph) (a b : Node) : Prop :=
  ∃ n, (n = a ∨ g.Reaches .data a n) ∧ g.Reaches .control n b

/-- Two nodes are related as a kind of edge relates them. -/
def Relates (g : Graph) : EdgeKind → Node → Node → Prop
  | .data => g.Reaches .data
  | .control => g.Governs

/-- Some node with a marker sees the data of a source, and governs a node. -/
def Authorizes (g : Graph) (m : Marker) (s n : Node) : Prop :=
  ∃ c, g.Marked m c ∧ g.Reaches .data s c ∧ g.Governs c n

variable {g : Graph} {a b : Node}

theorem controls_iff : g.controls a b = true ↔ g.Governs a b := by
  unfold controls Governs
  rw [decide_eq_true_eq, mem_reachedFrom]
  simp only [List.mem_cons, mem_reached]

theorem relates_iff {k : EdgeKind} : g.relates k a b = true ↔ g.Relates k a b := by
  cases k with
  | data => exact flowsTo_iff_reaches
  | control => exact controls_iff

theorem authorizes_iff {m : Marker} :
    g.authorizes (g.marked m) a b = true ↔ g.Authorizes m a b := by
  unfold authorizes Authorizes
  simp only [List.any_eq_true, NodeSet.mem_nodes, mem_marked, Bool.and_eq_true, decide_eq_true_eq,
    mem_reached, controls_iff]

end Graph

/-! ## Atoms -/

namespace PairAtom

variable {g : Graph} {s d : Node} {subject target : Endpoint}

theorem test_influence (hsubject : subject.Selects) (htarget : target.Selects) (k : EdgeKind) :
    (PairAtom.test g s d (.influence subject target k)).AnswersIff
      (subject.Asserts g s d fun a => target.Asserts g s d fun b => g.Relates k a b) :=
  relateEnds_result hsubject htarget fun _ _ => Graph.relates_iff

theorem test_authorized (m : Marker) (side : Side) (label : String) :
    (PairAtom.test g s d (.authorized m side label)).AnswersIff
      (g.Authorizes m s (side.node s d)) := by
  refine ⟨_, ?_, Graph.authorizes_iff⟩
  rw [test, Traced.result_bind, Graph.resolve_empty_result]
  rfl

end PairAtom

/-! ## Influence and authorization -/

/-- An influence holds of a matched pair exactly if, with the subject's quantifier outside and the
target's inside, a walk of data leads from end to end, or a walk of control does from an end or from
a node that its data reaches. An authorization of a bound end holds exactly if a node with the
marker sees the data of the source and has such a control of that end. -/
theorem holdsOfPair_influence_authorized (g : Graph) (s d : Node) :
    (∀ subject target : Endpoint, subject.Selects → target.Selects →
      (∃ f, Obligation.influence subject target .data = .pair f ∧
        (f.holdsOfPair g s d).AnswersIff
          (subject.Asserts g s d fun a => target.Asserts g s d fun b => g.Reaches .data a b)) ∧
      ∃ f, Obligation.influence subject target .control = .pair f ∧
        (f.holdsOfPair g s d).AnswersIff
          (subject.Asserts g s d fun a => target.Asserts g s d fun b =>
            ∃ n, (n = a ∨ g.Reaches .data a n) ∧ g.Reaches .control n b)) ∧
    ∀ (m : Marker) (target : Endpoint) (side : Side), target.role = .bound side →
      ∃ f, Obligation.authorizedBy m target = .ok (.pair f) ∧
        (f.holdsOfPair g s d).AnswersIff
          (∃ c, g.Marked m c ∧ g.Reaches .data s c ∧
            ∃ n, (n = c ∨ g.Reaches .data c n) ∧ g.Reaches .control n (side.node s d)) := by
  refine ⟨fun subject target hsubject htarget => ⟨?_, ?_⟩, fun m target side hside => ?_⟩
  · exact ⟨_, rfl, PairAtom.test_influence hsubject htarget .data⟩
  · exact ⟨_, rfl, PairAtom.test_influence hsubject htarget .control⟩
  · refine ⟨.atom (.authorized m side target.label), ?_,
      PairAtom.test_authorized m side target.label⟩
    unfold Obligation.authorizedBy
    rw [hside]

/-- A node that checks the data of another and controls a third, to which no data flows. -/
def checkMarker : Marker := ⟨"check", by decide⟩

def checkedGraph : Graph where
  controllers := [("main", [.int 0, .int 1, .int 2])]
  labels := [(.int 1, [checkMarker])]
  edges := [⟨.int 0, .int 1, .data⟩, ⟨.int 1, .int 1, .data⟩, ⟨.int 1, .int 2, .control⟩]
  declared := [checkMarker]

/-- The source as an end with a quantifier, which counts for nothing. -/
def everySource : Endpoint := { Endpoint.source with quantifier := .all }

theorem checkedGraph_influence_authorized :
    everySource.Selects ∧ (Endpoint.marked checkMarker .all).Selects ∧
      Endpoint.destination.Selects ∧ Endpoint.destination.role = .bound .destination ∧
      (∀ n, checkedGraph.Marked checkMarker n → checkedGraph.Reaches .data (.int 0) n) ∧
      ¬checkedGraph.Reaches .data (.int 0) (.int 2) ∧
      (∃ n, (n = .int 0 ∨ checkedGraph.Reaches .data (.int 0) n) ∧
        checkedGraph.Reaches .control n (.int 2)) ∧
      ∃ c, checkedGraph.Marked checkMarker c ∧ checkedGraph.Reaches .data (.int 0) c ∧
        ∃ n, (n = c ∨ checkedGraph.Reaches .data c n) ∧
          checkedGraph.Reaches .control n (.int 2) := by
  have hsource : everySource.Selects := fun h => nomatch h
  have hmarked : (Endpoint.marked checkMarker .all).Selects := fun _ => rfl
  have hdestination : Endpoint.destination.Selects := fun h => nomatch h
  have hall := holdsOfPair_influence_authorized checkedGraph (.int 0) (.int 2)
  -- on this graph the searches are run to their end
  obtain ⟨f, hf, hseen⟩ := (hall.1 everySource (.marked checkMarker .all) hsource hmarked).1
  obtain rfl := Obligation.pair.inj hf
  obtain ⟨hdata, hcontrol⟩ := hall.1 everySource .destination hsource hdestination
  obtain ⟨f, hf, hflow⟩ := hdata
  obtain rfl := Obligation.pair.inj hf
  obtain ⟨f, hf, hgoverned⟩ := hcontrol
  obtain rfl := Obligation.pair.inj hf
  obtain ⟨f, hf, hauthorized⟩ := hall.2 checkMarker .destination .destination rfl
  obtain rfl := Obligation.pair.inj (Except.ok.inj hf)
  refine ⟨hsource, hmarked, hdestination, rfl, hseen.iff.1 rfl, fun h => ?_, hgoverned.iff.1 rfl,
    hauthorized.iff.1 rfl⟩
  have hyes := hflow.iff.2 h
  have hno : (Formula.holdsOfPair checkedGraph (.atom (.influence everySource .destination .data))
      (.int 0) (.int 2)).result = .ok false := rfl
  rw [hno] at hyes
  exact Bool.false_ne_true (Except.ok.inj hyes)

end InfoFlow
