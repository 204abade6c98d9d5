import InfoFlow.Proofs.Evaluation.Recording
import InfoFlow.Proofs.Graph.Reachability
import InfoFlow.Proofs.Node.Quoted
/-!
# What a verdict means

Each part of an evaluation looks at sets of nodes, and what it looks for can be said in walks: the
matched destinations of a source are those that it matches, and a plan compares them with all
destinations. A verdict passes exactly if the statement asserts something true of the graph.
-/

namespace InfoFlow.Statement

variable {s : Statement} {g : Graph} {a b : Node}

/-! ## Matched destinations -/

theorem mem_premise : b ∈ s.premise g a (g.marked s.destination) ↔ s.Matches g a b := by
  unfold premise Matches
  rw [NodeSet.mem_filter, Graph.mem_influencees, decide_eq_true_eq, Graph.mem_marked]
  exact and_comm

/-- A set of nodes that has the matched destinations in it and nothing else is the premise. -/
theorem premise_eq {p : NodeSet} (hp : ∀ b, b ∈ p ↔ s.Matches g a b) :
    s.premise g a (g.marked s.destination) = p := by
  apply NodeSet.ext
  intro b
  rw [mem_premise, hp]

/-- What a condition on the matched destinations says of a source. -/
def Admits (s : Statement) (g : Graph) (gate : Gate) (a : Node) : Prop :=
  match gate with
  | .any => True
  | .nonEmpty => s.MatchesSome g a
  | .whole => s.MatchesAll g a

theorem nonEmpty_iff {p : NodeSet} : (!p.isEmpty) = true ↔ ∃ n, n ∈ p := by
  rw [Bool.not_eq_true', NodeSet.isEmpty, List.isEmpty_eq_false_iff_exists_mem]
  rfl

theorem passes_iff (gate : Gate) :
    gate.passes (s.premise g a (g.marked s.destination)) (g.marked s.destination) = true ↔
      s.Admits g gate a := by
  cases gate with
  | any => exact iff_of_true rfl trivial
  | nonEmpty =>
    rw [Gate.passes, nonEmpty_iff]
    exact exists_congr fun b => mem_premise
  | whole =>
    rw [Gate.passes, NodeSet.same_iff]
    apply forall_congr'
    intro b
    rw [mem_premise, Graph.mem_marked]
    -- a match is a destination in any case, so only the other direction says something
    exact ⟨fun h hb => (h.2 hb).2, fun h => ⟨fun m => m.1, fun hb => ⟨hb, h hb⟩⟩⟩

/-! ## Failures of the obligation -/

theorem failures_eq_nil_iff
    (hanswers : s.AnswersFor g a (s.premise g a (g.marked s.destination))) :
    s.failures g a (s.premise g a (g.marked s.destination)) = [] ↔ s.Meets g a := by
  unfold failures Meets
  unfold AnswersFor at hanswers
  cases ho : s.obligation with
  | pair f =>
    rw [ho] at hanswers
    simp only [List.map_eq_nil_iff, List.filter_eq_nil_iff, Bool.not_eq_true]
    apply forall_congr'
    intro b
    rw [NodeSet.mem_nodes, ← mem_premise]
    apply forall_congr'
    intro hb
    rw [(hanswers b hb).isNo_eq_false_iff]
  | set f =>
    rw [ho] at hanswers
    simp only [ite_eq_right_iff, List.cons_ne_self, imp_false, Bool.not_eq_true]
    rw [hanswers.isNo_eq_false_iff]
    constructor
    · exact fun h => ⟨_, fun b => mem_premise, h⟩
    · rintro ⟨p, hp, h⟩
      rw [premise_eq hp]
      exact h

theorem unmets_eq_nil_iff
    (hanswers : s.AnswersAll g (g.marked s.destination) (g.marked s.source).nodes) :
    s.unmets g (g.marked s.destination) (g.marked s.source).nodes = [] ↔
      ∀ a, g.Marked s.source a → s.Admits g s.plan.trigger a → s.Meets g a := by
  unfold unmets
  simp only [List.flatMap_eq_nil_iff, List.mem_filter, and_imp]
  apply forall_congr'
  intro a
  rw [← passes_iff, ← Graph.mem_marked, ← NodeSet.mem_nodes]
  exact forall_congr' fun ha => forall_congr' fun htrigger =>
    failures_eq_nil_iff (hanswers a ha htrigger)

/-! ## Failures of the condition on every source -/

/-- What the condition on every source says of one. -/
def Enters (s : Statement) (g : Graph) (a : Node) : Prop :=
  match s.plan.entry with
  | none => True
  | some (gate, _) => s.Admits g gate a

theorem noFlows_eq_nil_iff :
    s.noFlows g true (g.marked s.destination) (g.marked s.source).nodes = [] ↔
      ∀ a, g.Marked s.source a → s.Enters g a := by
  unfold noFlows Enters
  cases s.plan.entry with
  | none => simp
  | some entry =>
    simp only [missing, if_true, List.map_eq_nil_iff, List.filter_eq_nil_iff, NodeSet.mem_nodes,
      Graph.mem_marked, Bool.not_eq_true', Bool.not_eq_false, passes_iff]

theorem found_eq_nil_iff :
    s.found g = [] ↔
      s.noFlows g true (g.marked s.destination) (g.marked s.source).nodes = [] ∧
        s.unmets g (g.marked s.destination) (g.marked s.source).nodes = [] := by
  unfold found
  cases s.noFlows g true (g.marked s.destination) (g.marked s.source).nodes with
  | nil => simp only [true_and]
  | cons v vs => simp

/-! ## Verdicts -/

theorem assertsOf_iff :
    s.AssertsOf g a ↔ s.Enters g a ∧ (s.Admits g s.plan.trigger a → s.Meets g a) := by
  unfold AssertsOf Enters plan
  -- the four plans, one for each pair of quantifiers
  cases s.sourceQuantifier <;> cases s.destinationQuantifier <;>
    simp [Plan.entry_select, Plan.trigger_select, Admits]

/-- A statement whose obligation has an answer wherever it is asked has no failures exactly if it
holds. -/
theorem found_eq_nil_iff_of_answered (hanswered : s.Answered g) :
    s.found g = [] ↔ s.Asserts g := by
  rw [found_eq_nil_iff, noFlows_eq_nil_iff]
  unfold Asserts
  simp only [assertsOf_iff]
  constructor
  · rintro ⟨henter, hunmets⟩ a ha
    have hanswers := hanswered (noFlows_eq_nil_iff.2 henter)
    exact ⟨henter a ha, (unmets_eq_nil_iff hanswers).1 hunmets a ha⟩
  · intro h
    have henter (a : Node) (ha : g.Marked s.source a) := (h a ha).1
    have hanswers := hanswered (noFlows_eq_nil_iff.2 henter)
    exact ⟨henter, (unmets_eq_nil_iff hanswers).2 fun a ha => (h a ha).2⟩

theorem found_eq_nil_iff_asserts (hpure : s.obligation.Answers g) :
    s.found g = [] ↔ s.Asserts g := found_eq_nil_iff_of_answered (answered_of_answers hpure)

/-- In both modes the verdict passes exactly if the statement holds, whatever the graph: no marker
may be unknown, and the obligation has to be pure. -/
theorem evaluate_passed_iff_asserts (s : Statement) (g : Graph) (exhaustive : Bool)
    (unknown : UnknownMarkers) (hpure : s.obligation.Answers g)
    (hknown : ∀ m, (s.evaluate g exhaustive unknown).result ≠ .error (.unknownMarker m)) :
    ∃ v, (s.evaluate g exhaustive unknown).result = .ok v ∧
      (v.passed = true ↔ s.Asserts g) := by
  refine ⟨_, evaluate_ok hpure hknown, ?_⟩
  unfold Verdict.passed
  rw [List.isEmpty_iff, recorded_eq_nil_iff]
  exact found_eq_nil_iff_asserts hpure

/-- Two peers feed each other; a third node carries the marker but belongs to no controller. -/
def peer : Marker := ⟨"peer", by decide⟩

def ringGraph : Graph where
  controllers := [("left", [.int 0, .int 1]), ("right", [.int 1, .int 3])]
  labels := [(.int 0, [peer]), (.int 1, [peer]), (.int 2, [peer])]
  edges := [⟨.int 0, .int 1, .data⟩, ⟨.int 1, .int 0, .data⟩, ⟨.int 1, .int 2, .data⟩]
  declared := [peer]

/-- Every peer feeds exactly the peers, itself included. -/
def ringStatement : Statement where
  name := "ring"
  source := peer
  destination := peer
  kind := .data
  sourceQuantifier := .all
  destinationQuantifier := .all
  obligation := .premiseEquals peer
  name_ne_blank := by decide
  all_of_set := fun _ => rfl

theorem ringStatement_asserts :
    ringStatement.obligation.Answers ringGraph ∧
      (∀ m, (ringStatement.evaluate ringGraph false .error).result ≠ .error (.unknownMarker m)) ∧
      ringStatement.Asserts ringGraph := by
  have hpure : ringStatement.obligation.Answers ringGraph := fun _ _ => ⟨_, rfl⟩
  have hrun : (ringStatement.evaluate ringGraph false .error).result = .ok ⟨"ring", []⟩ := rfl
  have hknown (m : Marker) :
      (ringStatement.evaluate ringGraph false .error).result ≠ .error (.unknownMarker m) := by
    rw [hrun]
    nofun
  refine ⟨hpure, hknown, ?_⟩
  obtain ⟨v, hv, hiff⟩ :=
    evaluate_passed_iff_asserts ringStatement ringGraph false .error hpure hknown
  rw [hrun] at hv
  obtain rfl := Except.ok.inj hv
  exact hiff.1 rfl

end InfoFlow.Statement
