import InfoFlow.Proofs.Evaluation.Meaning
/-!
# Which violations are reported

An exhaustive evaluation reports each violation once, in the order of the sources and then of the
destinations, and never both kinds of failure together. Any other evaluation reports the first of
them.
-/

namespace InfoFlow

/-! ## The order of violations -/

/-- The source comes first in the order of the quoted forms, or, for one source, the destination
does. -/
def Violation.Precedes (v w : Violation) : Prop :=
  v.source.quoted < w.source.quoted ∨
    v.source = w.source ∧ ∃ b c, v.destination = some b ∧ w.destination = some c ∧
      b.quoted < c.quoted

namespace Statement

variable {s : Statement} {g : Graph} {a b : Node} {v : Violation}

/-! ## What is reported -/

/-- A source misses what the statement asks of every source. -/
def Misses (s : Statement) (g : Graph) (a : Node) : Prop :=
  match s.sourceQuantifier, s.destinationQuantifier with
  | .some, _ => False
  | .all, .some => ¬s.MatchesSome g a
  | .all, .all => ¬s.MatchesAll g a

/-- What is said of a source that misses it. -/
def missReason (s : Statement) : String :=
  match s.destinationQuantifier with
  | .some => "reaches no destination"
  | .all => "does not reach every destination"

/-- The obligation of a source is asked for. -/
def Triggers (s : Statement) (g : Graph) (a : Node) : Prop :=
  match s.sourceQuantifier, s.destinationQuantifier with
  | .some, .all => s.MatchesAll g a
  | _, _ => True

/-- A violation of the obligation by a source, and by one of its matched destinations if the
obligation is about pairs. -/
def Violates (s : Statement) (g : Graph) (a : Node) (v : Violation) : Prop :=
  match s.obligation with
  | .pair f => ∃ b, s.Matches g a b ∧ (f.holdsOfPair g a b).result = .ok false ∧
      v = { kind := .obligationUnmet, source := a, destination := some b
            detail := "obligation " ++ Text.quoted s.obligation.label ++ " unmet" }
  | .set f => ∃ p : NodeSet, (∀ b, b ∈ p ↔ s.Matches g a b) ∧
      (f.holdsOfSet g a p).result = .ok false ∧
      v = { kind := .obligationUnmet, source := a, destination := none
            detail := "obligation " ++ Text.quoted s.obligation.label ++ " unmet" }

/-- The violations that are reported: a missing flow for every source that misses it, or, if none
does, the violations of the obligation by the sources that trigger it. -/
def Reports (s : Statement) (g : Graph) (v : Violation) : Prop :=
  (∃ a, g.Marked s.source a ∧ s.Misses g a ∧
    v = { kind := .noFlow, source := a, destination := none
          detail := s.missReason ++ " marked " ++ s.destination.text }) ∨
    (∀ a, g.Marked s.source a → ¬s.Misses g a) ∧
      ∃ a, g.Marked s.source a ∧ s.Triggers g a ∧ s.Violates g a v

/-! ## Every violation is reported -/

theorem unmet_eq (s : Statement) (a : Node) (d : Option Node) :
    s.unmet a d = { kind := .obligationUnmet, source := a, destination := d
                    detail := "obligation " ++ Text.quoted s.obligation.label ++ " unmet" } := rfl

theorem noFlow_eq (s : Statement) (a : Node) :
    s.noFlow s.missReason a = { kind := .noFlow, source := a, destination := none
                                detail := s.missReason ++ " marked " ++ s.destination.text } := rfl

theorem misses_iff : s.Misses g a ↔ ¬s.Enters g a := by
  unfold Misses Enters plan
  cases s.sourceQuantifier <;> cases s.destinationQuantifier <;> simp [Plan.entry_select, Admits]

theorem triggers_iff : s.Triggers g a ↔ s.Admits g s.plan.trigger a := by
  unfold Triggers plan
  cases s.sourceQuantifier <;> cases s.destinationQuantifier <;> exact Iff.rfl

/-- The reason that a plan gives is that of the destination quantifier. -/
theorem reason_of_entry {gate : Gate} {reason : String} (h : s.plan.entry = some (gate, reason)) :
    reason = s.missReason := by
  unfold plan at h
  unfold missReason
  cases hsource : s.sourceQuantifier <;> cases hdestination : s.destinationQuantifier <;>
    rw [hsource, hdestination] at h <;> simp_all [Plan.entry_select]

theorem mem_noFlows :
    v ∈ s.noFlows g true (g.marked s.destination) (g.marked s.source).nodes ↔
      ∃ a, g.Marked s.source a ∧ s.Misses g a ∧
        v = { kind := .noFlow, source := a, destination := none
              detail := s.missReason ++ " marked " ++ s.destination.text } := by
  simp only [← noFlow_eq, misses_iff]
  unfold noFlows Enters
  cases hentry : s.plan.entry with
  | none => simp
  | some entry =>
    obtain ⟨gate, reason⟩ := entry
    obtain rfl := reason_of_entry hentry
    simp only [missing, if_true, List.mem_map, List.mem_filter, NodeSet.mem_nodes,
      Graph.mem_marked, Bool.not_eq_true', Bool.eq_false_iff, ne_eq, passes_iff, and_assoc,
      eq_comm (a := v)]

theorem mem_failures :
    v ∈ s.failures g a (s.premise g a (g.marked s.destination)) ↔ s.Violates g a v := by
  unfold failures Violates
  simp only [← unmet_eq]
  cases s.obligation with
  | pair f =>
    simp only [List.mem_map, List.mem_filter, NodeSet.mem_nodes, mem_premise, Traced.isNo_iff,
      and_assoc, eq_comm (a := v)]
  | set f =>
    simp only [List.mem_ite_nil_right, List.mem_singleton, Traced.isNo_iff]
    constructor
    · rintro ⟨hno, hv⟩
      exact ⟨_, fun b => mem_premise, hno, hv⟩
    · rintro ⟨p, hp, hno, hv⟩
      rw [premise_eq hp]
      exact ⟨hno, hv⟩

theorem mem_unmets :
    v ∈ s.unmets g (g.marked s.destination) (g.marked s.source).nodes ↔
      ∃ a, g.Marked s.source a ∧ s.Triggers g a ∧ s.Violates g a v := by
  unfold unmets
  simp only [List.mem_flatMap, List.mem_filter, NodeSet.mem_nodes, Graph.mem_marked, passes_iff,
    mem_failures, triggers_iff, and_assoc]

theorem mem_found : v ∈ s.found g ↔ s.Reports g v := by
  have hnone := noFlows_eq_nil_iff (s := s) (g := g)
  have hsome := mem_noFlows (s := s) (g := g) (v := v)
  unfold found Reports
  -- what a source misses is asked for before any obligation, and rules out the other kind
  rw [← hsome, ← mem_unmets]
  simp only [misses_iff, not_not, ← hnone]
  cases s.noFlows g true (g.marked s.destination) (g.marked s.source).nodes with
  | nil => simp
  | cons w ws => simp

/-! ## Once each, and in order -/

theorem source_of_mem_failures {p : NodeSet} (h : v ∈ s.failures g a p) : v.source = a := by
  unfold failures at h
  cases ho : s.obligation with
  | pair f =>
    rw [ho] at h
    obtain ⟨b, -, rfl⟩ := List.mem_map.1 h
    rfl
  | set f =>
    rw [ho] at h
    simp only [List.mem_ite_nil_right, List.mem_singleton] at h
    rw [h.2]
    rfl

theorem pairwise_failures (s : Statement) (g : Graph) (a : Node) (p : NodeSet) :
    (s.failures g a p).Pairwise Violation.Precedes := by
  unfold failures
  cases s.obligation with
  | pair f =>
    apply List.Pairwise.map _ _ (List.Pairwise.filter _ p.pairwise_lt)
    exact fun b c hlt => .inr ⟨rfl, b, c, rfl, rfl, hlt⟩
  | set f =>
    by_cases h : (f.holdsOfSet g a p).isNo = true
    · simp only [if_pos h, List.pairwise_singleton]
    · simp only [if_neg h, List.Pairwise.nil]

/-- What some nodes give rise to is in order if it is so for each of them and comes in the order of
the nodes. -/
theorem pairwise_flatMap_of_source {α : Type} {r : α → α → Prop} {source : α → Node}
    {f : Node → List α} {nodes : List Node}
    (hnodes : nodes.Pairwise fun a b => a.quoted < b.quoted) (hf : ∀ a, (f a).Pairwise r)
    (hsource : ∀ a, ∀ x ∈ f a, source x = a)
    (hr : ∀ x y, (source x).quoted < (source y).quoted → r x y) :
    (nodes.flatMap f).Pairwise r := by
  rw [List.pairwise_flatMap]
  refine ⟨fun a _ => hf a, hnodes.imp ?_⟩
  intro a b hlt x hx y hy
  apply hr
  rw [hsource a x hx, hsource b y hy]
  exact hlt

theorem pairwise_unmets (s : Statement) (g : Graph) (destinations sources : NodeSet) :
    (s.unmets g destinations sources.nodes).Pairwise Violation.Precedes :=
  pairwise_flatMap_of_source (List.Pairwise.filter _ sources.pairwise_lt)
    (fun a => s.pairwise_failures g a _) (fun _ _ => source_of_mem_failures) fun _ _ => .inl

theorem pairwise_noFlows (s : Statement) (g : Graph) (destinations sources : NodeSet) :
    (s.noFlows g true destinations sources.nodes).Pairwise Violation.Precedes := by
  unfold noFlows
  cases s.plan.entry with
  | none => exact .nil
  | some entry =>
    apply List.Pairwise.map _ _ (List.Pairwise.filter _ sources.pairwise_lt)
    exact fun a b hlt => .inl hlt

theorem pairwise_found (s : Statement) (g : Graph) :
    (s.found g).Pairwise Violation.Precedes := by
  have hfirst := s.pairwise_noFlows g (g.marked s.destination) (g.marked s.source)
  unfold found
  cases hvs : s.noFlows g true (g.marked s.destination) (g.marked s.source).nodes with
  | nil => exact s.pairwise_unmets g _ _
  | cons v vs =>
    rw [hvs] at hfirst
    exact hfirst

/-- An exhaustive evaluation reports exactly the violations there are to report, each once and in
order; any other evaluation reports the first of them. -/
theorem evaluate_violations (s : Statement) (g : Graph) (unknown : UnknownMarkers)
    (hpure : s.obligation.Answers g)
    (hknown : ∀ m, (s.evaluate g true unknown).result ≠ .error (.unknownMarker m)) :
    ∃ vs, (s.evaluate g true unknown).result = .ok ⟨s.name, vs⟩ ∧
      (s.evaluate g false unknown).result = .ok ⟨s.name, vs.take 1⟩ ∧
      (∀ v, v ∈ vs ↔ s.Reports g v) ∧
      vs.Pairwise Violation.Precedes :=
  ⟨s.found g, evaluate_ok hpure hknown, evaluate_ok hpure hknown, fun _ => mem_found,
    s.pairwise_found g⟩

/-- Peers that are fed control those that feed them, which none of the ring does. -/
def controlStatement : Statement where
  name := "control"
  source := peer
  destination := peer
  kind := .data
  sourceQuantifier := .all
  destinationQuantifier := .some
  obligation := .influence .destination .source .control
  name_ne_blank := by decide
  all_of_set := nofun

theorem controlStatement_violations :
    controlStatement.obligation.Answers ringGraph ∧
      (∀ m, (controlStatement.evaluate ringGraph true .error).result ≠
        .error (.unknownMarker m)) ∧
      ∃ vs, (controlStatement.evaluate ringGraph true .error).result = .ok ⟨"control", vs⟩ ∧
        vs.length = 4 ∧ (∀ v, v ∈ vs ↔ controlStatement.Reports ringGraph v) ∧
        vs.Pairwise Violation.Precedes := by
  have hpure : controlStatement.obligation.Answers ringGraph := fun _ _ => ⟨_, rfl⟩
  let pair (a b : Int) : Violation := controlStatement.unmet (.int a) (some (.int b))
  have hrun : (controlStatement.evaluate ringGraph true .error).result =
      .ok ⟨"control", [pair 0 0, pair 0 1, pair 1 0, pair 1 1]⟩ := rfl
  have hknown (m : Marker) : (controlStatement.evaluate ringGraph true .error).result ≠
      .error (.unknownMarker m) := by
    rw [hrun]
    nofun
  refine ⟨hpure, hknown, ?_⟩
  obtain ⟨vs, hvs, -, hmem, hpairwise⟩ :=
    evaluate_violations controlStatement ringGraph .error hpure hknown
  refine ⟨vs, hvs, ?_, hmem, hpairwise⟩
  rw [hrun] at hvs
  obtain ⟨-, rfl⟩ := Verdict.mk.inj (Except.ok.inj hvs)
  rfl

end Statement

end InfoFlow
