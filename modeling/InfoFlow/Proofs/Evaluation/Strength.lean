import InfoFlow.Proofs.Evaluation.Modes
import InfoFlow.Proofs.Evaluation.Unknown
/-!
# Stronger and weaker quantifiers

A statement about pairs can be read with any two quantifiers. The plans that they select look at the
same matched destinations and differ in what they demand of a source and when they ask about it, so
that a verdict with one pair of quantifiers says something about the verdicts with others. Where
there is no destination, to reach all of them is less than to reach some.
-/

namespace InfoFlow.Statement

variable {s : Statement} {g : Graph} {exhaustive : Bool} {unknown : UnknownMarkers}

/-! ## Evaluations that pass and evaluations that fail -/

def Passes (s : Statement) (g : Graph) (exhaustive : Bool) (unknown : UnknownMarkers) : Prop :=
  ∃ v, (s.evaluate g exhaustive unknown).result = .ok v ∧ v.passed = true

def Fails (s : Statement) (g : Graph) (exhaustive : Bool) (unknown : UnknownMarkers) : Prop :=
  ∃ v, (s.evaluate g exhaustive unknown).result = .ok v ∧ v.passed = false

theorem answersFor_of_meets {a : Node} (hmeets : s.Meets g a) :
    s.AnswersFor g a (s.premise g a (g.marked s.destination)) := by
  unfold Meets at hmeets
  unfold AnswersFor
  cases ho : s.obligation with
  | pair f =>
    rw [ho] at hmeets
    exact fun b hb => ⟨true, hmeets b (mem_premise.1 hb)⟩
  | set f =>
    rw [ho] at hmeets
    obtain ⟨p, hp, hyes⟩ := hmeets
    rw [premise_eq hp]
    exact ⟨true, hyes⟩

/-- If a statement holds, its obligation has an answer wherever it is asked: a yes. -/
theorem answered_of_asserts (h : s.Asserts g) : s.Answered g := by
  intro _ a ha htrigger
  rw [NodeSet.mem_nodes, Graph.mem_marked] at ha
  exact answersFor_of_meets ((assertsOf_iff.1 (h a ha)).2 ((passes_iff _).1 htrigger))

theorem result_of_answered (hknown : firstUnknown g unknown s.lookups = none)
    (hanswered : s.Answered g) :
    (s.evaluate g exhaustive unknown).result = .ok ⟨s.name, recorded exhaustive (s.found g)⟩ := by
  rw [evaluate_result, hknown]
  exact judge_result hanswered

/-- An evaluation passes exactly if no marker is unknown and the statement holds, and this needs
nothing of the obligation: where the statement holds, no fault can come of it. -/
theorem passes_iff_asserts :
    s.Passes g exhaustive unknown ↔
      firstUnknown g unknown s.lookups = none ∧ s.Asserts g := by
  constructor
  · rintro ⟨v, hv, hpassed⟩
    obtain ⟨hknown, hanswered⟩ := evaluate_answered hv (.inr hpassed)
    obtain rfl := Except.ok.inj (hv.symm.trans (result_of_answered hknown hanswered))
    have hnone := recorded_eq_nil_iff.1 (List.isEmpty_iff.1 hpassed)
    exact ⟨hknown, (found_eq_nil_iff_of_answered hanswered).1 hnone⟩
  · rintro ⟨hknown, h⟩
    have hanswered := answered_of_asserts h
    refine ⟨_, result_of_answered hknown hanswered, ?_⟩
    rw [Verdict.passed, List.isEmpty_iff, recorded_eq_nil_iff]
    exact (found_eq_nil_iff_of_answered hanswered).2 h

theorem fails_of_answered (hknown : firstUnknown g unknown s.lookups = none)
    (hanswered : s.Answered g) (h : ¬s.Asserts g) : s.Fails g exhaustive unknown := by
  refine ⟨_, result_of_answered hknown hanswered, ?_⟩
  rw [Verdict.passed, List.isEmpty_eq_false_iff, ne_eq, recorded_eq_nil_iff,
    found_eq_nil_iff_of_answered hanswered]
  exact h

theorem known_of_answers (h : (s.evaluate g exhaustive unknown).Answers) :
    firstUnknown g unknown s.lookups = none := by
  obtain ⟨v, hv⟩ := h
  rw [evaluate_result] at hv
  cases hfirst : firstUnknown g unknown s.lookups with
  | none => rfl
  | some m =>
    rw [hfirst] at hv
    exact nomatch hv

/-! ## The same statement with other quantifiers -/

/-- A statement about pairs, read with two quantifiers. -/
def quantified (s : Statement) (hpair : s.obligation.shape = .pair) (q r : Quantifier) :
    Statement :=
  { s with
    sourceQuantifier := q
    destinationQuantifier := r
    all_of_set := fun hset => nomatch hpair.symm.trans hset }

/-- There are sources, but no destination. -/
def LacksDestinations (s : Statement) (g : Graph) : Prop :=
  (∃ a, g.Marked s.source a) ∧ ∀ b, ¬g.Marked s.destination b

variable {hpair : s.obligation.shape = .pair} {q r q' r' : Quantifier}

-- Neither the look-ups nor what a source matches and meets depend on the quantifiers, so what the
-- statement asserts with two of them is, by definition, said by what the given one matches.

theorem Passes.weaken (h : (s.quantified hpair q r).Passes g exhaustive unknown)
    (hweaker : ∀ a, g.Marked s.source a → (s.quantified hpair q r).AssertsOf g a →
      (s.quantified hpair q' r').AssertsOf g a) :
    (s.quantified hpair q' r').Passes g exhaustive unknown := by
  obtain ⟨hknown, hasserts⟩ := passes_iff_asserts.1 h
  have hstill : (s.quantified hpair q' r').Asserts g := fun a ha => hweaker a ha (hasserts a ha)
  exact passes_iff_asserts.2 ⟨hknown, hstill⟩

theorem matchesSome_of_matchesAll {a : Node} (h : s.MatchesAll g a) {b : Node}
    (hb : g.Marked s.destination b) : s.MatchesSome g a := ⟨b, hb, h b hb⟩

namespace LacksDestinations

variable (hlacks : s.LacksDestinations g)
include hlacks

theorem not_matches (a b : Node) : ¬s.Matches g a b := fun h => hlacks.2 b h.1

theorem meets {a : Node} (hpair : s.obligation.shape = .pair) : s.Meets g a := by
  unfold Meets
  cases ho : s.obligation with
  | pair f => exact fun b hb => absurd hb (hlacks.not_matches a b)
  | set f =>
    rw [ho] at hpair
    exact nomatch hpair

theorem passes_all_all (hknown : firstUnknown g unknown s.lookups = none) :
    (s.quantified hpair .all .all).Passes g exhaustive unknown := by
  have hasserts : (s.quantified hpair .all .all).Asserts g := fun a _ =>
    ⟨fun b hb => absurd hb (hlacks.2 b), hlacks.meets hpair⟩
  exact passes_iff_asserts.2 ⟨hknown, hasserts⟩

theorem fails_all_some (hknown : firstUnknown g unknown s.lookups = none) :
    (s.quantified hpair .all .some).Fails g exhaustive unknown := by
  -- nothing is matched, so there is nothing to ask of the obligation
  have hanswered : (s.quantified hpair .all .some).Answered g := fun _ a _ _ =>
    answersFor_of_meets (s := s.quantified hpair .all .some) (hlacks.meets hpair)
  apply fails_of_answered (s := s.quantified hpair .all .some) hknown hanswered
  intro h
  obtain ⟨a, ha⟩ := hlacks.1
  obtain ⟨⟨b, hb⟩, -⟩ : s.MatchesSome g a ∧ s.Meets g a := h a ha
  exact hlacks.not_matches a b hb

end LacksDestinations

/-- The quantifiers of a statement about pairs are ordered by strength, except that with sources and
no destination all sources reach all destinations and none reaches some. An evaluation that passes
carries over without any condition; the exception needs that no marker is unknown, which it is if an
evaluation with some quantifiers goes through. -/
theorem quantified_ordered (s : Statement) (hpair : s.obligation.shape = .pair) (g : Graph)
    (exhaustive : Bool) (unknown : UnknownMarkers) :
    ((s.quantified hpair .all .all).Passes g exhaustive unknown →
      (s.quantified hpair .some .some).Passes g exhaustive unknown) ∧
    ((s.quantified hpair .all .some).Passes g exhaustive unknown →
      (s.quantified hpair .some .some).Passes g exhaustive unknown) ∧
    ((s.quantified hpair .some .some).Passes g exhaustive unknown →
      (s.quantified hpair .some .all).Passes g exhaustive unknown) ∧
    ((s.quantified hpair .all .all).Passes g exhaustive unknown →
      (s.quantified hpair .all .some).Passes g exhaustive unknown ∨ s.LacksDestinations g) ∧
    (∀ q r, ((s.quantified hpair q r).evaluate g exhaustive unknown).Answers →
      s.LacksDestinations g →
        (s.quantified hpair .all .all).Passes g exhaustive unknown ∧
        (s.quantified hpair .all .some).Fails g exhaustive unknown) := by
  refine ⟨?_, ?_, ?_, ?_, ?_⟩
  · exact fun h => h.weaken fun a _ (hall : s.MatchesAll g a ∧ s.Meets g a) => hall.2
  · exact fun h => h.weaken fun a _ (hsome : s.MatchesSome g a ∧ s.Meets g a) => hsome.2
  · exact fun h => h.weaken fun a _ (hmeets : s.Meets g a) (_ : s.MatchesAll g a) => hmeets
  · intro h
    by_cases hdestination : ∃ b, g.Marked s.destination b
    · obtain ⟨b, hb⟩ := hdestination
      refine .inl (h.weaken fun a _ (hall : s.MatchesAll g a ∧ s.Meets g a) => ?_)
      exact ⟨matchesSome_of_matchesAll hall.1 hb, hall.2⟩
    · -- without destinations, the two agree only if there are no sources either
      by_cases hsource : ∃ a, g.Marked s.source a
      · exact .inr ⟨hsource, not_exists.1 hdestination⟩
      · exact .inl (h.weaken fun a ha _ => absurd ⟨a, ha⟩ hsource)
  · intro q r hanswers hlacks
    have hknown : firstUnknown g unknown s.lookups = none :=
      known_of_answers (s := s.quantified hpair q r) hanswers
    exact ⟨hlacks.passes_all_all hknown, hlacks.fails_all_some hknown⟩

/-- Every peer sends data to an audit that sends it back. -/
def strayStatement : Statement where
  name := "stray"
  source := peer
  destination := audit
  kind := .data
  sourceQuantifier := .some
  destinationQuantifier := .some
  obligation := .influence .destination .source .data
  name_ne_blank := by decide
  all_of_set := nofun

/-- Audits are declared, but there is none. -/
theorem strayStatement_ordered :
    strayStatement.obligation.shape = .pair ∧
      (strayStatement.evaluate auditedGraph false .error).Answers ∧
      strayStatement.LacksDestinations auditedGraph ∧
      (strayStatement.quantified rfl .all .all).Passes auditedGraph false .error ∧
      (strayStatement.quantified rfl .some .some).Passes auditedGraph false .error ∧
      (strayStatement.quantified rfl .some .all).Passes auditedGraph false .error ∧
      (strayStatement.quantified rfl .all .some).Fails auditedGraph false .error := by
  have hanswers : ((strayStatement.quantified rfl .some .some).evaluate auditedGraph false
      .error).Answers := ⟨_, rfl⟩
  have hlacks : strayStatement.LacksDestinations auditedGraph := by
    have hpeer : auditedGraph.declares peer = true ∧ .int 0 ∈ auditedGraph.nodes ∧
        auditedGraph.carries peer (.int 0) = true := by decide
    have haudit : ∀ n ∈ auditedGraph.nodes, auditedGraph.carries audit n ≠ true := by decide
    exact ⟨⟨.int 0, hpeer⟩, fun b hb => haudit b hb.2.1 hb.2.2⟩
  obtain ⟨hallAll, -, hsomeSome, -, hexception⟩ :=
    quantified_ordered strayStatement rfl auditedGraph false .error
  obtain ⟨hpasses, hfails⟩ := hexception .some .some hanswers hlacks
  have hsome := hallAll hpasses
  exact ⟨rfl, hanswers, hlacks, hpasses, hsome, hsomeSome hsome, hfails⟩

end InfoFlow.Statement
