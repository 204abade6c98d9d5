import InfoFlow.Proofs.Evaluation.Calls
import Mathlib.Data.List.Induction
/-!
# Checks in rounds

One tally may go through any number of rounds, each of which checks the obligation for a source and
some destinations. A round puts its own failures behind those that were recorded before it, and
passes exactly if it records none; in any mode the tally has counted the calls of the obligation in
all rounds so far.
-/

namespace InfoFlow

/-- How far some checks have come on one tally, and what happened during them. -/
structure Progress where
  tally : Tally := {}
  events : List Event := []

/-- Goes on with another check. -/
def Progress.advance (p : Progress) (check : Tally → Checked) : Progress :=
  ⟨(check p.tally).tally, p.events ++ (check p.tally).events⟩

/-- A source and the destinations that its obligation is checked for. -/
structure Round where
  source : Node
  premise : NodeSet

/-- Goes through some rounds from an empty tally, with some way to check each. -/
def progressBy (check : Node → NodeSet → Tally → Checked) (rounds : List Round) : Progress :=
  rounds.foldl (fun p r => p.advance (check r.source r.premise)) {}

section

variable {check check' : Node → NodeSet → Tally → Checked}

theorem progressBy_snoc (check : Node → NodeSet → Tally → Checked) (rounds : List Round)
    (r : Round) :
    progressBy check (rounds ++ [r]) =
      (progressBy check rounds).advance (check r.source r.premise) := by
  unfold progressBy
  rw [List.foldl_append]
  rfl

/-- Checks that leave the same tallies do so in any number of rounds. -/
theorem progressBy_tally (h : ∀ a p t, (check a p t).tally = (check' a p t).tally)
    (rounds : List Round) :
    (progressBy check rounds).tally = (progressBy check' rounds).tally := by
  -- from the end, as a round sees of those before it the tally only
  induction rounds using List.reverseRecOn with
  | nil => rfl
  | append_singleton rounds r ih =>
    rw [progressBy_snoc, progressBy_snoc, Progress.advance, Progress.advance, ih]
    exact h r.source r.premise _

end

/-! ## What a check counts -/

/-- A check counts as many evaluations as there are calls in it. -/
def Checked.Counts (c : Checked) (t : Tally) : Prop :=
  c.tally.evaluations = t.evaluations + (Traced.calls c.events).length

namespace Statement

variable {s : Statement} {g : Graph} {exhaustive : Bool} {tag : String}

theorem goOn_counts {c : Checked} {next : Tally → Checked} {t : Tally} (hc : c.Counts t)
    (hnext : ∀ t, (next t).Counts t) (exhaustive : Bool) : (goOn exhaustive c next).Counts t := by
  unfold Checked.Counts at hc
  have hrest : (next c.tally).Counts c.tally := hnext c.tally
  unfold Checked.Counts at hrest
  -- the calls of the check and those of the rest, one after the other
  have hboth : (next c.tally).tally.evaluations =
      t.evaluations + (Traced.calls (c.events ++ (next c.tally).events)).length := by
    rw [Traced.calls_append, List.length_append]
    omega
  unfold goOn
  cases c.passed with
  | error e => exact hc
  | ok b =>
    cases b with
    | true => exact hboth
    | false =>
      cases exhaustive with
      | true => exact hboth
      | false => exact hc

theorem checkEach_counts {α : Type} {check : α → Tally → Checked} {xs : List α}
    (h : ∀ x ∈ xs, ∀ t, (check x t).Counts t) (t : Tally) :
    (checkEach exhaustive check xs t).Counts t := by
  induction xs generalizing t with
  | nil => exact rfl
  | cons x xs ih =>
    obtain ⟨hx, hxs⟩ := List.forall_mem_cons.1 h
    exact goOn_counts (hx t) (ih hxs) exhaustive

theorem askOnce_counts (s : Statement) (source : Node) (destination : Option Node)
    (x : Traced Bool) (c : Call) (t : Tally) :
    (s.askOnce source destination (x.toldAs c) t).Counts t := by
  unfold askOnce Traced.toldAs
  cases x.result with
  | error e => exact rfl
  | ok b => cases b <;> exact rfl

theorem checkSourceWatched_counts (s : Statement) (g : Graph) (tag : String) (exhaustive : Bool)
    (source : Node) (premise : NodeSet) (t : Tally) :
    (s.checkSourceWatched (Watch.telling tag) g exhaustive source premise t).Counts t := by
  unfold checkSourceWatched
  cases s.obligation with
  | pair f =>
    show (s.checkPairs exhaustive source _ premise.nodes t).Counts t
    -- one call for each destination that is come to
    rw [checkPairs_eq_checkEach]
    apply checkEach_counts
    intro d _ t
    rw [holdsOfPairWatched_telling]
    exact s.askOnce_counts source (some d) _ _ t
  | set f =>
    -- one call, and nothing goes on after it
    show (s.checkOnce exhaustive source none _ checkNone t).Counts t
    rw [checkOnce_eq_goOn, holdsOfSetWatched_telling]
    have hdone (t : Tally) : (checkNone t).Counts t := rfl
    exact goOn_counts (s.askOnce_counts source none _ _ t) hdone exhaustive

/-! ## Rounds of a statement -/

/-- Checks the obligation in some rounds on one tally. -/
def progress (s : Statement) (g : Graph) (exhaustive : Bool) (rounds : List Round) : Progress :=
  progressBy (s.checkSource g exhaustive) rounds

/-- The check of one more round. -/
def checkNext (s : Statement) (g : Graph) (exhaustive : Bool) (rounds : List Round) (r : Round) :
    Checked :=
  s.checkSource g exhaustive r.source r.premise (s.progress g exhaustive rounds).tally

theorem progress_snoc_tally (s : Statement) (g : Graph) (exhaustive : Bool) (rounds : List Round)
    (r : Round) : (s.progress g exhaustive (rounds ++ [r])).tally =
      (s.checkNext g exhaustive rounds r).tally := by
  rw [progress, progressBy_snoc]
  rfl

/-- Checks the obligation in some rounds, with its calls told under a tag. -/
def progressTold (tag : String) (s : Statement) (g : Graph) (exhaustive : Bool)
    (rounds : List Round) : Progress :=
  progressBy (s.checkSourceWatched (Watch.telling tag) g exhaustive) rounds

theorem progressTold_tally (tag : String) (s : Statement) (g : Graph) (exhaustive : Bool)
    (rounds : List Round) :
    (s.progressTold tag g exhaustive rounds).tally = (s.progress g exhaustive rounds).tally := by
  apply progressBy_tally
  exact fun a p t => (s.checkSourceWatched_telling_sameOutcome g tag exhaustive a p t).tally

theorem progressTold_counts (tag : String) (s : Statement) (g : Graph) (exhaustive : Bool)
    (rounds : List Round) :
    (s.progressTold tag g exhaustive rounds).tally.evaluations =
      (Traced.calls (s.progressTold tag g exhaustive rounds).events).length := by
  unfold progressTold
  induction rounds using List.reverseRecOn with
  | nil => rfl
  | append_singleton rounds r ih =>
    have hround := s.checkSourceWatched_counts g tag exhaustive r.source r.premise
      (progressBy (s.checkSourceWatched (Watch.telling tag) g exhaustive) rounds).tally
    unfold Checked.Counts at hround
    rw [progressBy_snoc, Progress.advance, Traced.calls_append, List.length_append, hround, ih]

/-- A violation of the obligation in a round: by a failing destination, if it is about pairs, and
by the source alone otherwise. -/
def FailsIn (s : Statement) (g : Graph) (r : Round) (v : Violation) : Prop :=
  match s.obligation with
  | .pair f => ∃ b ∈ r.premise, (f.holdsOfPair g r.source b).result = .ok false ∧
      v = s.unmet r.source (some b)
  | .set f => (f.holdsOfSet g r.source r.premise).result = .ok false ∧ v = s.unmet r.source none

theorem mem_failures_iff {r : Round} {v : Violation} :
    v ∈ s.failures g r.source r.premise ↔ s.FailsIn g r v := by
  unfold failures FailsIn
  cases s.obligation with
  | pair f =>
    simp only [List.mem_map, List.mem_filter, NodeSet.mem_nodes, Traced.isNo_iff, and_assoc,
      eq_comm (a := v)]
  | set f => simp only [List.mem_ite_nil_right, List.mem_singleton, Traced.isNo_iff]

/-- A round from one state of the checks to the next. Its failures are recorded as the mode says, it
passes exactly if it records none, it makes the calls that the mode makes of its questions, and all
calls so far have been counted. -/
structure Advances (s : Statement) (g : Graph) (exhaustive : Bool) (tag : String) (r : Round)
    (before after : Progress) (passed : Except Fault Bool) : Prop where
  records : ∃ fs, (∀ v, v ∈ fs ↔ s.FailsIn g r v) ∧ fs.Pairwise Violation.Precedes ∧
    after.tally.violations = before.tally.violations ++ recorded exhaustive fs
  passes : ∃ b, passed = .ok b ∧ (b = true ↔ after.tally.violations = before.tally.violations)
  calls : ∃ made, Call.Made exhaustive (s.answersNo g) (s.questions tag r.source r.premise) made ∧
    Traced.calls after.events = Traced.calls before.events ++ made
  counts : after.tally.evaluations = (Traced.calls after.events).length

/-- In any sequence of rounds on one tally, each round advances the checks. Telling of the calls
leaves every tally as it is, and an obligation that tells of its own calls needs no watch. -/
theorem progress_advances (hpure : s.obligation.Answers g) (exhaustive : Bool) (tag : String)
    (rounds : List Round) (r : Round) :
    s.Advances g exhaustive tag r (s.progressTold tag g exhaustive rounds)
        (s.progressTold tag g exhaustive (rounds ++ [r]))
        (s.checkNext g exhaustive rounds r).passed ∧
      (s.progressTold tag g exhaustive rounds).tally = (s.progress g exhaustive rounds).tally ∧
      ∀ shape p, s.obligation = .custom shape p → p.tag = some tag →
        s.progressTold tag g exhaustive rounds = s.progress g exhaustive rounds := by
  have htally := s.progressTold_tally tag g exhaustive rounds
  have hnext : (s.progressTold tag g exhaustive (rounds ++ [r])).tally =
      (s.checkNext g exhaustive rounds r).tally := by
    rw [progressTold_tally, progress_snoc_tally]
  have hanswers := answersFor_of_answers hpure r.source r.premise
  have hrecords : (s.checkNext g exhaustive rounds r).Records (s.progress g exhaustive rounds).tally
      exhaustive (s.failures g r.source r.premise) :=
    s.checkSource_records exhaustive r.source r.premise hanswers _
  obtain ⟨hpassed, hviolations⟩ := hrecords
  refine ⟨⟨?_, ?_, ?_, ?_⟩, htally, ?_⟩
  · refine ⟨s.failures g r.source r.premise, fun v => mem_failures_iff,
      s.pairwise_failures g r.source r.premise, ?_⟩
    rw [hnext, htally, hviolations]
  · refine ⟨_, hpassed, ?_⟩
    rw [hnext, htally, hviolations, List.append_right_eq_self, recorded_eq_nil_iff]
    exact List.isEmpty_iff
  · have hputs := s.checkSourceWatched_puts hpure tag exhaustive r.source r.premise
      (s.progressTold tag g exhaustive rounds).tally
    refine ⟨_, hputs.made, ?_⟩
    rw [progressTold, progressBy_snoc, Progress.advance, Traced.calls_append]
    rfl
  · exact s.progressTold_counts tag g exhaustive (rounds ++ [r])
  · intro shape p ho htag
    have hsame : s.checkSourceWatched (Watch.telling tag) g exhaustive =
        s.checkSource g exhaustive := by
      funext a q
      exact checkSourceWatched_telling_custom ho htag exhaustive a q
    rw [progressTold, progress, hsame]

/-- A round for a peer and all peers. -/
def peerRound (i : Int) : Round := ⟨.int i, ringGraph.marked peer⟩

/-- The first of two rounds stops at its second call, and the second round at its first. -/
theorem selfStatement_advances :
    selfStatement.obligation.Answers ringGraph ∧
      ∃ before after, selfStatement.progress ringGraph false [peerRound 0] = before ∧
        selfStatement.progressTold "self" ringGraph false [peerRound 0, peerRound 1] = after ∧
        before.tally.evaluations = 2 ∧ after.tally.evaluations = 3 ∧
        after.tally.violations = before.tally.violations ++
          [selfStatement.unmet (.int 1) (some (.int 0))] ∧
        selfStatement.Advances ringGraph false "self" (peerRound 1) before after (.ok false) := by
  have hpure : selfStatement.obligation.Answers ringGraph := fun _ _ => ⟨_, rfl⟩
  obtain ⟨hadvances, -, hcustom⟩ :=
    progress_advances hpure false "self" [peerRound 0] (peerRound 1)
  rw [hcustom .pair selfPredicate rfl rfl] at hadvances
  exact ⟨hpure, _, _, rfl, rfl, rfl, rfl, rfl, hadvances⟩

end Statement

end InfoFlow
