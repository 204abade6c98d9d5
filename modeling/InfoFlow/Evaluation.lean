import InfoFlow.Obligation.Evaluate
import InfoFlow.Plan
import InfoFlow.Verdict
/-!
# Evaluating statements

The obligation of a statement is evaluated source by source, in the order of the sources, and for
each source destination by destination, in the order of the destinations. An exhaustive evaluation
records every violation, any other one stops at the first. A tally counts the evaluations and
collects the violations; it survives a fault. The condition that some plans lay on every source is
checked first, in a loop of its own, which notes what the sources match for the loop over the
obligations. The notes save work and change nothing: `evaluate_eq` says what an evaluation is
without them.
-/

namespace InfoFlow

/-! ## Checking the obligation -/

/-- How often an obligation was evaluated, and the violations that were found. -/
structure Tally where
  evaluations : Nat := 0
  violations : List Violation := []

/-- Counts one evaluation. -/
def Tally.count (t : Tally) : Tally := { t with evaluations := t.evaluations + 1 }

/-- Adds a violation. -/
def Tally.record (t : Tally) (v : Violation) : Tally := { t with violations := t.violations ++ [v] }

/-- What a check leaves: the tally, what happened, and whether everything held. -/
structure Checked where
  tally : Tally
  events : List Event
  passed : Except Fault Bool

namespace Checked

/-- Puts events in front. -/
def after (c : Checked) (es : List Event) : Checked := { c with events := es ++ c.events }

/-- A check that went on after something did not hold. -/
def butFailed (c : Checked) : Checked := { c with passed := c.passed.map fun _ => false }

end Checked

namespace Statement

/-- The detail of a violation of the obligation. -/
def unmetDetail (s : Statement) : String :=
  "obligation " ++ Text.quoted s.obligation.label ++ " unmet"

/-- The violation of the obligation by a source, and by a destination if it is about pairs. -/
def unmet (s : Statement) (source : Node) (destination : Option Node) : Violation :=
  { kind := .obligationUnmet, source, destination, detail := s.unmetDetail }

/-- Evaluates the obligation once, for a source and perhaps a destination, and goes on as the mode
says. -/
def checkOnce (s : Statement) (exhaustive : Bool) (source : Node) (destination : Option Node)
    (test : Traced Bool) (next : Tally → Checked) (t : Tally) : Checked :=
  match test.result with
  | .error e => ⟨t.count, test.events, .error e⟩
  | .ok true => (next t.count).after test.events
  | .ok false =>
    let t := t.count.record (s.unmet source destination)
    let events := test.events ++ [.unmet s.name s.obligation.label source destination]
    if exhaustive then (next t).butFailed.after events else ⟨t, events, .ok false⟩

/-- Nothing is left to check. -/
def checkNone (t : Tally) : Checked := ⟨t, [], .ok true⟩

/-- Evaluates an obligation about pairs for a source and each of some destinations. -/
def checkPairs (s : Statement) (exhaustive : Bool) (source : Node) (test : Node → Traced Bool) :
    List Node → Tally → Checked
  | [] => checkNone
  | d :: ds =>
    s.checkOnce exhaustive source (some d) (test d) (checkPairs s exhaustive source test ds)

/-- Evaluates the obligation of a statement for a source and its matched destinations. -/
def checkSource (s : Statement) (g : Graph) (exhaustive : Bool) (source : Node)
    (premise : NodeSet) : Tally → Checked :=
  match s.obligation with
  | .pair f =>
    s.checkPairs exhaustive source (f.holdsOfPair g source) (Node.ordered premise.nodes)
  | .set f => s.checkOnce exhaustive source none (f.holdsOfSet g source premise) checkNone

theorem checkSource_eq (s : Statement) (g : Graph) (exhaustive : Bool) (source : Node)
    (premise : NodeSet) : s.checkSource g exhaustive source premise =
      match s.obligation with
      | .pair f => s.checkPairs exhaustive source (f.holdsOfPair g source) premise.nodes
      | .set f => s.checkOnce exhaustive source none (f.holdsOfSet g source premise) checkNone := by
  unfold checkSource
  rw [NodeSet.ordered_nodes]

/-- Evaluates the obligation for each of some sources that trigger it, given what they match. -/
def checkSourcesFrom (s : Statement) (g : Graph) (exhaustive : Bool) (destinations : NodeSet)
    (matched : Node → NodeSet) : List Node → Tally → Checked
  | [], t => checkNone t
  | a :: as, t =>
    if !s.plan.trigger.passes (matched a) destinations then
      checkSourcesFrom s g exhaustive destinations matched as t
    else
      let c := s.checkSource g exhaustive a (matched a) t
      match c.passed with
      | .error _ => c
      | .ok true =>
        (checkSourcesFrom s g exhaustive destinations matched as c.tally).after c.events
      | .ok false =>
        if exhaustive then
          (checkSourcesFrom s g exhaustive destinations matched as c.tally).butFailed.after c.events
        else c

/-- Evaluates the obligation for each of some sources that trigger it. -/
def checkSources (s : Statement) (g : Graph) (exhaustive : Bool) (destinations : NodeSet) :
    List Node → Tally → Checked :=
  s.checkSourcesFrom g exhaustive destinations fun a => s.premise g a destinations

theorem checkSources_cons (s : Statement) (g : Graph) (exhaustive : Bool) (destinations : NodeSet)
    (a : Node) (as : List Node) (t : Tally) :
    s.checkSources g exhaustive destinations (a :: as) t =
      if !s.plan.trigger.passes (s.premise g a destinations) destinations then
        s.checkSources g exhaustive destinations as t
      else
        let c := s.checkSource g exhaustive a (s.premise g a destinations) t
        match c.passed with
        | .error _ => c
        | .ok true => (s.checkSources g exhaustive destinations as c.tally).after c.events
        | .ok false =>
          if exhaustive then
            (s.checkSources g exhaustive destinations as c.tally).butFailed.after c.events
          else c := rfl

/-- Evaluates the obligation of a statement for its sources, given what they match, and tells how
often. -/
def checkAllFrom (s : Statement) (g : Graph) (exhaustive : Bool) (destinations : NodeSet)
    (matched : Node → NodeSet) (sources : List Node) : Traced Verdict :=
  let c := s.checkSourcesFrom g exhaustive destinations matched sources {}
  match c.passed with
  | .error e => ⟨c.events, .error e⟩
  | .ok _ =>
    ⟨c.events ++ [.finished s.name c.tally.evaluations c.tally.violations.length],
      .ok ⟨s.name, c.tally.violations⟩⟩

/-- Evaluates the obligation of a statement for its sources, and tells how often. -/
def checkAll (s : Statement) (g : Graph) (exhaustive : Bool) (destinations : NodeSet) :
    List Node → Traced Verdict :=
  s.checkAllFrom g exhaustive destinations fun a => s.premise g a destinations

theorem checkAll_eq (s : Statement) (g : Graph) (exhaustive : Bool) (destinations : NodeSet)
    (sources : List Node) : s.checkAll g exhaustive destinations sources =
      let c := s.checkSources g exhaustive destinations sources {}
      match c.passed with
      | .error e => ⟨c.events, .error e⟩
      | .ok _ =>
        ⟨c.events ++ [.finished s.name c.tally.evaluations c.tally.violations.length],
          .ok ⟨s.name, c.tally.violations⟩⟩ := rfl

/-! ## The condition on every source -/

/-- The violation of the condition on every source. -/
def noFlow (s : Statement) (reason : String) (source : Node) : Violation :=
  { kind := .noFlow, source, detail := reason ++ " marked " ++ s.destination.text }

/-- What sources match, as far as it has been noted. -/
abbrev Notes := Keyed Node NodeSet

/-- The matched destinations of a source, noted or not. -/
def notedPremise (s : Statement) (g : Graph) (destinations : NodeSet) (notes : Notes) (a : Node) :
    NodeSet :=
  (notes.get? a).getD (s.premise g a destinations)

/-- Checks a condition on some sources, one after the other, and notes what they match. The first
that does not meet it is the last that is checked, unless every failure is asked for. -/
def checkGate (s : Statement) (g : Graph) (exhaustive : Bool) (destinations : NodeSet) (gate : Gate)
    (reason : String) : List Node → Notes → List Violation × Notes
  | [], notes => ([], notes)
  | a :: as, notes =>
    let premise := s.premise g a destinations
    let notes := notes.put a premise
    if gate.passes premise destinations then
      checkGate s g exhaustive destinations gate reason as notes
    else if exhaustive then
      let (vs, notes) := checkGate s g exhaustive destinations gate reason as notes
      (s.noFlow reason a :: vs, notes)
    else ([s.noFlow reason a], notes)

/-- The fault of asking a plan for a condition on every source that it does not have. -/
def noEntry (s : Statement) : Fault :=
  .never "precheck requested for a plan without one" [("statement", .text s.name)]

/-- Checks the condition on every source of a plan that has one. -/
def checkEntry (s : Statement) (g : Graph) (exhaustive : Bool) (destinations : NodeSet)
    (sources : List Node) : Traced (List Violation × Notes) :=
  match s.plan.entry with
  | none => .fault s.noEntry
  | some (gate, reason) => pure (s.checkGate g exhaustive destinations gate reason sources [])

/-- Checks the condition on every source, if the plan has one. -/
def checkEntryIfAny (s : Statement) (g : Graph) (exhaustive : Bool) (destinations : NodeSet)
    (sources : List Node) : Traced (List Violation × Notes) :=
  if s.plan.entry.isSome then s.checkEntry g exhaustive destinations sources else pure ([], [])

/-- Checks the condition on every source, and then the obligation, unless some source misses the
condition. -/
def checkEnds (s : Statement) (g : Graph) (exhaustive : Bool) (destinations : NodeSet)
    (sources : List Node) : Traced Verdict := do
  match ← s.checkEntryIfAny g exhaustive destinations sources with
  | ([], notes) =>
    s.checkAllFrom g exhaustive destinations (s.notedPremise g destinations notes) sources
  | (vs, _) => pure ⟨s.name, vs⟩

/-! ### The same without notes -/

/-- The sources whose matched destinations do not meet a condition: all of them, or the first. -/
def missing (s : Statement) (g : Graph) (exhaustive : Bool) (destinations : NodeSet) (gate : Gate)
    (sources : List Node) : List Node :=
  let ms := sources.filter fun a => !gate.passes (s.premise g a destinations) destinations
  if exhaustive then ms else ms.take 1

/-- The violations of the condition on every source. -/
def noFlows (s : Statement) (g : Graph) (exhaustive : Bool) (destinations : NodeSet)
    (sources : List Node) : List Violation :=
  match s.plan.entry with
  | none => []
  | some (gate, reason) =>
    (s.missing g exhaustive destinations gate sources).map (s.noFlow reason)

/-- Whatever is noted for a source is what it matches. -/
def Faithful (s : Statement) (g : Graph) (destinations : NodeSet) (notes : Notes) : Prop :=
  ∀ a p, notes.get? a = some p → p = s.premise g a destinations

variable {s : Statement} {g : Graph} {destinations : NodeSet} {notes : Notes}

theorem faithful_nil : s.Faithful g destinations [] := nofun

theorem Faithful.put (h : s.Faithful g destinations notes) (a : Node) :
    s.Faithful g destinations (notes.put a (s.premise g a destinations)) := by
  intro b p hb
  rw [Keyed.get?_put] at hb
  split at hb
  · next hab => rw [← hab, Option.some.inj hb]
  · exact h b p hb

theorem Faithful.notedPremise_eq (h : s.Faithful g destinations notes) (a : Node) :
    s.notedPremise g destinations notes a = s.premise g a destinations := by
  unfold notedPremise
  cases hnoted : notes.get? a with
  | none => rfl
  | some p => exact h a p hnoted

/-- The loop keeps the notes faithful, and finds what a filter finds. -/
theorem Faithful.checkGate_eq (h : s.Faithful g destinations notes) (exhaustive : Bool)
    (gate : Gate) (reason : String) (sources : List Node) :
    ∃ notes', s.Faithful g destinations notes' ∧
      s.checkGate g exhaustive destinations gate reason sources notes =
        ((s.missing g exhaustive destinations gate sources).map (s.noFlow reason), notes') := by
  induction sources generalizing notes with
  | nil =>
    refine ⟨notes, h, ?_⟩
    unfold missing
    cases exhaustive <;> rfl
  | cons a as ih =>
    obtain ⟨notes', hnotes', has⟩ := ih (h.put a)
    unfold checkGate missing
    cases hpasses : gate.passes (s.premise g a destinations) destinations with
    | true =>
      rw [List.filter_cons_of_neg (by simp [hpasses]), if_pos hpasses]
      exact ⟨notes', hnotes', has⟩
    | false =>
      rw [List.filter_cons_of_pos (by simp [hpasses]), if_neg (Bool.eq_false_iff.1 hpasses)]
      cases exhaustive with
      | true =>
        rw [has]
        exact ⟨notes', hnotes', rfl⟩
      | false => exact ⟨_, h.put a, rfl⟩

/-- A plan is asked for its condition only if it has one. -/
theorem checkEntryIfAny_eq (s : Statement) (g : Graph) (exhaustive : Bool) (destinations : NodeSet)
    (sources : List Node) : ∃ notes, s.Faithful g destinations notes ∧
      s.checkEntryIfAny g exhaustive destinations sources =
        pure (s.noFlows g exhaustive destinations sources, notes) := by
  unfold checkEntryIfAny checkEntry noFlows
  cases s.plan.entry with
  | none => exact ⟨[], faithful_nil, rfl⟩
  | some entry =>
    have hnil : s.Faithful g destinations [] := faithful_nil
    obtain ⟨notes, hnotes, hgate⟩ := hnil.checkGate_eq exhaustive entry.1 entry.2 sources
    exact ⟨notes, hnotes, congrArg pure hgate⟩

theorem checkEnds_eq (s : Statement) (g : Graph) (exhaustive : Bool) (destinations : NodeSet)
    (sources : List Node) : s.checkEnds g exhaustive destinations sources =
      match s.noFlows g exhaustive destinations sources with
      | [] => s.checkAll g exhaustive destinations sources
      | vs => pure ⟨s.name, vs⟩ := by
  obtain ⟨notes, hnotes, hentry⟩ := s.checkEntryIfAny_eq g exhaustive destinations sources
  have hnoted : s.notedPremise g destinations notes = fun a => s.premise g a destinations :=
    funext hnotes.notedPremise_eq
  unfold checkEnds
  rw [hentry, pure_bind]
  cases s.noFlows g exhaustive destinations sources with
  | nil =>
    simp only [hnoted]
    rfl
  | cons v vs => rfl

/-! ## Statements -/

/-- Makes sure, marker by marker, that the graph declares some markers. -/
def checkMarkers (g : Graph) (unknown : UnknownMarkers) : List Marker → Traced Unit
  | [] => pure ()
  | m :: ms => do
    let _ ← g.checkDeclared unknown m
    checkMarkers g unknown ms

/-- The verdict on a statement. The markers of the obligation are checked first, then those of the
premise; no obligation is evaluated if some source misses the condition on every source. -/
def evaluate (s : Statement) (g : Graph) (exhaustive : Bool) (unknown : UnknownMarkers) :
    Traced Verdict := do
  checkMarkers g unknown (Marker.orderedSet s.obligation.markers)
  let sources := Node.ordered (← g.resolve unknown s.source).nodes
  let destinations ← g.resolve unknown s.destination
  .tell (.resolved s.name sources.length destinations.size s.sourceQuantifier
    s.destinationQuantifier)
  s.checkEnds g exhaustive destinations sources

/-- An evaluation without notes. -/
theorem evaluate_eq (s : Statement) (g : Graph) (exhaustive : Bool) (unknown : UnknownMarkers) :
    s.evaluate g exhaustive unknown = (do
      checkMarkers g unknown (Marker.orderedSet s.obligation.markers)
      let sources := (← g.resolve unknown s.source).nodes
      let destinations ← g.resolve unknown s.destination
      .tell (.resolved s.name sources.length destinations.size s.sourceQuantifier
        s.destinationQuantifier)
      match s.noFlows g exhaustive destinations sources with
      | [] => s.checkAll g exhaustive destinations sources
      | vs => pure ⟨s.name, vs⟩) := by
  unfold evaluate
  simp only [NodeSet.ordered_nodes, checkEnds_eq]

/-- The fault of two quantifiers for which there is no plan. -/
def noPlan (s : Statement) : Fault :=
  .never "no verification plan for quantifier pair" [("quantifiers", .list [
    .text (Choice.word s.sourceQuantifier), .text (Choice.word s.destinationQuantifier)])]

/-- Chooses the plan of a statement, and tells of it. -/
def tellPlan (s : Statement) : Traced Unit :=
  match Plan.find? s.sourceQuantifier s.destinationQuantifier with
  | none => .fault s.noPlan
  | some _ => .tell (.planned s.name s.sourceQuantifier s.destinationQuantifier)

/-- There is a plan for any two quantifiers. -/
theorem tellPlan_eq (s : Statement) :
    s.tellPlan = .tell (.planned s.name s.sourceQuantifier s.destinationQuantifier) := by
  unfold tellPlan
  cases s.sourceQuantifier <;> cases s.destinationQuantifier <;> rfl

end Statement

end InfoFlow
