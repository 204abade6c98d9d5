import InfoFlow.Proofs.Evaluation.Unknown
import InfoFlow.Proofs.Evaluation.Violations
import InfoFlow.Proofs.Obligation.Watching
/-!
# What an evaluation asks

The obligation of a statement is asked for the sources that trigger it, and only if no source misses
what the statement asks of every source. The checks go one by one, over the sources and for each
source over its matched destinations, and an exhaustive evaluation goes on after a failure. Here the
way in which the obligation is checked for a source is left open, so that a watch can be put around
it: two ways to check that agree on the sources for which the obligation is asked lead to the same
evaluation, with the same events.
-/

namespace InfoFlow

theorem Traced.after_after {α : Type} (x : Traced α) (es fs : List Event) :
    (x.after fs).after es = x.after (es ++ fs) := by
  unfold Traced.after
  rw [List.append_assoc]

namespace Statement

variable {s : Statement} {g : Graph} {exhaustive : Bool} {unknown : UnknownMarkers} {a : Node}

/-! ## The sources for which the obligation is asked -/

/-- The obligation is asked for a source: no source misses what the statement asks of every source,
and this one triggers it. -/
structure Asks (s : Statement) (g : Graph) (a : Node) : Prop where
  entered : ∀ b, g.Marked s.source b → ¬s.Misses g b
  marked : g.Marked s.source a
  triggers : s.Triggers g a

/-- The sources among some that trigger the obligation. -/
def triggering (s : Statement) (g : Graph) (destinations : NodeSet) (sources : List Node) :
    List Node :=
  sources.filter fun a => s.plan.trigger.passes (s.premise g a destinations) destinations

theorem mem_triggering :
    a ∈ s.triggering g (g.marked s.destination) (g.marked s.source).nodes ↔
      g.Marked s.source a ∧ s.Triggers g a := by
  unfold triggering
  rw [List.mem_filter, NodeSet.mem_nodes, Graph.mem_marked, passes_iff, triggers_iff]

theorem noFlows_eq_nil_iff_entered (exhaustive : Bool) :
    s.noFlows g exhaustive (g.marked s.destination) (g.marked s.source).nodes = [] ↔
      ∀ b, g.Marked s.source b → ¬s.Misses g b := by
  rw [noFlows_eq_recorded, recorded_eq_nil_iff, noFlows_eq_nil_iff]
  simp only [misses_iff, not_not]

/-! ## Checks one by one -/

/-- Checks one item after the other, as the mode says. -/
def checkEach {α : Type} (exhaustive : Bool) (check : α → Tally → Checked) :
    List α → Tally → Checked
  | [] => checkNone
  | x :: xs => fun t => goOn exhaustive (check x t) (checkEach exhaustive check xs)

theorem checkEach_congr {α : Type} (exhaustive : Bool) {check check' : α → Tally → Checked}
    {xs : List α} (h : ∀ x ∈ xs, check x = check' x) :
    checkEach exhaustive check xs = checkEach exhaustive check' xs := by
  induction xs with
  | nil => rfl
  | cons x xs ih =>
    rw [checkEach, checkEach, h x List.mem_cons_self,
      ih fun y hy => h y (List.mem_cons_of_mem x hy)]

/-- What a question by itself leaves, for a source and perhaps a destination. -/
def askOnce (s : Statement) (source : Node) (destination : Option Node) (test : Traced Bool)
    (t : Tally) : Checked :=
  match test.result with
  | .error e => ⟨t.count, test.events, .error e⟩
  | .ok true => ⟨t.count, test.events, .ok true⟩
  | .ok false =>
    ⟨t.count.record (s.unmet source destination),
      test.events ++ [.unmet s.name s.obligation.label source destination], .ok false⟩

theorem checkOnce_eq_goOn (s : Statement) (exhaustive : Bool) (source : Node)
    (destination : Option Node) (test : Traced Bool) (next : Tally → Checked) (t : Tally) :
    s.checkOnce exhaustive source destination test next t =
      goOn exhaustive (s.askOnce source destination test t) next := by
  unfold checkOnce askOnce
  cases test.result with
  | error e => rfl
  | ok b => cases b <;> rfl

theorem checkPairs_eq_checkEach (s : Statement) (exhaustive : Bool) (source : Node)
    (test : Node → Traced Bool) (ds : List Node) :
    s.checkPairs exhaustive source test ds =
      checkEach exhaustive (fun d => s.askOnce source (some d) (test d)) ds := by
  induction ds with
  | nil => rfl
  | cons d ds ih =>
    funext t
    rw [checkPairs, checkOnce_eq_goOn, ih]
    rfl

theorem checkPairs_congr (s : Statement) (exhaustive : Bool) (source : Node)
    {test test' : Node → Traced Bool} {ds : List Node} (h : ∀ d ∈ ds, test d = test' d) :
    s.checkPairs exhaustive source test ds = s.checkPairs exhaustive source test' ds := by
  rw [checkPairs_eq_checkEach, checkPairs_eq_checkEach]
  exact checkEach_congr exhaustive fun d hd => by rw [h d hd]

theorem checkSources_eq_checkEach (s : Statement) (g : Graph) (exhaustive : Bool)
    (destinations : NodeSet) (sources : List Node) :
    s.checkSources g exhaustive destinations sources =
      checkEach exhaustive (fun a => s.checkSource g exhaustive a (s.premise g a destinations))
        (s.triggering g destinations sources) := by
  unfold triggering
  induction sources with
  | nil => rfl
  | cons a sources ih =>
    funext t
    rw [checkSources_cons_eq_goOn, List.filter_cons, ih]
    cases s.plan.trigger.passes (s.premise g a destinations) destinations <;> rfl

/-! ## Other ways to check the obligation -/

/-- Checks the obligation of a statement in some way for the sources that trigger it. -/
def checkAllWith (check : Node → NodeSet → Tally → Checked) (s : Statement) (g : Graph)
    (exhaustive : Bool) (destinations : NodeSet) (sources : List Node) : Traced Verdict :=
  s.conclude (checkEach exhaustive (fun a => check a (s.premise g a destinations))
    (s.triggering g destinations sources) {})

theorem checkAllWith_checkSource (s : Statement) (g : Graph) (exhaustive : Bool) :
    s.checkAllWith (s.checkSource g exhaustive) g exhaustive = s.checkAll g exhaustive := by
  funext destinations sources
  unfold checkAllWith
  rw [← checkSources_eq_checkEach]
  rfl

/-- Evaluates a statement, with some way to check its obligation for a source. -/
def evaluateWith (check : Node → NodeSet → Tally → Checked) (s : Statement) (g : Graph)
    (exhaustive : Bool) (unknown : UnknownMarkers) : Traced Verdict := do
  let ends ← s.lookUp g unknown
  s.proceed g exhaustive (s.checkAllWith check g exhaustive) ends.2 ends.1.nodes

theorem evaluateWith_checkSource (s : Statement) (g : Graph) (exhaustive : Bool)
    (unknown : UnknownMarkers) :
    s.evaluateWith (s.checkSource g exhaustive) g exhaustive unknown =
      s.evaluate g exhaustive unknown := by
  unfold evaluateWith
  rw [checkAllWith_checkSource, evaluate_eq_lookUp]

/-- What is told after the markers of a statement have been looked up. -/
def resolvedEvent (s : Statement) (destinations : NodeSet) (sources : List Node) : Event :=
  .resolved s.name sources.length destinations.size s.sourceQuantifier s.destinationQuantifier

/-- What is told before the obligation of a statement can be asked. -/
def preamble (s : Statement) (g : Graph) (unknown : UnknownMarkers) : List Event :=
  (s.lookUp g unknown).events ++
    [s.resolvedEvent (g.marked s.destination) (g.marked s.source).nodes]

/-- How an evaluation goes, whatever the way to check the obligation. -/
inductive Course (s : Statement) (g : Graph) (exhaustive : Bool) (unknown : UnknownMarkers) :
    Prop where
  /-- It stops at an unknown marker. -/
  | stopped (m : Marker) (hfirst : firstUnknown g unknown s.lookups = some m)
    (hcourse : ∀ check, s.evaluateWith check g exhaustive unknown =
      ⟨(s.lookUp g unknown).events, .error (.unknownMarker m)⟩)
  /-- Some source misses what is asked of every source. -/
  | missed (vs : List Violation) (hfirst : firstUnknown g unknown s.lookups = none)
    (hmissed : ∃ b, g.Marked s.source b ∧ s.Misses g b)
    (hcourse : ∀ check, s.evaluateWith check g exhaustive unknown =
      ⟨s.preamble g unknown, .ok ⟨s.name, vs⟩⟩)
  /-- The obligation is checked. -/
  | asked (hfirst : firstUnknown g unknown s.lookups = none)
    (hentered : ∀ b, g.Marked s.source b → ¬s.Misses g b)
    (hcourse : ∀ check, s.evaluateWith check g exhaustive unknown =
      (s.checkAllWith check g exhaustive (g.marked s.destination)
        (g.marked s.source).nodes).after (s.preamble g unknown))

theorem proceed_of_nil {check : NodeSet → List Node → Traced Verdict} {destinations : NodeSet}
    {sources : List Node} (h : s.noFlows g exhaustive destinations sources = []) :
    s.proceed g exhaustive check destinations sources =
      (check destinations sources).after [s.resolvedEvent destinations sources] := by
  unfold proceed
  rw [h]
  rfl

theorem proceed_of_cons {check : NodeSet → List Node → Traced Verdict} {destinations : NodeSet}
    {sources : List Node} {v : Violation} {vs : List Violation}
    (h : s.noFlows g exhaustive destinations sources = v :: vs) :
    s.proceed g exhaustive check destinations sources =
      ⟨[s.resolvedEvent destinations sources], .ok ⟨s.name, v :: vs⟩⟩ := by
  unfold proceed
  rw [h]
  rfl

theorem course (s : Statement) (g : Graph) (exhaustive : Bool) (unknown : UnknownMarkers) :
    s.Course g exhaustive unknown := by
  have hlookUp := s.lookUp_result g unknown
  have hentered := noFlows_eq_nil_iff_entered (s := s) (g := g) exhaustive
  cases hfirst : firstUnknown g unknown s.lookups with
  | some m =>
    rw [hfirst] at hlookUp
    refine .stopped m hfirst fun check => ?_
    show Traced.bind _ _ = _
    unfold Traced.bind
    rw [hlookUp]
  | none =>
    rw [hfirst] at hlookUp
    have hproceed (check : Node → NodeSet → Tally → Checked) :
        s.evaluateWith check g exhaustive unknown =
          (s.proceed g exhaustive (s.checkAllWith check g exhaustive) (g.marked s.destination)
            (g.marked s.source).nodes).after (s.lookUp g unknown).events := by
      show Traced.bind _ _ = _
      unfold Traced.bind
      rw [hlookUp]
      rfl
    cases hflows : s.noFlows g exhaustive (g.marked s.destination) (g.marked s.source).nodes with
    | nil =>
      refine .asked hfirst (hentered.1 hflows) fun check => ?_
      rw [hproceed, proceed_of_nil hflows]
      exact Traced.after_after _ _ _
    | cons v vs =>
      have hmissed : ∃ b, g.Marked s.source b ∧ s.Misses g b := by
        rw [hflows] at hentered
        simpa using hentered.not.1 (List.cons_ne_nil v vs)
      refine .missed (v :: vs) hfirst hmissed fun check => ?_
      rw [hproceed, proceed_of_cons hflows]
      rfl

theorem Asks.of_mem_triggering (hentered : ∀ b, g.Marked s.source b → ¬s.Misses g b)
    (ha : a ∈ s.triggering g (g.marked s.destination) (g.marked s.source).nodes) : s.Asks g a :=
  ⟨hentered, (mem_triggering.1 ha).1, (mem_triggering.1 ha).2⟩

/-- Ways to check the obligation that agree where it is asked lead to the same evaluation. -/
theorem evaluateWith_congr {check check' : Node → NodeSet → Tally → Checked}
    (h : ∀ a, s.Asks g a → check a (s.premise g a (g.marked s.destination)) =
      check' a (s.premise g a (g.marked s.destination))) :
    s.evaluateWith check g exhaustive unknown = s.evaluateWith check' g exhaustive unknown := by
  cases s.course g exhaustive unknown with
  | stopped m _ hcourse => rw [hcourse, hcourse]
  | missed vs _ _ hcourse => rw [hcourse, hcourse]
  | asked _ hentered hcourse =>
    rw [hcourse, hcourse]
    unfold checkAllWith
    rw [checkEach_congr exhaustive fun a ha => h a (.of_mem_triggering hentered ha)]

/-! ## Watched evaluations -/

/-- Checks the obligation for a source, under a watch. -/
def checkSourceWatched (watch : Watch) (s : Statement) (g : Graph) (exhaustive : Bool)
    (source : Node) (premise : NodeSet) : Tally → Checked :=
  match s.obligation with
  | .pair f =>
    s.checkPairs exhaustive source (f.holdsOfPairWatched watch g source) premise.nodes
  | .set f =>
    s.checkOnce exhaustive source none (f.holdsOfSetWatched watch g source premise) checkNone

/-- Evaluates a statement, with a watch around its obligation and all parts of it. -/
def evaluateWatched (watch : Watch) (s : Statement) (g : Graph) (exhaustive : Bool)
    (unknown : UnknownMarkers) : Traced Verdict :=
  s.evaluateWith (s.checkSourceWatched watch g exhaustive) g exhaustive unknown

end Statement

/-! ## Calls -/

/-- All calls that are told have a property. -/
def Traced.CallsOnly {α : Type} (x : Traced α) (P : Call → Prop) : Prop :=
  ∀ c ∈ Traced.calls x.events, P c

namespace Traced.CallsOnly

variable {α β : Type} {P : Call → Prop}

protected theorem pure (a : α) : (pure a : Traced α).CallsOnly P := fun _ hc => nomatch hc

theorem bind {x : Traced α} {f : α → Traced β} (hx : x.CallsOnly P)
    (hf : ∀ a, (f a).CallsOnly P) : (x >>= f).CallsOnly P := by
  obtain ⟨events, result⟩ := x
  cases result with
  | error e => exact hx
  | ok a =>
    intro c hc
    change c ∈ calls (events ++ (f a).events) at hc
    rw [calls_append] at hc
    rcases List.mem_append.1 hc with hc | hc
    · exact hx c hc
    · exact hf a c hc

end Traced.CallsOnly

-- Looking markers up makes no call, so its calls have any property.

theorem Graph.checkDeclared_callsOnly (g : Graph) (unknown : UnknownMarkers) (m : Marker)
    (P : Call → Prop) : (g.checkDeclared unknown m).CallsOnly P := by
  unfold checkDeclared
  cases g.declares m with
  | true => exact .pure true
  | false => cases unknown <;> exact fun _ hc => nomatch hc

theorem Graph.resolve_callsOnly (g : Graph) (unknown : UnknownMarkers) (m : Marker)
    (P : Call → Prop) : (g.resolve unknown m).CallsOnly P := by
  refine (g.checkDeclared_callsOnly unknown m P).bind fun b => ?_
  cases b with
  | true => exact .pure _
  | false => exact .pure _

namespace Statement

theorem checkMarkers_callsOnly (g : Graph) (unknown : UnknownMarkers) (ms : List Marker)
    (P : Call → Prop) : (checkMarkers g unknown ms).CallsOnly P := by
  induction ms with
  | nil => exact .pure ()
  | cons m ms ih => exact (g.checkDeclared_callsOnly unknown m P).bind fun _ => ih

theorem calls_lookUp (s : Statement) (g : Graph) (unknown : UnknownMarkers) :
    Traced.calls (s.lookUp g unknown).events = [] := by
  have hnone : (s.lookUp g unknown).CallsOnly fun _ => False :=
    (checkMarkers_callsOnly g unknown _ _).bind fun _ =>
      (g.resolve_callsOnly unknown s.source _).bind fun _ =>
        (g.resolve_callsOnly unknown s.destination _).bind fun _ => .pure _
  exact List.eq_nil_iff_forall_not_mem.2 hnone

theorem calls_preamble (s : Statement) (g : Graph) (unknown : UnknownMarkers) :
    Traced.calls (s.preamble g unknown) = [] := by
  unfold preamble
  rw [Traced.calls_append, calls_lookUp]
  rfl

theorem calls_conclude (s : Statement) (c : Checked) :
    Traced.calls (s.conclude c).events = Traced.calls c.events := by
  unfold conclude
  cases c.passed with
  | error e => rfl
  | ok b =>
    show Traced.calls (c.events ++ _) = _
    rw [Traced.calls_append]
    exact List.append_nil _

end Statement

/-! ## Checks that come to the same -/

/-- Two checks leave the same tally and the same answer, whatever happened on the way. -/
structure Checked.SameOutcome (c d : Checked) : Prop where
  tally : c.tally = d.tally
  passed : c.passed = d.passed

namespace Statement

variable {s : Statement} {g : Graph} {exhaustive : Bool} {unknown : UnknownMarkers}

theorem goOn_sameOutcome {c d : Checked} {next next' : Tally → Checked} (h : c.SameOutcome d)
    (hnext : ∀ t, (next t).SameOutcome (next' t)) (exhaustive : Bool) :
    (goOn exhaustive c next).SameOutcome (goOn exhaustive d next') := by
  obtain ⟨tally, events, passed⟩ := c
  obtain ⟨tally', events', passed'⟩ := d
  obtain ⟨rfl, rfl⟩ := h
  have hrest := hnext tally
  cases passed with
  | error e => exact ⟨rfl, rfl⟩
  | ok b =>
    cases b with
    | true => exact ⟨hrest.tally, hrest.passed⟩
    | false =>
      cases exhaustive with
      | true => exact ⟨hrest.tally, congrArg (Except.map fun _ => false) hrest.passed⟩
      | false => exact ⟨rfl, rfl⟩

theorem checkEach_sameOutcome {α : Type} {check check' : α → Tally → Checked} {xs : List α}
    (h : ∀ x ∈ xs, ∀ t, (check x t).SameOutcome (check' x t)) (t : Tally) :
    (checkEach exhaustive check xs t).SameOutcome (checkEach exhaustive check' xs t) := by
  induction xs generalizing t with
  | nil => exact ⟨rfl, rfl⟩
  | cons x xs ih =>
    have hrest := ih fun y hy => h y (List.mem_cons_of_mem x hy)
    exact goOn_sameOutcome (h x List.mem_cons_self t) hrest exhaustive

/-- Only the answer to a question matters to the outcome. -/
theorem askOnce_sameOutcome {test test' : Traced Bool} (h : test.result = test'.result)
    (source : Node) (destination : Option Node) (t : Tally) :
    (s.askOnce source destination test t).SameOutcome (s.askOnce source destination test' t) := by
  unfold askOnce
  rw [h]
  cases test'.result with
  | error e => exact ⟨rfl, rfl⟩
  | ok b => cases b <;> exact ⟨rfl, rfl⟩

theorem checkPairs_sameOutcome (s : Statement) (exhaustive : Bool) (source : Node)
    {test test' : Node → Traced Bool} {ds : List Node}
    (h : ∀ d ∈ ds, (test d).result = (test' d).result) (t : Tally) :
    (s.checkPairs exhaustive source test ds t).SameOutcome
      (s.checkPairs exhaustive source test' ds t) := by
  rw [checkPairs_eq_checkEach, checkPairs_eq_checkEach]
  exact checkEach_sameOutcome (fun d hd t => askOnce_sameOutcome (h d hd) source (some d) t) t

theorem checkOnce_sameOutcome (s : Statement) (exhaustive : Bool) (source : Node)
    {test test' : Traced Bool} (h : test.result = test'.result) (t : Tally) :
    (s.checkOnce exhaustive source none test checkNone t).SameOutcome
      (s.checkOnce exhaustive source none test' checkNone t) := by
  rw [checkOnce_eq_goOn, checkOnce_eq_goOn]
  exact goOn_sameOutcome (askOnce_sameOutcome h source none t) (fun _ => ⟨rfl, rfl⟩) exhaustive

theorem conclude_result {c d : Checked} (h : c.SameOutcome d) :
    (s.conclude c).result = (s.conclude d).result := by
  obtain ⟨htally, hpassed⟩ := h
  unfold conclude
  rw [hpassed, htally]
  cases d.passed <;> rfl

/-- Ways to check the obligation that come to the same where it is asked give the same verdict. -/
theorem evaluateWith_result {check check' : Node → NodeSet → Tally → Checked}
    (h : ∀ a, s.Asks g a → ∀ t, (check a (s.premise g a (g.marked s.destination)) t).SameOutcome
      (check' a (s.premise g a (g.marked s.destination)) t)) :
    (s.evaluateWith check g exhaustive unknown).result =
      (s.evaluateWith check' g exhaustive unknown).result := by
  cases s.course g exhaustive unknown with
  | stopped m _ hcourse => rw [hcourse, hcourse]
  | missed vs _ _ hcourse => rw [hcourse, hcourse]
  | asked _ hentered hcourse =>
    rw [hcourse, hcourse]
    exact conclude_result (checkEach_sameOutcome
      (fun a ha => h a (.of_mem_triggering hentered ha)) {})

end Statement

end InfoFlow
