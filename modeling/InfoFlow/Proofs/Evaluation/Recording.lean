import InfoFlow.Evaluation
import InfoFlow.Proofs.Resolution
/-!
# What an evaluation records

Both modes look for the same failures, listed once and for all by `Statement.found`; an exhaustive
evaluation records the whole list and any other one its first item. Each check below goes through
for any tally that it is handed, and the evaluation of a statement is put together from them.
-/

namespace InfoFlow

/-! ## Answers -/

/-- An evaluation ends with an answer and not with a fault. -/
def Traced.Answers {α : Type} (x : Traced α) : Prop := ∃ a, x.result = .ok a

/-- Whether a test ends with the answer no. -/
def Traced.isNo (x : Traced Bool) : Bool :=
  match x.result with
  | .ok b => !b
  | .error _ => false

theorem Traced.isNo_iff {x : Traced Bool} : x.isNo = true ↔ x.result = .ok false := by
  unfold Traced.isNo
  cases x.result with
  | ok b => cases b <;> simp
  | error e => simp

theorem Traced.Answers.isNo_eq_false_iff {x : Traced Bool} (h : x.Answers) :
    x.isNo = false ↔ x.result = .ok true := by
  obtain ⟨b, hb⟩ := h
  unfold Traced.isNo
  rw [hb]
  cases b <;> simp

/-- The obligation is a pure predicate on a graph: whatever it is asked about, it has an answer. -/
def Obligation.Answers (o : Obligation) (g : Graph) : Prop :=
  match o with
  | .pair f => ∀ a b, (f.holdsOfPair g a b).Answers
  | .set f => ∀ a p, (f.holdsOfSet g a p).Answers

/-! ## What a mode records -/

/-- What is recorded of some failures: all of them, or the first. -/
def recorded (exhaustive : Bool) (vs : List Violation) : List Violation :=
  if exhaustive then vs else vs.take 1

@[simp] theorem recorded_nil (exhaustive : Bool) : recorded exhaustive [] = [] := by
  cases exhaustive <;> rfl

theorem recorded_eq_nil_iff {exhaustive : Bool} {vs : List Violation} :
    recorded exhaustive vs = [] ↔ vs = [] := by
  unfold recorded
  cases exhaustive with
  | true => rfl
  | false => cases vs <;> simp

theorem recorded_map {α : Type} (exhaustive : Bool) (f : α → Violation) (l : List α) :
    (if exhaustive then l else l.take 1).map f = recorded exhaustive (l.map f) := by
  cases exhaustive with
  | true => rfl
  | false => exact List.map_take

/-- A check goes through and has recorded some failures, as the mode says, on top of a tally. -/
def Checked.Records (c : Checked) (t : Tally) (exhaustive : Bool) (vs : List Violation) : Prop :=
  c.passed = .ok vs.isEmpty ∧ c.tally.violations = t.violations ++ recorded exhaustive vs

namespace Checked.Records

variable {c d : Checked} {t : Tally} {exhaustive : Bool} {vs ws : List Violation}

theorem after (h : c.Records t exhaustive vs) (es : List Event) :
    (c.after es).Records t exhaustive vs := h

/-- Nothing failed first, and the rest goes on from the tally that is left. -/
theorem append_of_nil (hc : c.Records t exhaustive []) (hd : d.Records c.tally exhaustive ws) :
    d.Records t exhaustive ws := by
  refine ⟨hd.1, ?_⟩
  rw [hd.2, hc.2, recorded_nil, List.append_nil]

/-- Something failed, and an exhaustive check goes on from the tally that is left. -/
theorem append (hc : c.Records t true vs) (hvs : vs ≠ []) (hd : d.Records c.tally true ws) :
    d.butFailed.Records t true (vs ++ ws) := by
  constructor
  · have hne : (vs ++ ws).isEmpty = false := by
      cases vs with
      | nil => exact absurd rfl hvs
      | cons v vs => rfl
    rw [hne, butFailed, hd.1]
    rfl
  · change d.tally.violations = _
    rw [hd.2, hc.2, List.append_assoc]
    rfl

/-- Something failed, and any other check stops at it. -/
theorem stop (hc : c.Records t false vs) (hvs : vs ≠ []) : c.Records t false (vs ++ ws) := by
  cases vs with
  | nil => exact absurd rfl hvs
  | cons v vs => exact hc

end Checked.Records

namespace Statement

variable {s : Statement} {g : Graph} {exhaustive : Bool} {source : Node}

/-! ## Checks of the obligation -/

theorem checkNone_records (exhaustive : Bool) (t : Tally) :
    (checkNone t).Records t exhaustive [] := by
  refine ⟨rfl, ?_⟩
  rw [recorded_nil, List.append_nil]
  rfl

theorem checkOnce_records (s : Statement) (source : Node) (destination : Option Node)
    {test : Traced Bool} {next : Tally → Checked} {vs : List Violation} (htest : test.Answers)
    (hnext : ∀ t, (next t).Records t exhaustive vs) (t : Tally) :
    (s.checkOnce exhaustive source destination test next t).Records t exhaustive
      ((if test.isNo then [s.unmet source destination] else []) ++ vs) := by
  obtain ⟨b, hb⟩ := htest
  unfold checkOnce Traced.isNo
  rw [hb]
  cases b with
  | true => exact (hnext t.count).after test.events
  | false =>
    -- the failed test by itself, on top of which an exhaustive check goes on
    have hfailed : Checked.Records ⟨t.count.record (s.unmet source destination), [], .ok false⟩ t
        exhaustive [s.unmet source destination] := by
      refine ⟨rfl, ?_⟩
      cases exhaustive <;> rfl
    cases exhaustive with
    | true => exact (hfailed.append (List.cons_ne_nil _ _) (hnext _)).after _
    | false => exact hfailed.stop (List.cons_ne_nil _ _)

theorem checkPairs_records {test : Node → Traced Bool} {ds : List Node}
    (htest : ∀ d ∈ ds, (test d).Answers) (t : Tally) :
    (s.checkPairs exhaustive source test ds t).Records t exhaustive
      ((ds.filter fun d => (test d).isNo).map fun d => s.unmet source (some d)) := by
  induction ds generalizing t with
  | nil => exact checkNone_records exhaustive t
  | cons d ds ih =>
    have htail : ∀ x ∈ ds, (test x).Answers := fun x hx => htest x (List.mem_cons_of_mem d hx)
    have hrest := s.checkOnce_records source (some d) (htest d List.mem_cons_self) (ih htail) t
    rw [checkPairs, List.filter_cons]
    cases hd : (test d).isNo with
    | true =>
      rw [hd] at hrest
      exact hrest
    | false =>
      rw [hd] at hrest
      exact hrest

/-- The violations of the obligation that a source gives rise to, in the order of its
destinations. -/
def failures (s : Statement) (g : Graph) (source : Node) (premise : NodeSet) : List Violation :=
  match s.obligation with
  | .pair f =>
    (premise.nodes.filter fun d => (f.holdsOfPair g source d).isNo).map fun d =>
      s.unmet source (some d)
  | .set f => if (f.holdsOfSet g source premise).isNo then [s.unmet source none] else []

/-- What a source and its matched destinations make a statement ask of its obligation has
answers. -/
def AnswersFor (s : Statement) (g : Graph) (source : Node) (premise : NodeSet) : Prop :=
  match s.obligation with
  | .pair f => ∀ d ∈ premise.nodes, (f.holdsOfPair g source d).Answers
  | .set f => (f.holdsOfSet g source premise).Answers

theorem answersFor_of_answers (hpure : s.obligation.Answers g) (source : Node)
    (premise : NodeSet) : s.AnswersFor g source premise := by
  unfold AnswersFor
  unfold Obligation.Answers at hpure
  cases hf : s.obligation with
  | pair f =>
    rw [hf] at hpure
    exact fun d _ => hpure source d
  | set f =>
    rw [hf] at hpure
    exact hpure source premise

theorem checkSource_records (s : Statement) (exhaustive : Bool) (source : Node)
    (premise : NodeSet) (hanswers : s.AnswersFor g source premise) (t : Tally) :
    (s.checkSource g exhaustive source premise t).Records t exhaustive
      (s.failures g source premise) := by
  rw [checkSource_eq]
  unfold failures
  unfold AnswersFor at hanswers
  cases hf : s.obligation with
  | pair f =>
    rw [hf] at hanswers
    exact checkPairs_records hanswers t
  | set f =>
    rw [hf] at hanswers
    have honce := s.checkOnce_records source none hanswers (checkNone_records exhaustive) t
    rw [List.append_nil] at honce
    exact honce

/-- The violations of the obligation by the sources that trigger it, in the order of the sources. -/
def unmets (s : Statement) (g : Graph) (destinations : NodeSet) (sources : List Node) :
    List Violation :=
  (sources.filter fun a => s.plan.trigger.passes (s.premise g a destinations) destinations).flatMap
    fun a => s.failures g a (s.premise g a destinations)

/-- What the sources that trigger the obligation make a statement ask has answers. -/
def AnswersAll (s : Statement) (g : Graph) (destinations : NodeSet) (sources : List Node) : Prop :=
  ∀ a ∈ sources, s.plan.trigger.passes (s.premise g a destinations) destinations = true →
    s.AnswersFor g a (s.premise g a destinations)

theorem checkSources_records (s : Statement) (exhaustive : Bool) {destinations : NodeSet}
    {sources : List Node} (hanswers : s.AnswersAll g destinations sources) (t : Tally) :
    (s.checkSources g exhaustive destinations sources t).Records t exhaustive
      (s.unmets g destinations sources) := by
  unfold unmets
  -- by the sources, with the tally that the sources in front have left
  induction sources generalizing t with
  | nil => exact checkNone_records exhaustive t
  | cons a sources ih =>
    have hrest : s.AnswersAll g destinations sources := fun b hb =>
      hanswers b (List.mem_cons_of_mem a hb)
    rw [checkSources_cons, List.filter_cons]
    cases htrigger : s.plan.trigger.passes (s.premise g a destinations) destinations with
    | false => exact ih hrest t
    | true =>
      have hfirst := s.checkSource_records exhaustive a (s.premise g a destinations)
        (hanswers a List.mem_cons_self htrigger) t
      have hpassed := hfirst.1
      simp only [Bool.not_true, Bool.false_eq_true, if_false, if_true, List.flatMap_cons]
      rw [hpassed]
      -- whether the source passed is whether it has failures, and only then a mode matters
      cases hnone : s.failures g a (s.premise g a destinations) with
      | nil =>
        rw [hnone] at hfirst
        exact hfirst.append_of_nil (ih hrest _)
      | cons v vs =>
        rw [hnone] at hfirst
        cases exhaustive with
        | true => exact hfirst.append (List.cons_ne_nil v vs) (ih hrest _)
        | false => exact hfirst.stop (List.cons_ne_nil v vs)

/-! ## Unknown markers -/

/-- The first of some markers that the graph does not declare, if that is an error. -/
def firstUnknown (g : Graph) (unknown : UnknownMarkers) (ms : List Marker) : Option Marker :=
  ms.find? fun m => unknown = .error ∧ g.declares m = false

/-- The markers of a statement in the order in which they are looked up. -/
def lookups (s : Statement) : List Marker :=
  Marker.orderedSet s.obligation.markers ++ [s.source, s.destination]

variable {unknown : UnknownMarkers}

theorem firstUnknown_of_unknown {m : Marker} {ms : List Marker}
    (h : unknown = .error ∧ g.declares m = false) : firstUnknown g unknown (m :: ms) = some m := by
  unfold firstUnknown
  rw [List.find?_cons, decide_eq_true h]

theorem firstUnknown_of_known {m : Marker} {ms : List Marker}
    (h : ¬(unknown = .error ∧ g.declares m = false)) :
    firstUnknown g unknown (m :: ms) = firstUnknown g unknown ms := by
  unfold firstUnknown
  rw [List.find?_cons, decide_eq_false h]

theorem firstUnknown_empty (g : Graph) (ms : List Marker) : firstUnknown g .empty ms = none := by
  unfold firstUnknown
  rw [List.find?_eq_none]
  intro m _
  simp only [reduceCtorEq, false_and, decide_false, Bool.false_eq_true, not_false_eq_true]

theorem checkMarkers_result (g : Graph) (unknown : UnknownMarkers) (ms : List Marker) :
    (checkMarkers g unknown ms).result =
      match firstUnknown g unknown ms with
      | some m => .error (.unknownMarker m)
      | none => .ok () := by
  induction ms with
  | nil => rfl
  | cons m ms ih =>
    rw [checkMarkers, Traced.result_bind, Graph.checkDeclared_result]
    by_cases h : unknown = .error ∧ g.declares m = false
    · rw [if_pos h, firstUnknown_of_unknown h]
      rfl
    · rw [if_neg h, firstUnknown_of_known h]
      exact ih

/-- Looks up the markers of a statement: the obligation's are only checked, and the two ends are
looked up. -/
def lookUp (s : Statement) (g : Graph) (unknown : UnknownMarkers) : Traced (NodeSet × NodeSet) := do
  checkMarkers g unknown (Marker.orderedSet s.obligation.markers)
  let sources ← g.resolve unknown s.source
  let destinations ← g.resolve unknown s.destination
  pure (sources, destinations)

/-- Looking up the markers stops at the first unknown one and finds what the ends stand for if there
is none. -/
theorem lookUp_result (s : Statement) (g : Graph) (unknown : UnknownMarkers) :
    (s.lookUp g unknown).result =
      match firstUnknown g unknown s.lookups with
      | some m => .error (.unknownMarker m)
      | none => .ok (g.marked s.source, g.marked s.destination) := by
  have happend : firstUnknown g unknown s.lookups =
      (firstUnknown g unknown (Marker.orderedSet s.obligation.markers)).or
        (firstUnknown g unknown [s.source, s.destination]) := List.find?_append
  unfold lookUp
  rw [Traced.result_bind, checkMarkers_result, happend]
  cases firstUnknown g unknown (Marker.orderedSet s.obligation.markers) with
  | some m => rfl
  | none =>
    -- the obligation's markers are known; next come the source and then the destination
    change (g.resolve unknown s.source >>= _).result = _
    rw [Option.none_or, Traced.result_bind, Graph.resolve_result]
    by_cases hsource : unknown = .error ∧ g.declares s.source = false
    · rw [if_pos hsource, firstUnknown_of_unknown hsource]
      rfl
    rw [if_neg hsource, firstUnknown_of_known hsource]
    change (g.resolve unknown s.destination >>= _).result = _
    rw [Traced.result_bind, Graph.resolve_result]
    by_cases hdestination : unknown = .error ∧ g.declares s.destination = false
    · rw [if_pos hdestination, firstUnknown_of_unknown hdestination]
      rfl
    · rw [if_neg hdestination, firstUnknown_of_known hdestination]
      rfl

/-! ## Verdicts -/

/-- What comes after the markers of a statement have been looked up, for some way to check the
obligation. -/
def proceed (s : Statement) (g : Graph) (exhaustive : Bool)
    (check : NodeSet → List Node → Traced Verdict) (destinations : NodeSet)
    (sources : List Node) : Traced Verdict := do
  .tell (.resolved s.name sources.length destinations.size s.sourceQuantifier
    s.destinationQuantifier)
  match s.noFlows g exhaustive destinations sources with
  | [] => check destinations sources
  | vs => pure ⟨s.name, vs⟩

theorem evaluate_eq_lookUp (s : Statement) (g : Graph) (exhaustive : Bool)
    (unknown : UnknownMarkers) :
    s.evaluate g exhaustive unknown = s.lookUp g unknown >>= fun ends =>
      s.proceed g exhaustive (s.checkAll g exhaustive) ends.2 ends.1.nodes := by
  rw [evaluate_eq]
  unfold lookUp
  simp only [bind_assoc, pure_bind]
  rfl

/-- The verdict on a statement whose markers are known. -/
def judge (s : Statement) (g : Graph) (exhaustive : Bool) : Traced Verdict :=
  match s.noFlows g exhaustive (g.marked s.destination) (g.marked s.source).nodes with
  | [] => s.checkAll g exhaustive (g.marked s.destination) (g.marked s.source).nodes
  | vs => pure ⟨s.name, vs⟩

/-- An evaluation stops at the first unknown marker and judges the statement if there is none. -/
theorem evaluate_result (s : Statement) (g : Graph) (exhaustive : Bool)
    (unknown : UnknownMarkers) :
    (s.evaluate g exhaustive unknown).result =
      match firstUnknown g unknown s.lookups with
      | some m => .error (.unknownMarker m)
      | none => (s.judge g exhaustive).result := by
  rw [evaluate_eq_lookUp, Traced.result_bind, lookUp_result]
  cases firstUnknown g unknown s.lookups <;> rfl

/-- Every failure of a statement: those of the condition on every source, or else those of the
obligation. -/
def found (s : Statement) (g : Graph) : List Violation :=
  match s.noFlows g true (g.marked s.destination) (g.marked s.source).nodes with
  | [] => s.unmets g (g.marked s.destination) (g.marked s.source).nodes
  | vs => vs

theorem noFlows_eq_recorded (s : Statement) (g : Graph) (exhaustive : Bool)
    (destinations : NodeSet) (sources : List Node) :
    s.noFlows g exhaustive destinations sources =
      recorded exhaustive (s.noFlows g true destinations sources) := by
  unfold noFlows
  cases s.plan.entry with
  | none => rw [recorded_nil]
  | some entry => exact recorded_map exhaustive _ _

theorem checkAll_result {destinations : NodeSet} {sources : List Node}
    (hanswers : s.AnswersAll g destinations sources) :
    (s.checkAll g exhaustive destinations sources).result =
      .ok ⟨s.name, recorded exhaustive (s.unmets g destinations sources)⟩ := by
  obtain ⟨hpassed, hviolations⟩ := s.checkSources_records exhaustive hanswers {}
  rw [checkAll_eq]
  simp only
  rw [hpassed, hviolations]
  rfl

/-- What a statement asks of its obligation, if it comes to that, has answers. -/
def Answered (s : Statement) (g : Graph) : Prop :=
  s.noFlows g true (g.marked s.destination) (g.marked s.source).nodes = [] →
    s.AnswersAll g (g.marked s.destination) (g.marked s.source).nodes

theorem answered_of_answers (hpure : s.obligation.Answers g) : s.Answered g :=
  fun _ a _ _ => answersFor_of_answers hpure a _

theorem judge_result (hanswered : s.Answered g) :
    (s.judge g exhaustive).result = .ok ⟨s.name, recorded exhaustive (s.found g)⟩ := by
  unfold judge found
  rw [noFlows_eq_recorded]
  cases h : s.noFlows g true (g.marked s.destination) (g.marked s.source).nodes with
  | nil =>
    rw [recorded_nil]
    exact checkAll_result (hanswered h)
  | cons v vs => cases exhaustive <;> rfl

/-- If some mode meets no unknown marker and the obligation is pure, every mode gives the failures
of the statement, all of them or the first. -/
theorem evaluate_ok {mode : Bool} (hpure : s.obligation.Answers g)
    (hknown : ∀ m, (s.evaluate g mode unknown).result ≠ .error (.unknownMarker m)) :
    (s.evaluate g exhaustive unknown).result =
      .ok ⟨s.name, recorded exhaustive (s.found g)⟩ := by
  rw [evaluate_result]
  cases h : firstUnknown g unknown s.lookups with
  | none => exact judge_result (answered_of_answers hpure)
  | some m =>
    refine absurd ?_ (hknown m)
    rw [evaluate_result, h]

end Statement

end InfoFlow
