import InfoFlow.Proofs.Evaluation.Meaning
import InfoFlow.Proofs.Obligation.Lookup
/-!
# Unknown markers

If an unknown marker is an error, the markers of a statement are checked before its obligation is
asked anything: those of the obligation in the order of their texts, then the source, then the
destination. The first one that the graph does not declare ends the evaluation. Once they are all
declared, the look-ups inside the obligation find declared markers only, so what they do with others
does not matter.
-/

namespace InfoFlow

namespace Statement

variable {s : Statement} {g : Graph} {exhaustive : Bool}

/-! ## Evaluation with another look-up inside obligations -/

/-- Goes on after a source as the mode says, if it may. -/
def goOn (exhaustive : Bool) (c : Checked) (next : Tally → Checked) : Checked :=
  match c.passed with
  | .error _ => c
  | .ok true => (next c.tally).after c.events
  | .ok false => if exhaustive then (next c.tally).butFailed.after c.events else c

/-- The verdict that the checks of a statement come to. -/
def conclude (s : Statement) (c : Checked) : Traced Verdict :=
  match c.passed with
  | .error e => ⟨c.events, .error e⟩
  | .ok _ =>
    ⟨c.events ++ [.finished s.name c.tally.evaluations c.tally.violations.length],
      .ok ⟨s.name, c.tally.violations⟩⟩

-- The next four definitions are the ones they are named after, with `look` inside the obligation.

def checkSourceBy (look : Marker → Traced NodeSet) (s : Statement) (g : Graph)
    (exhaustive : Bool) (source : Node) (premise : NodeSet) : Tally → Checked :=
  match s.obligation with
  | .pair f =>
    s.checkPairs exhaustive source (fun d => f.evaluate (PairAtom.testBy look g source d))
      premise.nodes
  | .set f =>
    s.checkOnce exhaustive source none (f.evaluate (SetAtom.testBy look g source premise))
      checkNone

def checkSourcesBy (look : Marker → Traced NodeSet) (s : Statement) (g : Graph)
    (exhaustive : Bool) (destinations : NodeSet) : List Node → Tally → Checked
  | [] => checkNone
  | a :: as => fun t =>
    let premise := s.premise g a destinations
    if !s.plan.trigger.passes premise destinations then
      checkSourcesBy look s g exhaustive destinations as t
    else
      goOn exhaustive (s.checkSourceBy look g exhaustive a premise t)
        (checkSourcesBy look s g exhaustive destinations as)

def checkAllBy (look : Marker → Traced NodeSet) (s : Statement) (g : Graph) (exhaustive : Bool)
    (destinations : NodeSet) (sources : List Node) : Traced Verdict :=
  s.conclude (s.checkSourcesBy look g exhaustive destinations sources {})

def evaluateBy (look : Marker → Traced NodeSet) (s : Statement) (g : Graph) (exhaustive : Bool)
    (unknown : UnknownMarkers) : Traced Verdict := do
  -- what is checked before the obligation is asked anything is looked up as ever
  checkMarkers g unknown (Marker.orderedSet s.obligation.markers)
  let sources := (← g.resolve unknown s.source).nodes
  let destinations ← g.resolve unknown s.destination
  s.proceed g exhaustive (s.checkAllBy look g exhaustive) destinations sources

variable {look : Marker → Traced NodeSet}

theorem checkSourceBy_eq (h : g.AgreesOn look s.obligation.markers) (source : Node)
    (premise : NodeSet) :
    s.checkSourceBy look g exhaustive source premise =
      s.checkSource g exhaustive source premise := by
  unfold checkSourceBy
  rw [checkSource_eq]
  cases hf : s.obligation with
  | pair f =>
    rw [hf] at h
    have htest : (fun d => f.evaluate (PairAtom.testBy look g source d)) =
        f.holdsOfPair g source := funext fun d => f.evaluate_testBy_pair h source d
    show s.checkPairs exhaustive source _ premise.nodes = _
    rw [htest]
  | set f =>
    rw [hf] at h
    have htest := f.evaluate_testBy_set h source premise
    show s.checkOnce exhaustive source none _ checkNone = _
    rw [htest]

theorem checkSources_cons_eq_goOn (s : Statement) (g : Graph) (exhaustive : Bool)
    (destinations : NodeSet) (a : Node) (sources : List Node) (t : Tally) :
    s.checkSources g exhaustive destinations (a :: sources) t =
      if !s.plan.trigger.passes (s.premise g a destinations) destinations then
        s.checkSources g exhaustive destinations sources t
      else
        goOn exhaustive (s.checkSource g exhaustive a (s.premise g a destinations) t)
          (s.checkSources g exhaustive destinations sources) := rfl

theorem checkSourcesBy_cons (look : Marker → Traced NodeSet) (s : Statement) (g : Graph)
    (exhaustive : Bool) (destinations : NodeSet) (a : Node) (sources : List Node) (t : Tally) :
    s.checkSourcesBy look g exhaustive destinations (a :: sources) t =
      if !s.plan.trigger.passes (s.premise g a destinations) destinations then
        s.checkSourcesBy look g exhaustive destinations sources t
      else
        goOn exhaustive (s.checkSourceBy look g exhaustive a (s.premise g a destinations) t)
          (s.checkSourcesBy look g exhaustive destinations sources) := rfl

theorem checkSourcesBy_eq (h : g.AgreesOn look s.obligation.markers) (destinations : NodeSet)
    (sources : List Node) :
    s.checkSourcesBy look g exhaustive destinations sources =
      s.checkSources g exhaustive destinations sources := by
  induction sources with
  | nil => rfl
  | cons a sources ih =>
    funext t
    rw [checkSourcesBy_cons, checkSources_cons_eq_goOn, checkSourceBy_eq h, ih]

theorem checkAllBy_eq (h : g.AgreesOn look s.obligation.markers) :
    s.checkAllBy look g exhaustive = s.checkAll g exhaustive := by
  funext destinations sources
  rw [checkAllBy, checkSourcesBy_eq h]
  rfl

/-- An evaluation is the one whose obligation takes undeclared markers for no node. -/
theorem evaluateBy_resolve_empty (s : Statement) (g : Graph) (exhaustive : Bool)
    (unknown : UnknownMarkers) :
    s.evaluateBy (g.resolve .empty) g exhaustive unknown = s.evaluate g exhaustive unknown := by
  have h : g.AgreesOn (g.resolve .empty) s.obligation.markers := fun _ _ => rfl
  unfold evaluateBy
  rw [checkAllBy_eq h, evaluate_eq]
  rfl

end Statement

/-! ## Nothing unknown is met after the checks -/

/-- No marker was taken for no node, and no marker is the fault. -/
structure Checked.Known (c : Checked) : Prop where
  declared : ∀ m, Event.undeclared m ∉ c.events
  passed : ∀ m, c.passed ≠ .error (.unknownMarker m)

namespace Checked.Known

variable {c : Checked} {es : List Event}

theorem after (h : c.Known) (hes : ∀ m, Event.undeclared m ∉ es) : (c.after es).Known := by
  refine ⟨fun m hm => ?_, h.passed⟩
  rcases List.mem_append.1 hm with hm | hm
  · exact hes m hm
  · exact h.declared m hm

theorem butFailed (h : c.Known) : c.butFailed.Known := by
  refine ⟨h.declared, fun m hm => h.passed m ?_⟩
  unfold Checked.butFailed at hm
  cases hpassed : c.passed with
  | error e =>
    simp only [hpassed] at hm
    rw [Except.error.inj hm]
  | ok b =>
    simp only [hpassed] at hm
    exact nomatch hm

end Checked.Known

namespace Statement

variable {s : Statement} {g : Graph} {exhaustive : Bool} {source : Node}

theorem checkNone_known (t : Tally) : (checkNone t).Known := ⟨fun _ => List.not_mem_nil, nofun⟩

theorem checkOnce_known (s : Statement) (exhaustive : Bool) (source : Node)
    (destination : Option Node) {test : Traced Bool} {next : Tally → Checked} (htest : test.Known)
    (hnext : ∀ t, (next t).Known) (t : Tally) :
    (s.checkOnce exhaustive source destination test next t).Known := by
  unfold checkOnce
  cases hresult : test.result with
  | error e =>
    refine ⟨htest.declared, fun m hm => htest.result m ?_⟩
    rw [hresult, Except.error.inj hm]
  | ok b =>
    cases b with
    | true => exact (hnext _).after htest.declared
    | false =>
      have htold (m : Marker) : Event.undeclared m ∉
          test.events ++ [.unmet s.name s.obligation.label source destination] := by
        intro hm
        rcases List.mem_append.1 hm with hm | hm
        · exact htest.declared m hm
        · exact nomatch List.mem_singleton.1 hm
      cases exhaustive with
      | true => exact (hnext _).butFailed.after htold
      | false => exact ⟨htold, nofun⟩

theorem checkPairs_known {test : Node → Traced Bool} (htest : ∀ d, (test d).Known)
    (ds : List Node) (t : Tally) : (s.checkPairs exhaustive source test ds t).Known := by
  induction ds generalizing t with
  | nil => exact checkNone_known t
  | cons d ds ih => exact s.checkOnce_known exhaustive source (some d) (htest d) ih t

theorem checkSource_known (h : g.DeclaresAll s.obligation.markers) (exhaustive : Bool)
    (source : Node) (premise : NodeSet) (t : Tally) :
    (s.checkSource g exhaustive source premise t).Known := by
  rw [checkSource_eq]
  cases hf : s.obligation with
  | pair f =>
    rw [hf] at h
    exact checkPairs_known (fun d => f.holdsOfPair_known h source d) premise.nodes t
  | set f =>
    rw [hf] at h
    have htest := f.holdsOfSet_known h source premise
    exact s.checkOnce_known exhaustive source none htest checkNone_known t

theorem goOn_known {c : Checked} {next : Tally → Checked} (hc : c.Known)
    (hnext : ∀ t, (next t).Known) (exhaustive : Bool) : (goOn exhaustive c next).Known := by
  unfold goOn
  cases hpassed : c.passed with
  | error e => exact hc
  | ok passed =>
    cases passed with
    | true => exact (hnext _).after hc.declared
    | false =>
      cases exhaustive with
      | true => exact (hnext _).butFailed.after hc.declared
      | false => exact hc

theorem checkSources_known (h : g.DeclaresAll s.obligation.markers) (exhaustive : Bool)
    (destinations : NodeSet) (sources : List Node) (t : Tally) :
    (s.checkSources g exhaustive destinations sources t).Known := by
  induction sources generalizing t with
  | nil => exact checkNone_known t
  | cons a sources ih =>
    rw [checkSources_cons_eq_goOn]
    cases s.plan.trigger.passes (s.premise g a destinations) destinations with
    | false => exact ih t
    | true => exact goOn_known (checkSource_known h exhaustive a _ t) ih exhaustive

theorem conclude_known {c : Checked} (hc : c.Known) (s : Statement) : (s.conclude c).Known := by
  unfold conclude
  cases hpassed : c.passed with
  | error e =>
    refine ⟨hc.declared, fun m hm => hc.passed m ?_⟩
    rw [hpassed, Except.error.inj hm]
  | ok b =>
    refine ⟨fun m hm => ?_, nofun⟩
    rcases List.mem_append.1 hm with hm | hm
    · exact hc.declared m hm
    · exact nomatch List.mem_singleton.1 hm

/-- With the markers of the obligation declared, nothing unknown is met any more. -/
theorem proceed_known (h : g.DeclaresAll s.obligation.markers) (exhaustive : Bool)
    (destinations : NodeSet) (sources : List Node) :
    (s.proceed g exhaustive (s.checkAll g exhaustive) destinations sources).Known := by
  have htold : (Traced.tell (.resolved s.name sources.length destinations.size
      s.sourceQuantifier s.destinationQuantifier)).Known := by
    refine ⟨fun m hm => ?_, nofun⟩
    exact nomatch List.mem_singleton.1 hm
  unfold proceed
  refine htold.bind fun _ => ?_
  cases s.noFlows g exhaustive destinations sources with
  | nil => exact conclude_known (checkSources_known h exhaustive destinations sources {}) s
  | cons v vs => exact .pure _

end Statement

/-! ## The first undeclared marker -/

theorem Marker.mem_orderedSet {ms : List Marker} {m : Marker} : m ∈ orderedSet ms ↔ m ∈ ms := by
  unfold orderedSet ordered
  rw [Ordered.mem_sortBy, List.mem_eraseDups]

/-- A marker is the first of some, in the order of their texts, that the graph does not declare. -/
def Graph.MissesFirst (g : Graph) (ms : List Marker) (m : Marker) : Prop :=
  m ∈ ms ∧ g.declares m = false ∧ ∀ n ∈ ms, n.text < m.text → g.declares n = true

/-- Markers with the same text are the same, so there is one first marker at most. -/
theorem Graph.MissesFirst.unique {g : Graph} {ms : List Marker} {m n : Marker}
    (hm : g.MissesFirst ms m) (hn : g.MissesFirst ms n) : m = n := by
  have hle (k l : Marker) (hk : g.MissesFirst ms k) (hl : g.MissesFirst ms l) :
      k.text ≤ l.text := by
    refine String.not_lt.1 fun hlt => ?_
    have hdeclared := hk.2.2 l hl.1 hlt
    rw [hl.2.1] at hdeclared
    exact Bool.false_ne_true hdeclared
  exact Marker.eq_of_text (String.le_antisymm (hle m n hm hn) (hle n m hn hm))

namespace Statement

variable {s : Statement} {g : Graph} {m : Marker}

/-- A marker of a statement is the first one that the graph does not declare: first in the order of
their texts come the markers of the obligation, then the source, and then the destination. -/
def FirstUndeclared (s : Statement) (g : Graph) (m : Marker) : Prop :=
  g.MissesFirst s.obligation.markers m ∨
    g.DeclaresAll s.obligation.markers ∧
      (g.declares s.source = false ∧ m = s.source ∨
        g.declares s.source = true ∧ g.declares s.destination = false ∧ m = s.destination)

theorem firstUnknown_eq_none_iff {ms : List Marker} :
    firstUnknown g .error ms = none ↔ g.DeclaresAll ms := by
  unfold firstUnknown Graph.DeclaresAll
  simp only [List.find?_eq_none, true_and, decide_eq_true_eq, Bool.not_eq_false]

theorem missesFirst_of_firstUnknown {ms : List Marker}
    (h : firstUnknown g .error (Marker.orderedSet ms) = some m) : g.MissesFirst ms m := by
  -- in front of the marker that is found, everything is declared
  obtain ⟨hm, before, rest, hsplit, hbefore⟩ := List.find?_eq_some_iff_append.1 h
  simp only [true_and, decide_eq_true_eq] at hm
  simp only [true_and, Bool.not_eq_true', decide_eq_false_iff_not, Bool.not_eq_false] at hbefore
  have hplace {n : Marker} : n ∈ ms ↔ n ∈ before ++ m :: rest := by
    rw [← hsplit, Marker.mem_orderedSet]
  refine ⟨hplace.2 (List.mem_append_right before List.mem_cons_self), hm, fun n hn hlt => ?_⟩
  -- what comes after the marker has no smaller text, so the other one comes before it
  have hascending : Ordered.Ascending Marker.text (before ++ m :: rest) := by
    rw [← hsplit]
    exact Ordered.ascending_sortBy _ _
  have hafter := (List.pairwise_cons.1 (List.pairwise_append.1 hascending).2.1).1
  rcases List.mem_append.1 (hplace.1 hn) with hn | hn
  · exact hbefore n hn
  · rcases List.mem_cons.1 hn with rfl | hn
    · exact absurd hlt (String.lt_irrefl _)
    · exact absurd hlt (hafter n hn)

theorem firstUnknown_orderedSet_iff {ms : List Marker} :
    firstUnknown g .error (Marker.orderedSet ms) = some m ↔ g.MissesFirst ms m := by
  refine ⟨missesFirst_of_firstUnknown, fun h => ?_⟩
  cases hfirst : firstUnknown g .error (Marker.orderedSet ms) with
  | none =>
    have hdeclared := firstUnknown_eq_none_iff.1 hfirst m (Marker.mem_orderedSet.2 h.1)
    rw [h.2.1] at hdeclared
    exact absurd hdeclared Bool.false_ne_true
  | some n => rw [h.unique (missesFirst_of_firstUnknown hfirst)]

theorem declaresAll_orderedSet_iff {ms : List Marker} :
    g.DeclaresAll (Marker.orderedSet ms) ↔ g.DeclaresAll ms := by
  unfold Graph.DeclaresAll
  simp only [Marker.mem_orderedSet]

theorem not_unknown_of_declares (h : g.declares m = true) :
    ¬(UnknownMarkers.error = .error ∧ g.declares m = false) := by
  rw [h]
  nofun

theorem firstUnknown_cons_iff {n : Marker} {ms : List Marker} :
    firstUnknown g .error (n :: ms) = some m ↔
      g.declares n = false ∧ m = n ∨ g.declares n = true ∧ firstUnknown g .error ms = some m := by
  cases hn : g.declares n with
  | false =>
    rw [firstUnknown_of_unknown ⟨rfl, hn⟩, Option.some.injEq]
    simp only [true_and, Bool.false_eq_true, false_and, or_false, eq_comm]
  | true =>
    rw [firstUnknown_of_known (not_unknown_of_declares hn)]
    simp only [Bool.true_eq_false, true_and, false_and, false_or]

theorem firstUnknown_lookups (s : Statement) (g : Graph) :
    firstUnknown g .error s.lookups =
      (firstUnknown g .error (Marker.orderedSet s.obligation.markers)).or
        (firstUnknown g .error [s.source, s.destination]) := List.find?_append

/-- The look-ups of a statement come upon the first undeclared marker first. -/
theorem firstUnknown_lookups_iff :
    firstUnknown g .error s.lookups = some m ↔ s.FirstUndeclared g m := by
  have hnil : firstUnknown g .error [] ≠ some m := nofun
  unfold FirstUndeclared
  rw [firstUnknown_lookups, Option.or_eq_some_iff, firstUnknown_orderedSet_iff,
    firstUnknown_eq_none_iff, declaresAll_orderedSet_iff]
  simp only [firstUnknown_cons_iff, hnil, and_false, or_false]

theorem declaresAll_of_firstUnknown (h : firstUnknown g .error s.lookups = none) :
    g.DeclaresAll s.obligation.markers :=
  declaresAll_orderedSet_iff.1 (firstUnknown_eq_none_iff.1 h).left

theorem declaresAll_lookups_iff : g.DeclaresAll s.lookups ↔ g.DeclaresAll s.markers := by
  unfold Graph.DeclaresAll lookups markers
  simp only [List.mem_append, List.mem_cons, Marker.mem_orderedSet, List.not_mem_nil, or_false]
  constructor
  · rintro h n (hn | hn | hn)
    · exact h n (.inr (.inl hn))
    · exact h n (.inr (.inr hn))
    · exact h n (.inl hn)
  · rintro h n (hn | hn | hn)
    · exact h n (.inr (.inr hn))
    · exact h n (.inl hn)
    · exact h n (.inr (.inl hn))

theorem firstUnknown_lookups_eq_none_iff {unknown : UnknownMarkers} :
    firstUnknown g unknown s.lookups = none ↔ (unknown = .error → g.DeclaresAll s.markers) := by
  cases unknown with
  | error => simp only [firstUnknown_eq_none_iff, declaresAll_lookups_iff, forall_const]
  | empty => exact iff_of_true (firstUnknown_empty g s.lookups) nofun

/-! ## Verdicts and unknown markers -/

variable {exhaustive : Bool}

theorem checkMarkers_error (g : Graph) (ms : List Marker) :
    checkMarkers g .error ms =
      match firstUnknown g .error ms with
      | some m => .fault (.unknownMarker m)
      | none => pure () := by
  induction ms with
  | nil => rfl
  | cons m ms ih =>
    rw [checkMarkers]
    unfold Graph.checkDeclared
    cases hm : g.declares m with
    | true =>
      rw [firstUnknown_of_known (not_unknown_of_declares hm), if_pos rfl, pure_bind, ih]
    | false =>
      rw [firstUnknown_of_unknown ⟨rfl, hm⟩]
      rfl

theorem resolve_error_of_undeclared (h : g.declares m = false) :
    g.resolve .error m = .fault (.unknownMarker m) := by
  unfold Graph.resolve Graph.checkDeclared
  rw [h]
  rfl

/-- An evaluation faults at the first undeclared marker and has told of nothing then, or it goes on
with the nodes that the two ends stand for, whatever the look-up inside the obligation. -/
theorem evaluateBy_error (look : Marker → Traced NodeSet) (s : Statement) (g : Graph)
    (exhaustive : Bool) :
    s.evaluateBy look g exhaustive .error =
      match firstUnknown g .error s.lookups with
      | some m => .fault (.unknownMarker m)
      | none =>
        s.proceed g exhaustive (s.checkAllBy look g exhaustive) (g.carriers s.destination)
          (g.carriers s.source).nodes := by
  unfold evaluateBy
  rw [firstUnknown_lookups, checkMarkers_error]
  cases firstUnknown g .error (Marker.orderedSet s.obligation.markers) with
  | some m => rfl
  | none =>
    -- the obligation's markers are known; next come the source and then the destination
    simp only [Option.none_or, pure_bind]
    cases hsource : g.declares s.source with
    | false =>
      rw [firstUnknown_of_unknown ⟨rfl, hsource⟩, resolve_error_of_undeclared hsource]
      rfl
    | true =>
      rw [firstUnknown_of_known (not_unknown_of_declares hsource),
        Graph.resolve_of_declares hsource, pure_bind]
      cases hdestination : g.declares s.destination with
      | false =>
        rw [firstUnknown_of_unknown ⟨rfl, hdestination⟩, resolve_error_of_undeclared hdestination]
        rfl
      | true =>
        rw [firstUnknown_of_known (not_unknown_of_declares hdestination),
          Graph.resolve_of_declares hdestination, pure_bind]
        rfl

theorem evaluate_error (s : Statement) (g : Graph) (exhaustive : Bool) :
    s.evaluate g exhaustive .error =
      match firstUnknown g .error s.lookups with
      | some m => .fault (.unknownMarker m)
      | none =>
        s.proceed g exhaustive (s.checkAll g exhaustive) (g.carriers s.destination)
          (g.carriers s.source).nodes := by
  have h : g.AgreesOn (g.resolve .empty) s.obligation.markers := fun _ _ => rfl
  rw [← evaluateBy_resolve_empty, evaluateBy_error, checkAllBy_eq h]

/-- The fault of an evaluation is about a marker exactly if that is the first undeclared one. -/
theorem evaluate_result_eq_unknown_iff :
    (s.evaluate g exhaustive .error).result = .error (.unknownMarker m) ↔
      s.FirstUndeclared g m := by
  rw [evaluate_error, ← firstUnknown_lookups_iff]
  cases hfirst : firstUnknown g .error s.lookups with
  | some n =>
    change (Except.error (.unknownMarker n) : Except Fault Verdict) = _ ↔ _
    simp only [Except.error.injEq, Fault.unknownMarker.injEq, Option.some.injEq]
  | none =>
    have hdeclared := declaresAll_of_firstUnknown hfirst
    exact iff_of_false ((proceed_known hdeclared exhaustive _ _).result m) nofun

/-- Some marker is the fault of an evaluation exactly if some marker of the statement is not
declared. -/
theorem exists_unknown_iff :
    (∃ m, (s.evaluate g exhaustive .error).result = .error (.unknownMarker m)) ↔
      ∃ m ∈ s.markers, g.declares m = false := by
  simp only [evaluate_result_eq_unknown_iff, ← firstUnknown_lookups_iff]
  rw [← Option.isSome_iff_exists, Option.isSome_iff_ne_none, ne_eq, firstUnknown_eq_none_iff,
    declaresAll_lookups_iff]
  unfold Graph.DeclaresAll
  simp only [Classical.not_forall, Bool.not_eq_true, exists_prop]

/-- The look-ups inside the obligation find declared markers only: whatever another look-up does
with undeclared ones, the evaluation is the same. -/
theorem evaluateBy_eq (s : Statement) (exhaustive : Bool) {look : Marker → Traced NodeSet}
    (hlook : ∀ m, g.declares m = true → look m = pure (g.carriers m)) :
    s.evaluateBy look g exhaustive .error = s.evaluate g exhaustive .error := by
  rw [evaluate_error, evaluateBy_error]
  cases hfirst : firstUnknown g .error s.lookups with
  | some m => rfl
  | none =>
    have hdeclared := declaresAll_of_firstUnknown hfirst
    rw [checkAllBy_eq (hdeclared.agreesOn hlook)]

theorem undeclared_not_mem_events (s : Statement) (g : Graph) (exhaustive : Bool) (m : Marker) :
    Event.undeclared m ∉ (s.evaluate g exhaustive .error).events := by
  rw [evaluate_error]
  cases hfirst : firstUnknown g .error s.lookups with
  | some n => exact List.not_mem_nil
  | none =>
    have hdeclared := declaresAll_of_firstUnknown hfirst
    exact (proceed_known hdeclared exhaustive _ _).declared m

/-- If unknown markers are errors, the first undeclared marker of a statement is the fault, and only
such a one is. Then nothing has happened yet: any statement with the same ends and markers comes to
the same, whatever its obligation asks. Once the checks pass, no undeclared marker is looked up
inside the obligation: no event tells of one, and a look-up inside the obligation that differs on
undeclared markers, such as one for which they are errors, leaves the evaluation as it is. -/
theorem evaluate_checks_markers (s : Statement) (g : Graph) (exhaustive : Bool) :
    ((∃ m, (s.evaluate g exhaustive .error).result = .error (.unknownMarker m)) ↔
        ∃ m ∈ s.markers, g.declares m = false) ∧
      (∀ m, (s.evaluate g exhaustive .error).result = .error (.unknownMarker m) ↔
        s.FirstUndeclared g m) ∧
      (∀ m (t : Statement), s.FirstUndeclared g m → t.source = s.source →
        t.destination = s.destination → t.obligation.markers = s.obligation.markers →
        t.evaluate g exhaustive .error = ⟨[], .error (.unknownMarker m)⟩) ∧
      (∀ m, Event.undeclared m ∉ (s.evaluate g exhaustive .error).events) ∧
      (∀ inner, s.evaluateBy (g.resolve inner) g exhaustive .error =
        s.evaluate g exhaustive .error) ∧
      ∀ look : Marker → Traced NodeSet,
        (∀ m, g.declares m = true → look m = pure (g.carriers m)) →
        s.evaluateBy look g exhaustive .error = s.evaluate g exhaustive .error := by
  refine ⟨exists_unknown_iff, fun m => evaluate_result_eq_unknown_iff, ?_,
    s.undeclared_not_mem_events g exhaustive, fun inner => ?_, fun look hlook => ?_⟩
  · intro m t hfirst hsource hdestination hmarkers
    have hlookups : t.lookups = s.lookups := by
      unfold lookups
      rw [hsource, hdestination, hmarkers]
    rw [← evaluateBy_resolve_empty, evaluateBy_error, hlookups, firstUnknown_lookups_iff.2 hfirst]
    rfl
  · exact s.evaluateBy_eq exhaustive fun m hm => Graph.resolve_of_declares hm inner
  · exact s.evaluateBy_eq exhaustive hlook

/-- Two markers that the graph of the ring does not declare. -/
def review : Marker := ⟨"review", by decide⟩

def audit : Marker := ⟨"audit", by decide⟩

/-- A peer reaches a peer past a review or under the control of all peers, and is audited. -/
def gatedStatement : Statement where
  name := "gated"
  source := peer
  destination := peer
  kind := .data
  sourceQuantifier := .some
  destinationQuantifier := .some
  obligation := .pair (.allOf [
    .anyOf [.atom (.through review .source .destination),
      .atom (.influence (.marked peer .all) .destination .control)],
    .atom (.authorized audit .destination "destination")])
  name_ne_blank := by decide
  all_of_set := nofun

/-- The same markers on a predicate whose calls are told. -/
def toldStatement : Statement where
  name := "told"
  source := peer
  destination := peer
  kind := .data
  sourceQuantifier := .some
  destinationQuantifier := .some
  obligation := .custom .pair
    { name := "told", markers := [review, peer, audit], tag := some "told"
      holds := fun _ _ _ => false }
  name_ne_blank := by decide
  all_of_set := nofun

/-- The ring, with all these markers declared. -/
def auditedGraph : Graph := { ringGraph with declared := [peer, review, audit] }

/-- The marker that is first in the order of texts is the fault, though it is written last. With all
of them declared there is a verdict, also if unknown markers are errors inside the obligation. -/
theorem gatedStatement_unknown :
    gatedStatement.FirstUndeclared ringGraph audit ∧
      toldStatement.evaluate ringGraph false .error = ⟨[], .error (.unknownMarker audit)⟩ ∧
      (∀ m, auditedGraph.declares m = true →
        auditedGraph.resolve .error m = pure (auditedGraph.carriers m)) ∧
      gatedStatement.evaluateBy (auditedGraph.resolve .error) auditedGraph false .error =
        gatedStatement.evaluate auditedGraph false .error ∧
      (gatedStatement.evaluate auditedGraph false .error).result =
        .ok ⟨"gated", [gatedStatement.unmet (.int 0) (some (.int 0))]⟩ := by
  have hfirst : gatedStatement.FirstUndeclared ringGraph audit := by
    have hmarkers : ∀ n ∈ [review, peer, audit], n.text < audit.text →
        ringGraph.declares n = true := by decide
    exact .inl ⟨by decide, by decide, hmarkers⟩
  have hlook (m : Marker) (hm : auditedGraph.declares m = true) :
      auditedGraph.resolve .error m = pure (auditedGraph.carriers m) :=
    Graph.resolve_of_declares hm .error
  obtain ⟨-, -, hraised, -⟩ := evaluate_checks_markers gatedStatement ringGraph false
  obtain ⟨-, -, -, -, -, hsame⟩ := evaluate_checks_markers gatedStatement auditedGraph false
  exact ⟨hfirst, hraised audit toldStatement hfirst rfl rfl rfl, hlook, hsame _ hlook, rfl⟩

end Statement

end InfoFlow
