import InfoFlow.Proofs.Evaluation.Asking
/-!
# In which order the obligation is asked

A watch that tells of every question put to the obligation as a whole leaves the verdict as it is.
An exhaustive evaluation asks about the sources in their order, and for each of them about its
matched destinations in theirs, or once about the set of them. Any other evaluation asks the same
questions up to the first that is answered with no. Nothing is asked if a marker is unknown or if
some source misses what is asked of every source.
-/

namespace InfoFlow

/-! ## Telling of questions -/

/-- An answer of which only the call is told. -/
def Traced.toldAs (x : Traced Bool) (c : Call) : Traced Bool := ⟨[.called c], x.result⟩

/-- The watch that tells of the questions put to the whole obligation, under a tag. -/
def Watch.telling (tag : String) : Watch := fun depth _ a t x =>
  if depth = 0 then x.toldAs ⟨tag, a, t⟩ else x

/-- One call comes before another: its source does, or, for one source, its destination does. -/
def Call.Precedes (c d : Call) : Prop :=
  c.source.quoted < d.source.quoted ∨
    c.source = d.source ∧ ∃ a b, c.target = .node a ∧ d.target = .node b ∧ a.quoted < b.quoted

/-- Some calls up to the first that fails: all of them if none does, and otherwise those before it
and the call itself. -/
inductive Call.UpToFirst (fails : Call → Bool) : List Call → List Call → Prop where
  | none {cs : List Call} (hcs : ∀ c ∈ cs, fails c = false) : UpToFirst fails cs cs
  | some {cs ds : List Call} {c : Call} (hcs : ∀ c ∈ cs, fails c = false) (hc : fails c = true) :
    UpToFirst fails (cs ++ c :: ds) (cs ++ [c])

/-- The calls that a mode makes of some calls: all, or those up to the first that fails. -/
def Call.Made (exhaustive : Bool) (fails : Call → Bool) (cs made : List Call) : Prop :=
  if exhaustive then made = cs else UpToFirst fails cs made

namespace Call

variable {exhaustive : Bool} {fails : Call → Bool} {cs ds made more : List Call}

theorem made_nil (exhaustive : Bool) (fails : Call → Bool) : Made exhaustive fails [] [] := by
  cases exhaustive with
  | true => exact rfl
  | false => exact .none fun _ hc => nomatch hc

theorem made_singleton (exhaustive : Bool) (fails : Call → Bool) (c : Call) :
    Made exhaustive fails [c] [c] := by
  cases exhaustive with
  | true => exact rfl
  | false =>
    cases hc : fails c with
    | true =>
      have hnone : ∀ d ∈ ([] : List Call), fails d = false := fun _ hd => nomatch hd
      exact .some hnone hc
    | false => exact .none (List.forall_mem_singleton.2 hc)

/-- Nothing fails first, and the rest is made in the same mode. -/
theorem Made.append_of_none (h : Made exhaustive fails cs made)
    (hcs : ∀ c ∈ cs, fails c = false) (h' : Made exhaustive fails ds more) :
    Made exhaustive fails (cs ++ ds) (made ++ more) := by
  cases exhaustive with
  | true => exact congrArg₂ _ h h'
  | false =>
    cases (h : UpToFirst fails cs made) with
    | some _ hc => exact absurd hc (Bool.eq_false_iff.1 (hcs _ (by simp)))
    | none =>
      cases (h' : UpToFirst fails ds more) with
      | none hds => exact .none (List.forall_mem_append.2 ⟨hcs, hds⟩)
      | some hds hc =>
        rw [← List.append_assoc, ← List.append_assoc]
        exact .some (List.forall_mem_append.2 ⟨hcs, hds⟩) hc

/-- Something fails, and what comes after it is not made. -/
theorem Made.append_of_some (h : Made false fails cs made) (hcs : ∃ c ∈ cs, fails c = true)
    (ds : List Call) : Made false fails (cs ++ ds) made := by
  cases (h : UpToFirst fails cs made) with
  | none hnone =>
    obtain ⟨c, hmem, hc⟩ := hcs
    exact absurd hc (Bool.eq_false_iff.1 (hnone c hmem))
  | some hbefore hc =>
    rw [List.append_assoc, List.cons_append]
    exact .some hbefore hc

end Call

/-! ## The questions of a check -/

/-- A check goes through and has made some calls, as the mode says. -/
structure Checked.Puts (c : Checked) (exhaustive : Bool) (fails : Call → Bool) (cs : List Call) :
    Prop where
  passed : c.passed = .ok (cs.all fun x => !fails x)
  made : Call.Made exhaustive fails cs (Traced.calls c.events)

namespace Statement

variable {s : Statement} {g : Graph} {exhaustive : Bool} {unknown : UnknownMarkers}
  {fails : Call → Bool} {a : Node}

theorem goOn_puts {c : Checked} {next : Tally → Checked} {cs ds : List Call}
    (hc : c.Puts exhaustive fails cs) (hnext : ∀ t, (next t).Puts exhaustive fails ds) :
    (goOn exhaustive c next).Puts exhaustive fails (cs ++ ds) := by
  obtain ⟨hpassed, hmade⟩ := hc
  obtain ⟨hrest, hmore⟩ := hnext c.tally
  unfold goOn
  cases hall : cs.all fun x => !fails x with
  | true =>
    rw [hall] at hpassed
    have hnone : ∀ x ∈ cs, fails x = false := by simpa using hall
    rw [hpassed]
    refine ⟨?_, ?_⟩
    · rw [List.all_append, hall]
      exact hrest
    · show Call.Made _ _ _ (Traced.calls (c.events ++ _))
      rw [Traced.calls_append]
      exact hmade.append_of_none hnone hmore
  | false =>
    rw [hall] at hpassed
    have hsome : ∃ x ∈ cs, fails x = true := by simpa using hall
    have hfailed : (cs ++ ds).all (fun x => !fails x) = false := by
      rw [List.all_append, hall, Bool.false_and]
    rw [hpassed]
    cases exhaustive with
    | true =>
      refine ⟨?_, ?_⟩
      · rw [hfailed]
        exact congrArg (Except.map fun _ => false) hrest
      · show Call.Made _ _ _ (Traced.calls (c.events ++ _))
        rw [Traced.calls_append]
        exact congrArg₂ _ hmade hmore
    | false => exact ⟨hpassed.trans (congrArg _ hfailed.symm), hmade.append_of_some hsome ds⟩

theorem checkEach_puts {α : Type} {check : α → Tally → Checked} {calls : α → List Call}
    {xs : List α} (h : ∀ x ∈ xs, ∀ t, (check x t).Puts exhaustive fails (calls x)) (t : Tally) :
    (checkEach exhaustive check xs t).Puts exhaustive fails (xs.flatMap calls) := by
  induction xs generalizing t with
  | nil => exact ⟨rfl, Call.made_nil exhaustive fails⟩
  | cons x xs ih =>
    rw [List.flatMap_cons]
    exact goOn_puts (h x List.mem_cons_self t) (ih fun y hy => h y (List.mem_cons_of_mem x hy))

theorem askOnce_puts (s : Statement) (exhaustive : Bool) {x : Traced Bool} (hx : x.Answers)
    {c : Call} (hc : fails c = x.isNo) (source : Node) (destination : Option Node) (t : Tally) :
    (s.askOnce source destination (x.toldAs c) t).Puts exhaustive fails [c] := by
  obtain ⟨b, hb⟩ := hx
  have hmade := Call.made_singleton exhaustive fails c
  unfold Traced.isNo at hc
  rw [hb] at hc
  unfold askOnce Traced.toldAs
  rw [hb]
  cases b with
  | true => exact ⟨by simp [hc], hmade⟩
  | false => exact ⟨by simp [hc], hmade⟩

/-! ## The questions of a source -/

/-- Whether the obligation answers no to a call that asks about what it can be asked about. -/
def answersNo (s : Statement) (g : Graph) (c : Call) : Bool :=
  match s.obligation, c.target with
  | .pair f, .node b => (f.holdsOfPair g c.source b).isNo
  | .set f, .nodes p => (f.holdsOfSet g c.source p).isNo
  | _, _ => false

/-- What the obligation is asked about for a source: a matched destination, or the set of them. -/
def IsTarget (s : Statement) (g : Graph) (a : Node) (t : Target) : Prop :=
  match s.obligation, t with
  | .pair _, .node b => s.Matches g a b
  | .set _, .nodes p => ∀ b, b ∈ p ↔ s.Matches g a b
  | _, _ => False

/-- The questions about a source, in the order of its matched destinations. -/
def questions (s : Statement) (tag : String) (source : Node) (premise : NodeSet) : List Call :=
  match s.obligation with
  | .pair _ => premise.nodes.map fun d => ⟨tag, source, .node d⟩
  | .set _ => [⟨tag, source, .nodes premise⟩]

theorem holdsOfPairWatched_telling (tag : String) (f : Formula PairAtom) (d : Node) :
    f.holdsOfPairWatched (Watch.telling tag) g a d =
      (f.holdsOfPair g a d).toldAs ⟨tag, a, .node d⟩ :=
  f.evaluateWatched_eq 0 fun _ _ hdepth => if_neg (Nat.ne_of_gt hdepth)

theorem holdsOfSetWatched_telling (tag : String) (f : Formula SetAtom) (p : NodeSet) :
    f.holdsOfSetWatched (Watch.telling tag) g a p =
      (f.holdsOfSet g a p).toldAs ⟨tag, a, .nodes p⟩ :=
  f.evaluateWatched_eq 0 fun _ _ hdepth => if_neg (Nat.ne_of_gt hdepth)

theorem checkSourceWatched_puts (hpure : s.obligation.Answers g) (tag : String)
    (exhaustive : Bool) (source : Node) (premise : NodeSet) (t : Tally) :
    (s.checkSourceWatched (Watch.telling tag) g exhaustive source premise t).Puts exhaustive
      (s.answersNo g) (s.questions tag source premise) := by
  unfold checkSourceWatched questions
  unfold Obligation.Answers at hpure
  cases ho : s.obligation with
  | pair f =>
    rw [ho] at hpure
    have hasked : ∀ d ∈ premise.nodes, ∀ t, (s.askOnce source (some d)
        (f.holdsOfPairWatched (Watch.telling tag) g source d) t).Puts exhaustive (s.answersNo g)
          [⟨tag, source, .node d⟩] := by
      intro d _ t
      have hfails : s.answersNo g ⟨tag, source, .node d⟩ = (f.holdsOfPair g source d).isNo := by
        unfold answersNo
        rw [ho]
      rw [holdsOfPairWatched_telling]
      exact s.askOnce_puts exhaustive (hpure source d) hfails source (some d) t
    show (s.checkPairs exhaustive source _ premise.nodes t).Puts exhaustive _ _
    rw [checkPairs_eq_checkEach, List.map_eq_flatMap]
    exact checkEach_puts hasked t
  | set f =>
    rw [ho] at hpure
    have hfails : s.answersNo g ⟨tag, source, .nodes premise⟩ =
        (f.holdsOfSet g source premise).isNo := by
      unfold answersNo
      rw [ho]
    show (s.checkOnce exhaustive source none _ checkNone t).Puts exhaustive _ _
    rw [holdsOfSetWatched_telling, checkOnce_eq_goOn]
    have hasked := s.askOnce_puts exhaustive (hpure source premise) hfails source none t
    exact goOn_puts hasked fun _ => ⟨rfl, Call.made_nil exhaustive _⟩

/-! ## The questions of an evaluation -/

/-- The sources for which the obligation is asked, in order. -/
def askedSources (s : Statement) (g : Graph) : List Node :=
  match s.noFlows g true (g.marked s.destination) (g.marked s.source).nodes with
  | [] => s.triggering g (g.marked s.destination) (g.marked s.source).nodes
  | _ :: _ => []

/-- Every question that there is to ask of the obligation. -/
def allQuestions (s : Statement) (g : Graph) (tag : String) : List Call :=
  (s.askedSources g).flatMap fun a =>
    s.questions tag a (s.premise g a (g.marked s.destination))

/-- A call is a question that there is to ask of the obligation. -/
structure Poses (s : Statement) (g : Graph) (tag : String) (c : Call) : Prop where
  tag : c.tag = tag
  source : s.Asks g c.source
  target : s.IsTarget g c.source c.target

theorem askedSources_of_entered (h : ∀ b, g.Marked s.source b → ¬s.Misses g b) :
    s.askedSources g = s.triggering g (g.marked s.destination) (g.marked s.source).nodes := by
  unfold askedSources
  rw [(noFlows_eq_nil_iff_entered true).2 h]

theorem askedSources_of_missed (h : ∃ b, g.Marked s.source b ∧ s.Misses g b) :
    s.askedSources g = [] := by
  unfold askedSources
  cases hflows : s.noFlows g true (g.marked s.destination) (g.marked s.source).nodes with
  | cons v vs => rfl
  | nil =>
    obtain ⟨b, hb, hmisses⟩ := h
    exact absurd hmisses ((noFlows_eq_nil_iff_entered true).1 hflows b hb)

theorem mem_askedSources : a ∈ s.askedSources g ↔ s.Asks g a := by
  by_cases h : ∀ b, g.Marked s.source b → ¬s.Misses g b
  · rw [askedSources_of_entered h, mem_triggering]
    exact ⟨fun ha => ⟨h, ha.1, ha.2⟩, fun ha => ⟨ha.marked, ha.triggers⟩⟩
  · have hmissed : ∃ b, g.Marked s.source b ∧ s.Misses g b := by simpa using h
    rw [askedSources_of_missed hmissed]
    exact iff_of_false List.not_mem_nil fun ha => h ha.entered

theorem mem_questions {tag : String} {c : Call} :
    c ∈ s.questions tag a (s.premise g a (g.marked s.destination)) ↔
      c.tag = tag ∧ c.source = a ∧ s.IsTarget g a c.target := by
  obtain ⟨tag', source, target⟩ := c
  unfold questions IsTarget
  cases s.obligation with
  | pair f =>
    cases target with
    | node b => simp [NodeSet.mem_nodes, mem_premise, eq_comm, and_assoc, and_comm]
    | nodes p => simp
  | set f =>
    cases target with
    | node b => simp
    | nodes p =>
      rw [List.mem_singleton, Call.mk.injEq, Target.nodes.injEq]
      refine and_congr_right fun _ => and_congr_right fun _ => ⟨?_, fun hp => (premise_eq hp).symm⟩
      rintro rfl
      exact fun b => mem_premise

theorem mem_allQuestions {tag : String} {c : Call} :
    c ∈ s.allQuestions g tag ↔ s.Poses g tag c := by
  unfold allQuestions
  rw [List.mem_flatMap]
  simp only [mem_askedSources, mem_questions]
  constructor
  · rintro ⟨a, ha, htag, rfl, htarget⟩
    exact ⟨htag, ha, htarget⟩
  · exact fun h => ⟨c.source, h.source, h.tag, rfl, h.target⟩

theorem source_of_mem_questions {tag : String} {premise : NodeSet} {c : Call}
    (h : c ∈ s.questions tag a premise) : c.source = a := by
  unfold questions at h
  cases ho : s.obligation with
  | pair f =>
    rw [ho] at h
    obtain ⟨d, -, rfl⟩ := List.mem_map.1 h
    rfl
  | set f =>
    rw [ho] at h
    rw [List.mem_singleton.1 h]

theorem pairwise_questions (s : Statement) (tag : String) (a : Node) (premise : NodeSet) :
    (s.questions tag a premise).Pairwise Call.Precedes := by
  unfold questions
  cases s.obligation with
  | pair f =>
    apply List.Pairwise.map _ _ premise.pairwise_lt
    exact fun b c hlt => .inr ⟨rfl, b, c, rfl, rfl, hlt⟩
  | set f => exact List.pairwise_singleton _ _

theorem pairwise_askedSources (s : Statement) (g : Graph) :
    (s.askedSources g).Pairwise fun a b => a.quoted < b.quoted := by
  unfold askedSources
  cases s.noFlows g true (g.marked s.destination) (g.marked s.source).nodes with
  | nil => exact List.Pairwise.filter _ (g.marked s.source).pairwise_lt
  | cons v vs => exact .nil

theorem pairwise_allQuestions (s : Statement) (g : Graph) (tag : String) :
    (s.allQuestions g tag).Pairwise Call.Precedes :=
  pairwise_flatMap_of_source (s.pairwise_askedSources g) (fun a => s.pairwise_questions tag a _)
    (fun _ _ => source_of_mem_questions) fun _ _ => .inl

/-! ## Evaluations -/

/-- The calls of the obligation of a statement during its evaluation, under a tag. -/
def callsOf (s : Statement) (g : Graph) (tag : String) (exhaustive : Bool)
    (unknown : UnknownMarkers) : List Call :=
  Traced.calls (s.evaluateWatched (Watch.telling tag) g exhaustive unknown).events

theorem callsOf_eq_nil (h : firstUnknown g unknown s.lookups ≠ none ∨
    ∃ b, g.Marked s.source b ∧ s.Misses g b) (tag : String) (exhaustive : Bool) :
    s.callsOf g tag exhaustive unknown = [] := by
  unfold callsOf evaluateWatched
  cases s.course g exhaustive unknown with
  | stopped m _ hcourse =>
    rw [hcourse]
    exact s.calls_lookUp g unknown
  | missed vs _ _ hcourse =>
    rw [hcourse]
    exact s.calls_preamble g unknown
  | asked hfirst hentered _ =>
    rcases h with hunknown | ⟨b, hb, hmisses⟩
    · exact absurd hfirst hunknown
    · exact absurd hmisses (hentered b hb)

theorem callsOf_made (hpure : s.obligation.Answers g)
    (hknown : firstUnknown g unknown s.lookups = none) (tag : String) (exhaustive : Bool) :
    Call.Made exhaustive (s.answersNo g) (s.allQuestions g tag)
      (s.callsOf g tag exhaustive unknown) := by
  unfold callsOf evaluateWatched allQuestions
  cases s.course g exhaustive unknown with
  | stopped m hfirst => exact nomatch hknown.symm.trans hfirst
  | missed vs _ hmissed hcourse =>
    rw [hcourse, askedSources_of_missed hmissed, calls_preamble]
    exact Call.made_nil exhaustive _
  | asked _ hentered hcourse =>
    have hputs := checkEach_puts (fun a
        (_ : a ∈ s.triggering g (g.marked s.destination) (g.marked s.source).nodes) =>
      checkSourceWatched_puts hpure tag exhaustive a (s.premise g a (g.marked s.destination))) {}
    rw [hcourse, askedSources_of_entered hentered]
    show Call.Made _ _ _ (Traced.calls (_ ++ _))
    rw [Traced.calls_append, calls_preamble, List.nil_append]
    unfold checkAllWith
    rw [calls_conclude]
    exact hputs.made

/-- The watch that tells of the questions leaves what comes of them as it is. -/
theorem checkSourceWatched_telling_sameOutcome (s : Statement) (g : Graph) (tag : String)
    (exhaustive : Bool) (source : Node) (premise : NodeSet) (t : Tally) :
    (s.checkSourceWatched (Watch.telling tag) g exhaustive source premise t).SameOutcome
      (s.checkSource g exhaustive source premise t) := by
  unfold checkSourceWatched
  rw [checkSource_eq]
  cases s.obligation with
  | pair f =>
    apply checkPairs_sameOutcome
    intro d _
    rw [holdsOfPairWatched_telling]
    rfl
  | set f =>
    apply checkOnce_sameOutcome
    rw [holdsOfSetWatched_telling]
    rfl

/-- The watch that tells of the questions leaves the verdict as it is. -/
theorem evaluateWatched_telling_result (s : Statement) (g : Graph) (tag : String)
    (exhaustive : Bool) (unknown : UnknownMarkers) :
    (s.evaluateWatched (Watch.telling tag) g exhaustive unknown).result =
      (s.evaluate g exhaustive unknown).result := by
  rw [← evaluateWith_checkSource]
  apply evaluateWith_result
  exact fun a _ t => s.checkSourceWatched_telling_sameOutcome g tag exhaustive a _ t

/-- A predicate whose calls are told under the tag is checked as it is under the watch. -/
theorem checkSourceWatched_telling_custom {shape : Shape} {p : Predicate} {tag : String}
    (ho : s.obligation = .custom shape p) (htag : p.tag = some tag) (exhaustive : Bool)
    (source : Node) (premise : NodeSet) :
    s.checkSourceWatched (Watch.telling tag) g exhaustive source premise =
      s.checkSource g exhaustive source premise := by
  have htold (a : Node) (t : Target) : (p.ask g a t).toldAs ⟨tag, a, t⟩ = p.ask g a t := by
    unfold Predicate.ask
    rw [htag]
    rfl
  unfold checkSourceWatched
  rw [checkSource_eq]
  rw [ho]
  cases shape with
  | pair =>
    have hsame : Formula.holdsOfPairWatched (Watch.telling tag) g (.atom (.custom p)) source =
        Formula.holdsOfPair g (.atom (.custom p)) source := by
      funext d
      rw [holdsOfPairWatched_telling]
      exact htold source (.node d)
    show s.checkPairs exhaustive source _ _ = _
    rw [hsame]
    rfl
  | set =>
    show s.checkOnce exhaustive source none _ checkNone = _
    rw [holdsOfSetWatched_telling]
    exact congrArg (s.checkOnce exhaustive source none · checkNone) (htold source _)

/-- A predicate whose calls are told under the tag tells what the watch does. -/
theorem evaluateWatched_telling_custom {shape : Shape} {p : Predicate} {tag : String}
    (ho : s.obligation = .custom shape p) (htag : p.tag = some tag) (exhaustive : Bool) :
    s.evaluateWatched (Watch.telling tag) g exhaustive unknown =
      s.evaluate g exhaustive unknown := by
  rw [← evaluateWith_checkSource]
  apply evaluateWith_congr
  exact fun a _ => checkSourceWatched_telling_custom ho htag exhaustive a _

/-- If unknown markers are errors and some marker of a statement is not declared, or if some source
misses what is asked of every source, the obligation is never asked. Otherwise an exhaustive
evaluation asks each question that there is to ask once, in the order of the sources and then of
the destinations, and any other evaluation asks them up to the first that is answered with no. The
watch that tells of the questions leaves the verdict as it is; a predicate that is told under the
same tag needs no watch. -/
theorem evaluate_calls (s : Statement) (g : Graph) (unknown : UnknownMarkers) (tag : String)
    (hpure : s.obligation.Answers g) :
    (∀ exhaustive, (s.evaluateWatched (Watch.telling tag) g exhaustive unknown).result =
        (s.evaluate g exhaustive unknown).result) ∧
      (∀ shape p exhaustive, s.obligation = .custom shape p → p.tag = some tag →
        s.evaluateWatched (Watch.telling tag) g exhaustive unknown =
          s.evaluate g exhaustive unknown) ∧
      (unknown = .error ∧ ¬g.DeclaresAll s.markers ∨ (∃ b, g.Marked s.source b ∧ s.Misses g b) →
        ∀ exhaustive, s.callsOf g tag exhaustive unknown = []) ∧
      ((unknown = .error → g.DeclaresAll s.markers) →
        (∀ c, c ∈ s.callsOf g tag true unknown ↔ s.Poses g tag c) ∧
        (s.callsOf g tag true unknown).Pairwise Call.Precedes ∧
        Call.UpToFirst (s.answersNo g) (s.callsOf g tag true unknown)
          (s.callsOf g tag false unknown)) := by
  refine ⟨fun exhaustive => s.evaluateWatched_telling_result g tag exhaustive unknown,
    fun shape p exhaustive ho htag => evaluateWatched_telling_custom ho htag exhaustive, ?_, ?_⟩
  · intro hnone exhaustive
    apply callsOf_eq_nil
    exact hnone.imp_left fun hundeclared hfirst =>
      hundeclared.2 (firstUnknown_lookups_eq_none_iff.1 hfirst hundeclared.1)
  · intro hknown
    have hfirst := firstUnknown_lookups_eq_none_iff.2 hknown
    have hall : s.callsOf g tag true unknown = s.allQuestions g tag :=
      callsOf_made hpure hfirst tag true
    rw [hall]
    exact ⟨fun c => mem_allQuestions, s.pairwise_allQuestions g tag,
      callsOf_made hpure hfirst tag false⟩

/-- A peer may ask for a peer, but the marker of an audit is looked up first and is not declared: no
question is asked. -/
theorem toldStatement_calls :
    toldStatement.obligation.Answers ringGraph ∧
      toldStatement.Poses ringGraph "told" ⟨"told", .int 0, .node (.int 1)⟩ ∧
      Traced.calls (toldStatement.evaluate ringGraph true .error).events = [] := by
  have hpure : toldStatement.obligation.Answers ringGraph := fun _ _ => ⟨_, rfl⟩
  have hpeer (n : Node) (hn : n = .int 0 ∨ n = .int 1) : ringGraph.Marked peer n := by
    rcases hn with rfl | rfl <;> exact ⟨by decide, by decide, by decide⟩
  refine ⟨hpure, ⟨rfl, ⟨fun _ _ h => h, hpeer _ (.inl rfl), trivial⟩, hpeer _ (.inr rfl), ?_⟩, rfl⟩
  exact ⟨[], .edge (by decide)⟩

/-- A predicate that holds of a node and itself. -/
def selfPredicate : Predicate where
  name := "self"
  tag := some "self"
  holds _ a t :=
    match t with
    | .node b => a = b
    | .nodes _ => true

/-- Every peer feeds a peer, and no other one than itself. -/
def selfStatement : Statement where
  name := "self"
  source := peer
  destination := peer
  kind := .data
  sourceQuantifier := .all
  destinationQuantifier := .some
  obligation := .custom .pair selfPredicate
  name_ne_blank := by decide
  all_of_set := nofun

/-- The second of four questions is answered with no. -/
theorem selfStatement_calls :
    selfStatement.obligation.Answers ringGraph ∧
      ringGraph.DeclaresAll selfStatement.markers ∧
      selfStatement.evaluateWatched (Watch.telling "self") ringGraph true .error =
        selfStatement.evaluate ringGraph true .error ∧
      ∃ called, selfStatement.callsOf ringGraph "self" true .error = called ∧
        called = [⟨"self", .int 0, .node (.int 0)⟩, ⟨"self", .int 0, .node (.int 1)⟩,
          ⟨"self", .int 1, .node (.int 0)⟩, ⟨"self", .int 1, .node (.int 1)⟩] ∧
        (∀ c, c ∈ called ↔ selfStatement.Poses ringGraph "self" c) ∧
        selfStatement.callsOf ringGraph "self" false .error = called.take 2 ∧
        Call.UpToFirst (selfStatement.answersNo ringGraph) called (called.take 2) := by
  have hpure : selfStatement.obligation.Answers ringGraph := fun _ _ => ⟨_, rfl⟩
  have hdeclared : ringGraph.DeclaresAll selfStatement.markers := by
    unfold Graph.DeclaresAll
    decide
  obtain ⟨-, hcustom, -, hasked⟩ := evaluate_calls selfStatement ringGraph .error "self" hpure
  obtain ⟨hmem, -, hfirst⟩ := hasked fun _ => hdeclared
  exact ⟨hpure, hdeclared, hcustom .pair selfPredicate true rfl rfl, _, rfl, rfl, hmem, rfl, hfirst⟩

end Statement

end InfoFlow
