import InfoFlow.Proofs.Evaluation.Asking
/-!
# What obligations are asked about

A statement whose obligation speaks of sets is about all destinations. The plans of such statements
let a source come to its obligation only if it reaches every destination, so the obligation and all
parts of it are asked about the whole destination set. Everything else is asked about one
destination at a time.
-/

namespace InfoFlow

/-- All calls that were told during a check have a property. -/
def Checked.CallsOnly (c : Checked) (P : Call → Prop) : Prop := ∀ x ∈ Traced.calls c.events, P x

namespace Statement

variable {s : Statement} {g : Graph} {exhaustive : Bool} {unknown : UnknownMarkers} {a : Node}

/-- A part of an obligation may be asked about a source and a target: about pairs, the target is a
destination, and about sets, it is the set of all destinations. -/
def MayAsk (s : Statement) (g : Graph) (part : Obligation) (a : Node) (t : Target) : Prop :=
  g.Marked s.source a ∧
    match part, t with
    | .pair _, .node b => g.Marked s.destination b
    | .set _, .nodes p => ∀ b, b ∈ p ↔ g.Marked s.destination b
    | _, _ => False

/-! ## The premise of a set obligation -/

/-- A source for which an obligation about sets is asked reaches every destination. -/
theorem Asks.matchesAll (h : s.Asks g a) (hset : s.obligation.shape = .set) :
    s.MatchesAll g a := by
  have hall := s.all_of_set hset
  have hentered := h.entered a h.marked
  have htriggers := h.triggers
  unfold Misses at hentered
  unfold Triggers at htriggers
  rw [hall] at hentered htriggers
  -- some sources have to reach every destination to be asked for, all sources to be asked for
  -- at all
  cases hsource : s.sourceQuantifier with
  | some =>
    rw [hsource] at htriggers
    exact htriggers
  | all =>
    rw [hsource] at hentered
    exact not_not.1 hentered

theorem Asks.premise_eq_marked (h : s.Asks g a) (hset : s.obligation.shape = .set) :
    s.premise g a (g.marked s.destination) = g.marked s.destination := by
  apply premise_eq
  intro b
  rw [Graph.mem_marked]
  exact ⟨fun hb => ⟨hb, h.matchesAll hset b hb⟩, fun hb => hb.1⟩

/-! ## Watches that leave these questions alone -/

/-- The nodes with a marker are all nodes with it. -/
theorem holdsOfSet_equals_marked (g : Graph) (a : Node) (m : Marker) :
    (Formula.holdsOfSet g (.atom (.equals m)) a (g.marked m)).result = .ok true := by
  show (g.resolve .empty m >>= fun nodes => pure ((g.marked m).same nodes)).result = _
  rw [Traced.result_bind, Graph.resolve_empty_result]
  exact congrArg Except.ok (NodeSet.same_iff.2 fun _ => Iff.rfl)

/-- A watch leaves the answers to the questions that a statement may ask as they are, provided that
those about its own destinations are yes. -/
def Spares (watch : Watch) (s : Statement) (g : Graph) : Prop :=
  ∀ depth part a t x, s.MayAsk g part a t →
    (part = .premiseEquals s.destination → x.result = .ok true) → watch depth part a t x = x

theorem Spares.holdsOfPair {watch : Watch} (h : s.Spares watch g) {f : Formula PairAtom} {b : Node}
    (ha : g.Marked s.source a) (hb : g.Marked s.destination b) :
    f.holdsOfPairWatched watch g a b = f.holdsOfPair g a b := by
  have hspared (depth : Nat) (p : Formula PairAtom) (x : Traced Bool) :
      watch depth (.pair p) a (.node b) x = x := h depth (.pair p) a (.node b) x ⟨ha, hb⟩ nofun
  exact (f.evaluateWatched_eq 0 fun _ _ _ => hspared _ _ _).trans (hspared 0 f _)

theorem Spares.holdsOfSet {watch : Watch} (h : Spares watch s g) {f : Formula SetAtom}
    (ha : g.Marked s.source a) :
    f.holdsOfSetWatched watch g a (g.marked s.destination) =
      f.holdsOfSet g a (g.marked s.destination) := by
  have hspared (depth : Nat) (p : Formula SetAtom) :
      watch depth (.set p) a (.nodes (g.marked s.destination))
        (p.holdsOfSet g a (g.marked s.destination)) =
          p.holdsOfSet g a (g.marked s.destination) := by
    refine h depth (.set p) a (.nodes _) _ ⟨ha, fun _ => Graph.mem_marked⟩ fun hp => ?_
    obtain rfl := Obligation.set.inj hp
    exact holdsOfSet_equals_marked g a s.destination
  exact (f.evaluateWatched_eq 0 fun depth p _ => hspared depth p).trans (hspared 0 f)

theorem evaluateWatched_eq_of_spares {watch : Watch} (h : s.Spares watch g) :
    s.evaluateWatched watch g exhaustive unknown = s.evaluate g exhaustive unknown := by
  rw [← evaluateWith_checkSource]
  apply evaluateWith_congr
  intro a ha
  unfold checkSourceWatched
  rw [checkSource_eq]
  cases ho : s.obligation with
  | pair f =>
    apply checkPairs_congr
    exact fun b hb => h.holdsOfPair ha.marked (mem_premise.1 hb).1
  | set f =>
    have hset : s.obligation.shape = .set := congrArg Obligation.shape ho
    rw [ha.premise_eq_marked hset]
    show s.checkOnce exhaustive a none _ checkNone = _
    rw [h.holdsOfSet ha.marked]

/-! ## Calls that are told -/

theorem relatedBySteps_callsOnly (g : Graph) (a : Node) (t : Target) (ms : List Marker) :
    RelatedBySteps (fun _ x _ => x.CallsOnly fun c => c.source = a ∧ c.target = t)
      (g.resolve .empty) (g.resolve .empty) a t ms where
  congruence := ⟨.pure, .bind⟩
  look m _ := g.resolve_callsOnly .empty m _
  fault _ hc := nomatch hc
  call tag c hc := by
    rw [List.mem_singleton.1 hc]
    exact ⟨rfl, rfl⟩

theorem holdsOfPair_callsOnly (f : Formula PairAtom) (a b : Node) :
    (f.holdsOfPair g a b).CallsOnly fun c => c.source = a ∧ c.target = .node b :=
  (relatedBySteps_callsOnly g a (.node b) _).pair

theorem holdsOfSet_callsOnly (f : Formula SetAtom) (a : Node) (p : NodeSet) :
    (f.holdsOfSet g a p).CallsOnly fun c => c.source = a ∧ c.target = .nodes p :=
  (relatedBySteps_callsOnly g a (.nodes p) _).set

variable {P : Call → Prop}

theorem goOn_callsOnly {c : Checked} {next : Tally → Checked} (hc : c.CallsOnly P)
    (hnext : ∀ t, (next t).CallsOnly P) (exhaustive : Bool) :
    (goOn exhaustive c next).CallsOnly P := by
  have hboth : ∀ x ∈ Traced.calls (c.events ++ (next c.tally).events), P x := by
    rw [Traced.calls_append, List.forall_mem_append]
    exact ⟨hc, hnext c.tally⟩
  unfold goOn
  cases c.passed with
  | error e => exact hc
  | ok b =>
    cases b with
    | true => exact hboth
    | false =>
      cases exhaustive with
      | true => exact hboth
      | false => exact hc

theorem checkEach_callsOnly {α : Type} {check : α → Tally → Checked} {xs : List α}
    (h : ∀ x ∈ xs, ∀ t, (check x t).CallsOnly P) (t : Tally) :
    (checkEach exhaustive check xs t).CallsOnly P := by
  induction xs generalizing t with
  | nil => exact fun _ hx => nomatch hx
  | cons x xs ih =>
    have hrest := ih fun y hy => h y (List.mem_cons_of_mem x hy)
    exact goOn_callsOnly (h x List.mem_cons_self t) hrest exhaustive

theorem askOnce_callsOnly {test : Traced Bool} (h : test.CallsOnly P) (source : Node)
    (destination : Option Node) (t : Tally) :
    (s.askOnce source destination test t).CallsOnly P := by
  unfold askOnce
  cases test.result with
  | error e => exact h
  | ok b =>
    cases b with
    | true => exact h
    | false =>
      show ∀ x ∈ Traced.calls (test.events ++ _), P x
      rw [Traced.calls_append, List.forall_mem_append]
      exact ⟨h, fun _ hx => nomatch hx⟩

theorem checkSource_callsOnly (ha : s.Asks g a) (exhaustive : Bool) (t : Tally) :
    (s.checkSource g exhaustive a (s.premise g a (g.marked s.destination)) t).CallsOnly
      fun c => s.MayAsk g s.obligation c.source c.target := by
  rw [checkSource_eq]
  cases ho : s.obligation with
  | pair f =>
    show (s.checkPairs exhaustive a _ _ t).CallsOnly _
    rw [checkPairs_eq_checkEach]
    refine checkEach_callsOnly (fun b hb t => askOnce_callsOnly ?_ a (some b) t) t
    intro c hc
    obtain ⟨hsource, htarget⟩ := holdsOfPair_callsOnly f a b c hc
    rw [hsource, htarget]
    exact ⟨ha.marked, (mem_premise.1 hb).1⟩
  | set f =>
    have hset : s.obligation.shape = .set := congrArg Obligation.shape ho
    show (s.checkOnce exhaustive a none _ checkNone t).CallsOnly _
    rw [checkOnce_eq_goOn, ha.premise_eq_marked hset]
    refine goOn_callsOnly (askOnce_callsOnly ?_ a none t) (fun _ _ hx => nomatch hx) exhaustive
    intro c hc
    obtain ⟨hsource, htarget⟩ := holdsOfSet_callsOnly f a _ c hc
    rw [hsource, htarget]
    exact ⟨ha.marked, fun _ => Graph.mem_marked⟩

theorem evaluate_callsOnly (s : Statement) (g : Graph) (exhaustive : Bool)
    (unknown : UnknownMarkers) : (s.evaluate g exhaustive unknown).CallsOnly
      fun c => s.MayAsk g s.obligation c.source c.target := by
  rw [← evaluateWith_checkSource]
  unfold Traced.CallsOnly
  cases s.course g exhaustive unknown with
  | stopped m _ hcourse =>
    rw [hcourse, calls_lookUp]
    exact fun _ hc => nomatch hc
  | missed vs _ _ hcourse =>
    rw [hcourse, calls_preamble]
    exact fun _ hc => nomatch hc
  | asked _ hentered hcourse =>
    rw [hcourse]
    show ∀ c ∈ Traced.calls (_ ++ _), _
    rw [Traced.calls_append, calls_preamble, List.nil_append]
    unfold checkAllWith
    rw [calls_conclude]
    exact checkEach_callsOnly
      (fun a ha t => checkSource_callsOnly (.of_mem_triggering hentered ha) exhaustive t) {}

/-- Whatever a watch makes of the answers to other questions, the evaluation is the one without it:
the obligation and all parts of it are only ever asked about a destination, or about the whole set
of them if they are about sets, and whether the matched destinations are those of the statement is
never answered with no. In particular this holds of the calls that are told. -/
theorem evaluate_targets (s : Statement) (g : Graph) (exhaustive : Bool)
    (unknown : UnknownMarkers) :
    (∀ watch, s.Spares watch g →
      s.evaluateWatched watch g exhaustive unknown = s.evaluate g exhaustive unknown) ∧
    ∀ c ∈ Traced.calls (s.evaluate g exhaustive unknown).events,
      s.MayAsk g s.obligation c.source c.target :=
  ⟨fun _ h => evaluateWatched_eq_of_spares h, s.evaluate_callsOnly g exhaustive unknown⟩

instance (s : Statement) (g : Graph) (part : Obligation) (a : Node) (t : Target) :
    Decidable (s.MayAsk g part a t) :=
  match part, t with
  | .pair _, .node b =>
    decidable_of_iff (a ∈ g.marked s.source ∧ b ∈ g.marked s.destination)
      (and_congr Graph.mem_marked Graph.mem_marked)
  | .set _, .nodes p =>
    decidable_of_iff (a ∈ g.marked s.source ∧ p.same (g.marked s.destination) = true)
      (and_congr Graph.mem_marked (by simp only [NodeSet.same_iff, Graph.mem_marked]))
  | .pair _, .nodes _ => isFalse fun h => h.2
  | .set _, .node _ => isFalse fun h => h.2

/-- The watch that stops an evaluation at any other question, and at the answer that the matched
destinations are not those of the statement. -/
def guarding (s : Statement) (g : Graph) : Watch := fun _ part a t x =>
  if s.MayAsk g part a t then
    match part, x.result with
    | .set (.atom (.equals m)), .ok false => if m = s.destination then .fault .noGraph else x
    | _, _ => x
  else .fault .noGraph

theorem guarding_spares (s : Statement) (g : Graph) : s.Spares (s.guarding g) g := by
  intro depth part a t x hmay hown
  unfold guarding
  rw [if_pos hmay]
  split
  · next m hno =>
    by_cases hm : m = s.destination
    · -- the answer about the own destinations is yes by what is said of them
      have hyes := hown (congrArg Obligation.premiseEquals hm)
      exact absurd (Except.ok.inj (hno.symm.trans hyes)) Bool.false_ne_true
    · exact if_neg hm
  · rfl

/-- A predicate that holds of two nodes together. -/
def twoPredicate : Predicate where
  name := "two"
  tag := some "two"
  holds _ _ t :=
    match t with
    | .node _ => false
    | .nodes p => p.size = 2

/-- A peer that reaches all peers does so with them as they are: three of them, or else two. -/
def wholeStatement : Statement where
  name := "whole"
  source := peer
  destination := peer
  kind := .data
  sourceQuantifier := .some
  destinationQuantifier := .all
  obligation := .set (.allOf [.atom (.equals peer),
    .anyOf [.atom (.atLeast 3), .atom (.custom twoPredicate)]])
  name_ne_blank := by decide
  all_of_set := fun _ => rfl

/-- The innermost part is asked for both peers, and nothing stops the evaluation. -/
theorem wholeStatement_targets :
    wholeStatement.evaluateWatched (wholeStatement.guarding ringGraph) ringGraph true .error =
        wholeStatement.evaluate ringGraph true .error ∧
      (wholeStatement.evaluate ringGraph true .error).result = .ok ⟨"whole", []⟩ ∧
      ∃ called, Traced.calls (wholeStatement.evaluate ringGraph true .error).events = called ∧
        called.map Call.source = [.int 0, .int 1] ∧
        ∀ c ∈ called,
          wholeStatement.MayAsk ringGraph wholeStatement.obligation c.source c.target := by
  obtain ⟨hwatched, hcalls⟩ := evaluate_targets wholeStatement ringGraph true .error
  have hspared := guarding_spares wholeStatement ringGraph
  exact ⟨hwatched _ hspared, rfl, _, rfl, rfl, hcalls⟩

end Statement

end InfoFlow
