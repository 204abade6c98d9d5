import InfoFlow.Proofs.Evaluation.Recording
/-!
# The two modes of an evaluation

An exhaustive evaluation that goes through has asked whatever the other mode can ask, and so has any
evaluation that passes. So both modes look for the failures of a statement with the same answers: an
exhaustive verdict, cut to its first violation, is the verdict of the other mode, and a verdict that
passes is one for both.
-/

namespace InfoFlow

/-- The verdict with its first violation only. -/
def Verdict.cut (v : Verdict) : Verdict := { v with violations := v.violations.take 1 }

theorem Verdict.passed_cut (v : Verdict) : v.cut.passed = v.passed := by
  obtain ⟨name, violations⟩ := v
  cases violations <;> rfl

theorem Verdict.kind?_cut (v : Verdict) : v.cut.kind? = v.kind? := by
  obtain ⟨name, violations⟩ := v
  cases violations <;> rfl

theorem Verdict.cut_of_passed {v : Verdict} (h : v.passed = true) : v.cut = v := by
  obtain ⟨name, violations⟩ := v
  obtain rfl : violations = [] := List.isEmpty_iff.1 h
  rfl

/-- A check that passes or leaves nothing out has asked everything and got answers, and one that
stops early has recorded a violation. -/
structure Checked.Asked (c : Checked) (exhaustive : Bool) (answers : Prop) : Prop where
  answered : ∀ b, c.passed = .ok b → b = true ∨ exhaustive = true → answers
  stopped : c.passed = .ok false → exhaustive = false → c.tally.violations ≠ []

namespace Checked.Asked

variable {c : Checked} {exhaustive : Bool} {answers answers' : Prop}

theorem imp (h : c.Asked exhaustive answers) (himp : answers → answers') :
    c.Asked exhaustive answers' :=
  ⟨fun b hb hmode => himp (h.answered b hb hmode), h.stopped⟩

/-- What goes on after a violation goes through itself. -/
theorem butFailed (h : c.Asked true answers) (es : List Event) :
    (c.butFailed.after es).Asked true answers := by
  refine ⟨fun b hb _ => ?_, fun _ hmode => nomatch hmode⟩
  cases hpassed : c.passed with
  | error e =>
    have herror : (c.butFailed.after es).passed = .error e := by
      show c.passed.map _ = _
      rw [hpassed]
      rfl
    exact nomatch herror.symm.trans hb
  | ok b' => exact h.answered b' hpassed (.inr rfl)

end Checked.Asked

namespace Statement

variable {s : Statement} {g : Graph} {exhaustive : Bool} {source : Node}

/-! ## What has been asked -/

theorem checkNone_asked (exhaustive : Bool) (t : Tally) : (checkNone t).Asked exhaustive True :=
  ⟨fun _ _ _ => trivial, nofun⟩

theorem checkOnce_asked (s : Statement) (source : Node) (destination : Option Node)
    (test : Traced Bool) {next : Tally → Checked} {answers : Prop}
    (hnext : ∀ t, (next t).Asked exhaustive answers) (t : Tally) :
    (s.checkOnce exhaustive source destination test next t).Asked exhaustive
      (test.Answers ∧ answers) := by
  unfold checkOnce
  cases htest : test.result with
  | error e => exact ⟨nofun, nofun⟩
  | ok verdict =>
    have htested : test.Answers := ⟨verdict, htest⟩
    cases verdict with
    | true =>
      have hrest := hnext t.count
      exact ⟨fun b hb hmode => ⟨htested, hrest.answered b hb hmode⟩, hrest.stopped⟩
    | false =>
      cases exhaustive with
      | false =>
        -- the check stops here, with the violation that it has just recorded
        refine ⟨fun b hb hmode => ?_, fun _ _ => ?_⟩
        · obtain rfl : false = b := Except.ok.inj hb
          exact absurd hmode (by decide)
        · show t.count.violations ++ [s.unmet source destination] ≠ []
          exact List.append_ne_nil_of_right_ne_nil _ (List.cons_ne_nil _ _)
      | true =>
        have hrest := hnext (t.count.record (s.unmet source destination))
        exact (hrest.butFailed _).imp fun hanswers => ⟨htested, hanswers⟩

theorem checkPairs_asked (s : Statement) (exhaustive : Bool) (source : Node)
    (test : Node → Traced Bool) (ds : List Node) (t : Tally) :
    (s.checkPairs exhaustive source test ds t).Asked exhaustive (∀ d ∈ ds, (test d).Answers) := by
  induction ds generalizing t with
  | nil => exact (checkNone_asked exhaustive t).imp fun _ => nofun
  | cons d ds ih =>
    have hask := s.checkOnce_asked source (some d) (test d) ih t
    refine hask.imp fun ⟨hd, hds⟩ x hx => ?_
    rcases List.mem_cons.1 hx with rfl | hx
    · exact hd
    · exact hds x hx

theorem checkSource_asked (s : Statement) (g : Graph) (exhaustive : Bool) (source : Node)
    (premise : NodeSet) (t : Tally) :
    (s.checkSource g exhaustive source premise t).Asked exhaustive
      (s.AnswersFor g source premise) := by
  rw [checkSource_eq]
  unfold AnswersFor
  cases s.obligation with
  | pair f => exact s.checkPairs_asked exhaustive source _ premise.nodes t
  | set f =>
    have hask := s.checkOnce_asked source none (f.holdsOfSet g source premise)
      (checkNone_asked exhaustive) t
    exact hask.imp And.left

theorem checkSources_asked (s : Statement) (g : Graph) (exhaustive : Bool)
    (destinations : NodeSet) (sources : List Node) (t : Tally) :
    (s.checkSources g exhaustive destinations sources t).Asked exhaustive
      (s.AnswersAll g destinations sources) := by
  induction sources generalizing t with
  | nil => exact (checkNone_asked exhaustive t).imp fun _ => nofun
  | cons a sources ih =>
    rw [checkSources_cons]
    cases htrigger : s.plan.trigger.passes (s.premise g a destinations) destinations with
    | false =>
      refine (ih t).imp fun hrest b hb hpasses => ?_
      rcases List.mem_cons.1 hb with rfl | hb
      · rw [htrigger] at hpasses
        exact absurd hpasses Bool.false_ne_true
      · exact hrest b hb hpasses
    | true =>
      have hcons (hfirst : s.AnswersFor g a (s.premise g a destinations))
          (hrest : s.AnswersAll g destinations sources) :
          s.AnswersAll g destinations (a :: sources) := by
        intro b hb hpasses
        rcases List.mem_cons.1 hb with rfl | hb
        · exact hfirst
        · exact hrest b hb hpasses
      have hfirst := s.checkSource_asked g exhaustive a (s.premise g a destinations) t
      simp only [Bool.not_true, Bool.false_eq_true, if_false]
      cases hpassed : (s.checkSource g exhaustive a (s.premise g a destinations) t).passed with
      | error e =>
        constructor
        · intro b hb
          cases hpassed.symm.trans hb
        · intro hb
          cases hpassed.symm.trans hb
      | ok passed =>
        have hrest := ih (s.checkSource g exhaustive a (s.premise g a destinations) t).tally
        cases passed with
        | true =>
          have hanswers := hfirst.answered true hpassed (.inl rfl)
          exact ⟨fun b hb hmode => hcons hanswers (hrest.answered b hb hmode), hrest.stopped⟩
        | false =>
          cases exhaustive with
          | true =>
            have hanswers := hfirst.answered false hpassed (.inr rfl)
            exact (hrest.butFailed _).imp (hcons hanswers)
          | false =>
            -- the source that failed is the last one that was looked at
            refine ⟨fun b hb hmode => ?_, hfirst.stopped⟩
            obtain rfl : false = b := Except.ok.inj (hpassed.symm.trans hb)
            exact absurd hmode (by decide)

/-! ## Both modes give the same failures -/

theorem checkAll_answersAll {destinations : NodeSet} {sources : List Node} {v : Verdict}
    (h : (s.checkAll g exhaustive destinations sources).result = .ok v)
    (hmode : exhaustive = true ∨ v.passed = true) : s.AnswersAll g destinations sources := by
  have hasked := s.checkSources_asked g exhaustive destinations sources {}
  rw [checkAll_eq] at h
  cases hpassed : (s.checkSources g exhaustive destinations sources {}).passed with
  | error e =>
    simp only [hpassed] at h
    exact nomatch h
  | ok passed =>
    simp only [hpassed, Except.ok.injEq] at h
    apply hasked.answered passed hpassed
    rcases hmode with hmode | hmode
    · exact .inr hmode
    · -- a check that stopped early would have left a violation
      cases passed with
      | true => exact .inl rfl
      | false =>
        cases exhaustive with
        | true => exact .inr rfl
        | false =>
          rw [← h] at hmode
          exact absurd (List.isEmpty_iff.1 hmode) (hasked.stopped hpassed rfl)

variable {unknown : UnknownMarkers} {v : Verdict}

/-- An evaluation that goes through in exhaustive mode, or passes in any, has met no unknown marker
and has got an answer to whatever it can ask. -/
theorem evaluate_answered (h : (s.evaluate g exhaustive unknown).result = .ok v)
    (hmode : exhaustive = true ∨ v.passed = true) :
    firstUnknown g unknown s.lookups = none ∧ s.Answered g := by
  rw [evaluate_result] at h
  cases hknown : firstUnknown g unknown s.lookups with
  | some m =>
    rw [hknown] at h
    exact nomatch h
  | none =>
    rw [hknown] at h
    refine ⟨rfl, fun hnone => ?_⟩
    have hjudge : s.judge g exhaustive =
        s.checkAll g exhaustive (g.marked s.destination) (g.marked s.source).nodes := by
      unfold judge
      rw [noFlows_eq_recorded, hnone, recorded_nil]
    simp only [hjudge] at h
    exact checkAll_answersAll h hmode

/-- Then every mode gives the failures of the statement, all of them or the first. -/
theorem evaluate_modes (h : (s.evaluate g exhaustive unknown).result = .ok v)
    (hmode : exhaustive = true ∨ v.passed = true) (mode : Bool) :
    (s.evaluate g mode unknown).result = .ok ⟨s.name, recorded mode (s.found g)⟩ := by
  obtain ⟨hknown, hanswered⟩ := evaluate_answered h hmode
  rw [evaluate_result, hknown]
  exact judge_result hanswered

/-- The verdict of an exhaustive evaluation, cut to its first violation, is that of the other
mode. -/
theorem evaluate_cut (h : (s.evaluate g true unknown).result = .ok v) :
    (s.evaluate g false unknown).result = .ok v.cut := by
  have hmodes := evaluate_modes h (.inl rfl)
  obtain rfl : v = ⟨s.name, s.found g⟩ := Except.ok.inj (h.symm.trans (hmodes true))
  exact hmodes false

/-- A verdict that passes is the verdict of both modes. -/
theorem evaluate_of_passed (h : (s.evaluate g exhaustive unknown).result = .ok v)
    (hpassed : v.passed = true) (mode : Bool) : (s.evaluate g mode unknown).result = .ok v := by
  have hmodes := evaluate_modes h (.inr hpassed)
  obtain rfl : v = ⟨s.name, recorded exhaustive (s.found g)⟩ :=
    Except.ok.inj (h.symm.trans (hmodes exhaustive))
  have hnone : s.found g = [] := recorded_eq_nil_iff.1 (List.isEmpty_iff.1 hpassed)
  rw [hmodes mode, hnone, recorded_nil, recorded_nil]

end Statement

end InfoFlow
