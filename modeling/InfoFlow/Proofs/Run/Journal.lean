import InfoFlow.Proofs.Evaluation.Kinds
import InfoFlow.Proofs.Run.Modes
import Mathlib.Data.List.Nodup
/-!
# The journal of a session

A step that evaluates a policy enters the report on it, all of it and in its order, or, if there is
no report, nothing. So after any row of steps the journal holds the reports that were made on the
way, one after the other, and a step that fails has left no trace, unless it fails because the
policy is violated.
-/

namespace InfoFlow

/-! ## Violations of a report -/

namespace Report

variable {R : Report}

theorem violation?_eq_none_iff : R.violation? = none ↔ ∀ w ∈ R.verdicts, w.passed = true := by
  have hnone : R.violation? = none ↔ R.failures = [] := by
    unfold violation?
    cases R.failures <;> simp
  rw [hnone]
  unfold failures
  simp only [List.filter_eq_nil_iff, Bool.not_eq_true', Bool.not_eq_false]

theorem exists_violation_iff :
    (∃ v, R.violation? = some v) ↔ ∃ w ∈ R.verdicts, w.passed = false := by
  rw [← Option.isSome_iff_exists, Option.isSome_iff_ne_none, ne_eq, violation?_eq_none_iff]
  simp only [Classical.not_forall, exists_prop, Bool.not_eq_true]

/-- A violation holds what fails, in order. -/
theorem of_violation?_eq_some {v : PolicyViolation} (h : R.violation? = some v) :
    v.policy = R.policy ∧ v.failures = R.failures := by
  unfold violation? at h
  cases hfailures : R.failures with
  | nil =>
    rw [hfailures] at h
    exact nomatch h
  | cons f fs =>
    rw [hfailures] at h
    obtain rfl := Option.some.inj h
    exact ⟨rfl, rfl⟩

theorem first_mem_verdicts {v : PolicyViolation} (h : R.violation? = some v) :
    v.first ∈ R.verdicts := by
  have hmem : v.first ∈ R.failures := by
    rw [← (of_violation?_eq_some h).2]
    exact List.mem_cons_self
  exact (List.mem_filter.1 hmem).1

end Report

namespace Session

variable {s t u : Session} {step : Step} {p : Policy} {settings : Settings} {R : Report}

/-! ## Steps -/

/-- The policy that a step evaluates, and the settings under which it does. -/
def Step.evaluation? (s : Session) : Step → Option (Policy × Settings)
  | .evaluate (.ok p) | .run (.ok p) => some (p, s.settings)
  | .runPolicy name (.ok ss) settings =>
    (Policy.ofStatements name ss).toOption.map fun p => (p, settings.getD .usual)
  | _ => none

/-- Whether a step fails if the policy that it evaluates is violated. -/
def Step.isRun : Step → Bool
  | .run _ | .runPolicy _ _ _ => true
  | _ => false

/-- The report that a step makes, if the evaluation comes to one. -/
def produced? (s : Session) (step : Step) : Option Report :=
  (step.evaluation? s).bind fun e => ((s.under e.2).report e.1).result.toOption

/-- What a step answers when the report is entered. -/
def Step.answer (step : Step) (R : Report) : Except StepFault Answer :=
  match step.isRun, R.violation? with
  | true, some v => .error (.violated v)
  | _, _ => .ok (.report R)

theorem runs_iff {r : Session × Except RunFault Report} : s.Runs p r ↔ s.run p = r := by
  unfold Runs run
  simp only [evaluates_iff, exists_eq_left']

/-- The workers do not matter for what a step does. -/
theorem takes_iff {r : Session × Except StepFault Answer} : s.Takes step r ↔ s.step step = r := by
  cases step with
  | replaceGraph g => exact Iff.rfl
  | replaceSettings table => exact Iff.rfl
  | journal => exact Iff.rfl
  | failures => exact Iff.rfl
  | evaluate p =>
    cases p with
    | error e => exact Iff.rfl
    | ok p =>
      show (∃ e, s.Evaluates p e ∧ answered .fault e = r) ↔ answered .fault (s.evaluate p) = r
      simp only [evaluates_iff, exists_eq_left']
  | run p =>
    cases p with
    | error e => exact Iff.rfl
    | ok p =>
      show (∃ e, s.Runs p e ∧ answered .ofRun e = r) ↔ answered .ofRun (s.run p) = r
      simp only [runs_iff, exists_eq_left']
  | runPolicy name ss settings =>
    cases ss with
    | error e => exact Iff.rfl
    | ok ss =>
      unfold Takes Session.step
      simp only
      cases Policy.ofStatements name ss with
      | error e => exact Iff.rfl
      | ok p => simp only [runs_iff, exists_eq_left']

theorem run_of_report (h : (s.report p).result = .ok R) :
    s.run p = (s.enter R,
      match R.violation? with
      | some v => .error (.violated v)
      | none => .ok R) := by
  unfold run evaluate
  rw [h]
  show (match R.violation? with | some v => _ | none => _) = _
  cases R.violation? <;> rfl

theorem run_of_fault {f : Fault} (h : (s.report p).result = .error f) :
    s.run p = (s, .error (.fault f)) := by
  unfold run evaluate
  rw [h]
  rfl

/-- There are three steps that evaluate a policy. -/
theorem Step.of_evaluation? (h : step.evaluation? s = some (p, settings)) :
    step = .evaluate (.ok p) ∧ settings = s.settings ∨
      step = .run (.ok p) ∧ settings = s.settings ∨
      ∃ name ss own, step = .runPolicy name (.ok ss) own ∧ Policy.ofStatements name ss = .ok p ∧
        settings = own.getD .usual := by
  cases step with
  | replaceGraph g => exact nomatch h
  | replaceSettings table => exact nomatch h
  | journal => exact nomatch h
  | failures => exact nomatch h
  | evaluate q =>
    cases q with
    | error e => exact nomatch h
    | ok q =>
      obtain ⟨rfl, rfl⟩ := Prod.mk.inj (Option.some.inj h)
      exact .inl ⟨rfl, rfl⟩
  | run q =>
    cases q with
    | error e => exact nomatch h
    | ok q =>
      obtain ⟨rfl, rfl⟩ := Prod.mk.inj (Option.some.inj h)
      exact .inr (.inl ⟨rfl, rfl⟩)
  | runPolicy name ss own =>
    cases ss with
    | error e => exact nomatch h
    | ok ss =>
      change (Policy.ofStatements name ss).toOption.map _ = _ at h
      cases hq : Policy.ofStatements name ss with
      | error e =>
        rw [hq] at h
        exact nomatch h
      | ok q =>
        rw [hq] at h
        obtain ⟨rfl, rfl⟩ := Prod.mk.inj (Option.some.inj h)
        exact .inr (.inr ⟨name, ss, own, rfl, hq, rfl⟩)

/-- A step whose evaluation comes to a report enters it. -/
theorem step_of_report (hstep : step.evaluation? s = some (p, settings))
    (h : ((s.under settings).report p).result = .ok R) :
    s.step step = (s.enter R, step.answer R) := by
  obtain ⟨rfl, rfl⟩ | ⟨rfl, rfl⟩ | ⟨name, ss, own, rfl, hp, rfl⟩ := Step.of_evaluation? hstep
  · show answered .fault (s.evaluate p) = _
    unfold Session.evaluate
    rw [show (s.report p).result = .ok R from h]
    rfl
  · show answered .ofRun (s.run p) = _
    rw [run_of_report (s := s) h]
    unfold Step.answer
    cases R.violation? <;> rfl
  · unfold Session.step
    simp only [hp]
    rw [run_of_report h]
    unfold Step.answer
    cases R.violation? <;> rfl

/-- A step whose evaluation comes to a fault fails with it, and does nothing else. -/
theorem step_of_fault {f : Fault} (hstep : step.evaluation? s = some (p, settings))
    (h : ((s.under settings).report p).result = .error f) :
    s.step step = (s, .error (.fault f)) := by
  obtain ⟨rfl, rfl⟩ | ⟨rfl, rfl⟩ | ⟨name, ss, own, rfl, hp, rfl⟩ := Step.of_evaluation? hstep
  · show answered .fault (s.evaluate p) = _
    unfold Session.evaluate
    rw [show (s.report p).result = .error f from h]
    rfl
  · show answered .ofRun (s.run p) = _
    rw [run_of_fault (s := s) h]
    rfl
  · unfold Session.step
    simp only [hp]
    rw [run_of_fault h]
    rfl

/-- What a step has come to that makes no report: the journal is as it was, and everything is if the
step has failed. -/
structure EntersNothing (s : Session) (r : Session × Except StepFault Answer) : Prop where
  journal : r.1.journal = s.journal
  fault : ∀ e, r.2 = .error e → r.1 = s ∧ ∀ v, e ≠ .violated v

theorem EntersNothing.of_fault {e : StepFault} (h : ∀ v, e ≠ .violated v) :
    s.EntersNothing (s, .error e) := by
  refine ⟨rfl, fun e' he => ⟨rfl, ?_⟩⟩
  obtain rfl := Except.error.inj he
  exact h

theorem step_of_no_evaluation (hstep : step.evaluation? s = none) :
    s.EntersNothing (s.step step) := by
  cases step with
  | replaceGraph g =>
    cases g with
    | error e => exact .of_fault fun v => nofun
    | ok g => exact ⟨rfl, nofun⟩
  | replaceSettings table =>
    unfold Session.step
    simp only
    cases Settings.ofTable table with
    | error e => exact .of_fault fun v => nofun
    | ok settings => exact ⟨rfl, nofun⟩
  | journal => exact ⟨rfl, nofun⟩
  | failures => exact ⟨rfl, nofun⟩
  | evaluate p =>
    cases p with
    | error e => exact .of_fault fun v => nofun
    | ok p => exact nomatch hstep
  | run p =>
    cases p with
    | error e => exact .of_fault fun v => nofun
    | ok p => exact nomatch hstep
  | runPolicy name ss own =>
    cases ss with
    | error e => exact .of_fault fun v => nofun
    | ok ss =>
      unfold Session.step
      simp only
      cases hp : Policy.ofStatements name ss with
      | error e => exact .of_fault fun v => nofun
      | ok p =>
        change (Policy.ofStatements name ss).toOption.map _ = none at hstep
        rw [hp] at hstep
        exact nomatch hstep

/-! ## Rows of steps -/

/-- A session may take these steps, make these reports on the way, and be another one after them. -/
inductive Course : Session → List Step → List Report → Session → Prop
  | done (s : Session) : Course s [] [] s
  | next {s t u : Session} {step : Step} {steps : List Step} {a : Except StepFault Answer}
    {rs : List Report} (htakes : s.Takes step (t, a)) (hrest : Course t steps rs u) :
    Course s (step :: steps) ((s.produced? step).toList ++ rs) u

theorem exists_course (s : Session) (steps : List Step) : ∃ rs t, s.Course steps rs t := by
  induction steps generalizing s with
  | nil => exact ⟨[], s, .done s⟩
  | cons step steps ih =>
    obtain ⟨rs, t, hrest⟩ := ih (s.step step).1
    exact ⟨_, t, .next (takes_iff.2 rfl) hrest⟩

theorem produced?_eq_some :
    s.produced? step = some R ↔ ∃ p settings, step.evaluation? s = some (p, settings) ∧
      ((s.under settings).report p).result = .ok R := by
  unfold produced?
  rw [Option.bind_eq_some_iff]
  constructor
  · rintro ⟨⟨p, settings⟩, hstep, hR⟩
    refine ⟨p, settings, hstep, ?_⟩
    cases hresult : ((s.under settings).report p).result with
    | error e =>
      rw [hresult] at hR
      exact nomatch hR
    | ok R' =>
      rw [hresult] at hR
      rw [Option.some.inj hR]
  · rintro ⟨p, settings, hstep, hR⟩
    refine ⟨(p, settings), hstep, ?_⟩
    simp only
    rw [hR]
    rfl

theorem step_of_no_report (h : s.produced? step = none) : s.EntersNothing (s.step step) := by
  cases hstep : step.evaluation? s with
  | none => exact step_of_no_evaluation hstep
  | some x =>
    obtain ⟨p, settings⟩ := x
    cases hresult : ((s.under settings).report p).result with
    | ok R =>
      rw [produced?_eq_some.2 ⟨p, settings, hstep, hresult⟩] at h
      exact nomatch h
    | error f =>
      rw [step_of_fault hstep hresult]
      exact .of_fault fun v => nofun

/-- One step enters the report that it makes. -/
theorem Takes.journal {a : Except StepFault Answer} (h : s.Takes step (t, a)) :
    t.journal = s.journal ++ (s.produced? step).toList.flatMap Report.entries := by
  have ht : (s.step step).1 = t := congrArg Prod.fst (takes_iff.1 h)
  rw [← ht]
  cases hproduced : s.produced? step with
  | none =>
    rw [(step_of_no_report hproduced).journal]
    exact (List.append_nil _).symm
  | some R =>
    obtain ⟨p, settings, hstep, hR⟩ := produced?_eq_some.1 hproduced
    rw [step_of_report hstep hR]
    show s.journal ++ R.entries = s.journal ++ [R].flatMap Report.entries
    rw [List.flatMap_singleton]

/-- A row of steps enters the reports that it makes, in order. -/
theorem Course.journal {steps : List Step} {rs : List Report} (h : s.Course steps rs t) :
    t.journal = s.journal ++ rs.flatMap Report.entries := by
  induction h with
  | done s => exact (List.append_nil _).symm
  | next htakes _ ih =>
    rw [ih, htakes.journal, List.flatMap_append, List.append_assoc]

/-! ## Missing flows -/

/-- The statement of a name, in the policy that a step evaluates, has a source that misses a
flow. -/
def MissesFlow (s : Session) (step : Step) (name : String) : Prop :=
  ∃ g p settings st a, s.graph = some g ∧ step.evaluation? s = some (p, settings) ∧
    st ∈ p.statements ∧ st.name = name ∧ g.Marked st.source a ∧ st.Misses g a

/-- The verdicts of a report are those on statements of the policy. -/
theorem exists_evaluate {w : Verdict} (h : (s.report p).result = .ok R) (hw : w ∈ R.verdicts) :
    ∃ g, s.graph = some g ∧ ∃ st ∈ p.statements,
      (st.evaluate g s.settings.exhaustive s.settings.unknownMarkers).result = .ok w := by
  obtain ⟨-, hverdicts⟩ := report_eq_ok.1 h
  obtain ⟨st, hst, hjob⟩ := List.mem_map.1 (mem_of_inOrder_eq_ok hverdicts hw)
  unfold verdictOn at hjob
  cases hg : s.graph with
  | none =>
    rw [hg] at hjob
    exact nomatch hjob
  | some g =>
    rw [hg] at hjob
    exact ⟨g, rfl, st, hst, hjob⟩

theorem kind?_eq_noFlow_iff (hproduced : s.produced? step = some R) {w : Verdict}
    (hw : w ∈ R.verdicts) : w.kind? = some .noFlow ↔ s.MissesFlow step w.statement := by
  obtain ⟨p, settings, hstep, hR⟩ := produced?_eq_some.1 hproduced
  obtain ⟨g, hg, st, hst, hresult⟩ := exists_evaluate hR hw
  obtain ⟨hname, hkind⟩ := Statement.kind?_eq_noFlow_iff hresult
  rw [hkind, hname]
  constructor
  · rintro ⟨a, ha, hmisses⟩
    exact ⟨g, p, settings, st, a, hg, hstep, hst, rfl, ha, hmisses⟩
  · rintro ⟨g', p', settings', st', a, hg', hstep', hst', hname', ha, hmisses⟩
    obtain rfl : g = g' := Option.some.inj (hg.symm.trans hg')
    obtain ⟨rfl, rfl⟩ := Prod.mk.inj (Option.some.inj (hstep.symm.trans hstep'))
    -- the names of a policy are distinct
    obtain rfl := List.inj_on_of_nodup_map p.distinct hst' hst hname'
    exact ⟨a, ha, hmisses⟩

/-! ## The journal -/

theorem Step.answer_eq_violated {v : PolicyViolation} :
    step.answer R = .error (.violated v) ↔ step.isRun = true ∧ R.violation? = some v := by
  unfold Step.answer
  cases step.isRun with
  | false => exact iff_of_false nofun fun h => nomatch h.1
  | true =>
    cases R.violation? with
    | none => exact iff_of_false nofun fun h => nomatch h.2
    | some w =>
      simp only [Except.error.injEq, StepFault.violated.injEq, Option.some.injEq, true_and]

theorem Step.answer_eq_report (h : ∀ v, step.answer R ≠ .error (.violated v)) :
    step.answer R = .ok (.report R) := by
  unfold Step.answer
  cases hrun : step.isRun with
  | false => rfl
  | true =>
    cases hviolation : R.violation? with
    | none => rfl
    | some v => exact absurd (Step.answer_eq_violated.2 ⟨hrun, hviolation⟩) (h v)

/-- Any row of steps can be taken, and whatever the workers do at each, the journal then holds what
it held before and an entry for each verdict of the reports that were made on the way, in order. A
step that fails leaves everything as it was, unless it fails because a policy is violated. That
happens to a step that runs a policy, and exactly if something fails in the report; the report has
been entered by then, the violation holds what fails in it, in order, and it is one for want of a
flow exactly if the first statement that fails has a source that misses a flow. -/
theorem course_journal (s : Session) :
    (∀ steps, ∃ rs t, s.Course steps rs t) ∧
      (∀ steps rs t, s.Course steps rs t → t.journal = s.journal ++ rs.flatMap fun R =>
        R.verdicts.map fun w =>
          { policy := R.policy, statement := w.statement, passed := w.passed
            message := w.message }) ∧
      ∀ step t a, s.Takes step (t, a) →
        (∀ e, a = .error e → (∀ v, e ≠ .violated v) → t = s) ∧
        (∀ v, a = .error (.violated v) → step.isRun = true ∧ ∃ R, s.produced? step = some R) ∧
        ∀ R, s.produced? step = some R →
          t = { s with journal := s.journal ++ R.verdicts.map fun w =>
            { policy := R.policy, statement := w.statement, passed := w.passed
              message := w.message } } ∧
          ((∀ v, a ≠ .error (.violated v)) → a = .ok (.report R)) ∧
          (step.isRun = true →
            ((∃ v, a = .error (.violated v)) ↔ ∃ w ∈ R.verdicts, w.passed = false)) ∧
          ∀ v, a = .error (.violated v) →
            v.policy = R.policy ∧ (v.failures = R.verdicts.filter fun w => !w.passed) ∧
              (v.isNoFlow = true ↔ s.MissesFlow step v.first.statement) := by
  refine ⟨s.exists_course, fun _ _ _ => Course.journal, fun step t a htakes => ?_⟩
  have htaken := takes_iff.1 htakes
  cases hproduced : s.produced? step with
  | none =>
    have hnothing := step_of_no_report hproduced
    rw [htaken] at hnothing
    refine ⟨fun e he _ => (hnothing.fault e he).1, fun v hv => ?_, nofun⟩
    exact absurd rfl ((hnothing.fault _ hv).2 v)
  | some R =>
    obtain ⟨p, settings, hstep, hR⟩ := produced?_eq_some.1 hproduced
    rw [step_of_report hstep hR] at htaken
    obtain ⟨rfl, rfl⟩ := Prod.mk.inj htaken
    refine ⟨fun e he hother => ?_, fun v hv => ⟨(Step.answer_eq_violated.1 hv).1, R, rfl⟩, ?_⟩
    · -- a report leaves no other fault
      have hreport : step.answer R = .ok (.report R) := by
        apply Step.answer_eq_report
        intro v hv
        rw [he] at hv
        exact hother v (Except.error.inj hv)
      rw [he] at hreport
      exact nomatch hreport
    · intro R' hR'
      obtain rfl := Option.some.inj hR'
      refine ⟨rfl, Step.answer_eq_report, fun hrun => ?_, fun v hv => ?_⟩
      · rw [← Report.exists_violation_iff]
        simp only [Step.answer_eq_violated, hrun, true_and]
      · obtain ⟨-, hviolation⟩ := Step.answer_eq_violated.1 hv
        obtain ⟨hpolicy, hfailures⟩ := Report.of_violation?_eq_some hviolation
        refine ⟨hpolicy, hfailures, ?_⟩
        rw [← kind?_eq_noFlow_iff hproduced (Report.first_mem_verdicts hviolation)]
        exact decide_eq_true_iff

/-- The statements of the control policy, run under the usual settings, which look for the first
failure only. -/
def controlRun : Step :=
  .runPolicy (.text "control") (.ok [Statement.controlStatement, Statement.ringStatement]) none

/-- An exhaustive session meets the stranger after a failure, of which it tells nothing. The next
step tells of a statement that holds, and the last one of the first failure, which leaves the
settings of the session alone. -/
theorem crossedSession_course :
    ∃ (R R' : Report) (t t' : Session) (v : PolicyViolation),
      (crossedSession.inMode .exhaustive).Course
        [.run (.ok crossedPolicy), .evaluate (.ok ringPolicy), controlRun] [R, R'] t' ∧
      t'.journal = [
        { policy := .text "ring", statement := "ring", passed := true
          message := "statement 'ring' holds" },
        { policy := .text "control", statement := "control", passed := false
          message := "statement 'control' failed (obligation_unmet): pair (0, 0): " ++
            "obligation 'destination has control flow influence on source' unmet" }] ∧
      t'.settings = (crossedSession.inMode .exhaustive).settings ∧
      t.Takes controlRun (t', .error (.violated v)) ∧
      v.failures = (R'.verdicts.filter fun w => !w.passed) ∧
      R'.verdicts.map Verdict.passed = [false] := by
  let s := crossedSession.inMode .exhaustive
  let h : Verdict := ⟨"ring", []⟩
  let R : Report := ⟨.text "ring", [h]⟩
  let f : Verdict := ⟨"control", [Statement.controlStatement.unmet (.int 0) (some (.int 0))]⟩
  let R' : Report := ⟨.text "control", [f]⟩
  let t := s.enter R
  obtain ⟨-, hjournal, -⟩ := course_journal s
  obtain ⟨-, -, hsteps⟩ := course_journal t
  have hstrange : s.Takes (.run (.ok crossedPolicy))
      (s, .error (.fault (.unknownMarker stranger))) := takes_iff.2 rfl
  have hring : s.Takes (.evaluate (.ok ringPolicy)) (t, .ok (.report R)) := takes_iff.2 rfl
  have hcontrol : t.Takes controlRun (t.enter R', .error (.violated ⟨.text "control", f, []⟩)) :=
    takes_iff.2 rfl
  have hcourse : s.Course [.run (.ok crossedPolicy), .evaluate (.ok ringPolicy), controlRun]
      [R, R'] (t.enter R') := .next hstrange (.next hring (.next hcontrol (.done _)))
  obtain ⟨-, -, hreport⟩ := hsteps _ _ _ hcontrol
  obtain ⟨-, -, -, hviolated⟩ := hreport R' rfl
  obtain ⟨-, hfailures, -⟩ := hviolated _ rfl
  have hholds : h.message = "statement 'ring' holds" := by decide +kernel
  have hfails : f.message = "statement 'control' failed (obligation_unmet): pair (0, 0): " ++
      "obligation 'destination has control flow influence on source' unmet" := by decide +kernel
  refine ⟨R, R', t, _, _, hcourse, ?_, rfl, hcontrol, hfailures, rfl⟩
  rw [hjournal _ _ _ hcourse, ← hholds, ← hfails]
  rfl

end Session

end InfoFlow
