import InfoFlow.Proofs.Evaluation.Modes
import InfoFlow.Proofs.Run.Schedule
/-!
# The two modes of a run

A run that looks for the first failure reports what an exhaustive run reports, up to its first
failure, of which it tells the first violation only. If it finds nothing, an exhaustive run finds
nothing either.
-/

namespace InfoFlow

/-! ## Cutting a report -/

/-- The verdicts up to the first that fails, of which the first violation is left; all of them if
none fails. -/
def cutAll (vs : List Verdict) : List Verdict :=
  vs.takeWhile Verdict.passed ++ ((vs.find? (!·.passed)).map Verdict.cut).toList

theorem cutAll_cons_of_passed {v : Verdict} (h : v.passed = true) (vs : List Verdict) :
    cutAll (v :: vs) = v :: cutAll vs := by
  unfold cutAll
  rw [List.takeWhile_cons_of_pos h, List.find?_cons, h]
  rfl

theorem cutAll_cons_of_failed {v : Verdict} (h : v.passed = false) (vs : List Verdict) :
    cutAll (v :: vs) = [v.cut] := by
  have hnot : ¬v.passed = true := Bool.eq_false_iff.1 h
  unfold cutAll
  rw [List.takeWhile_cons_of_neg hnot, List.find?_cons, h]
  rfl

/-- What fails first fails first in the cut row, too, with one violation. -/
theorem find?_cutAll (vs : List Verdict) :
    (cutAll vs).find? (!·.passed) = (vs.find? (!·.passed)).map Verdict.cut := by
  induction vs with
  | nil => rfl
  | cons v vs ih =>
    cases hv : v.passed with
    | true =>
      rw [cutAll_cons_of_passed hv, List.find?_cons, List.find?_cons, hv]
      exact ih
    | false =>
      rw [cutAll_cons_of_failed hv, List.find?_cons, List.find?_cons, v.passed_cut, hv]
      rfl

namespace Report

/-- The report up to its first failure. -/
def cut (r : Report) : Report := { r with verdicts := cutAll r.verdicts }

/-- Whether the first statement that fails does so for want of a flow, if one fails. -/
def firstIsNoFlow? (r : Report) : Option Bool :=
  (r.verdicts.find? (!·.passed)).map fun v => v.kind? = some .noFlow

theorem passed_eq_isNone (r : Report) : r.passed = r.firstIsNoFlow?.isNone := by
  unfold passed firstIsNoFlow?
  rw [Option.isNone_map, List.all_eq_not_any_not, ← List.isSome_find?]
  cases r.verdicts.find? (!·.passed) <;> rfl

theorem violation?_isNoFlow (r : Report) :
    r.violation?.map PolicyViolation.isNoFlow = r.firstIsNoFlow? := by
  have hfirst : r.failures.head? = r.verdicts.find? (!·.passed) := List.head?_filter ..
  unfold violation? firstIsNoFlow?
  rw [← hfirst]
  cases r.failures <;> rfl

theorem firstIsNoFlow?_cut (r : Report) : r.cut.firstIsNoFlow? = r.firstIsNoFlow? := by
  unfold firstIsNoFlow? cut
  rw [find?_cutAll, Option.map_map]
  apply Option.map_congr
  intro v _
  show decide (v.cut.kind? = _) = _
  rw [v.kind?_cut]

end Report

/-! ## Reading in the two modes -/

variable {loud fast : Statement → Except Fault Verdict} {ss : List Statement} {vs : List Verdict}

theorem inOrder_cutAll (hcut : ∀ s v, loud s = .ok v → fast s = .ok v.cut)
    (h : inOrder (fun _ => false) (ss.map loud) = .ok vs) :
    inOrder (fun v : Verdict => !v.passed) (ss.map fast) = .ok (cutAll vs) := by
  induction ss generalizing vs with
  | nil =>
    obtain rfl : [] = vs := Except.ok.inj h
    rfl
  | cons s ss ih =>
    obtain ⟨v, hs, ⟨hlast, -⟩ | ⟨-, rest, hrest, rfl⟩⟩ := inOrder_cons_eq_ok.1 h
    · exact absurd hlast Bool.false_ne_true
    · refine inOrder_cons_eq_ok.2 ⟨v.cut, hcut s v hs, ?_⟩
      rw [v.passed_cut]
      cases hv : v.passed with
      | true =>
        have hkept : cutAll (v :: rest) = v.cut :: cutAll rest := by
          rw [cutAll_cons_of_passed hv, Verdict.cut_of_passed hv]
        exact .inr ⟨rfl, cutAll rest, ih hrest, hkept⟩
      | false => exact .inl ⟨rfl, cutAll_cons_of_failed hv rest⟩

theorem inOrder_of_passed (hsame : ∀ s v, fast s = .ok v → v.passed = true → loud s = .ok v)
    (h : inOrder (fun v : Verdict => !v.passed) (ss.map fast) = .ok vs)
    (hpassed : vs.all Verdict.passed = true) :
    inOrder (fun _ => false) (ss.map loud) = .ok vs := by
  induction ss generalizing vs with
  | nil => exact h
  | cons s ss ih =>
    obtain ⟨v, hs, ⟨hlast, rfl⟩ | ⟨hlast, rest, hrest, rfl⟩⟩ := inOrder_cons_eq_ok.1 h
    · -- the reading would have ended with a failure
      rw [List.all_cons, Bool.and_eq_true] at hpassed
      rw [hpassed.1] at hlast
      exact absurd hlast Bool.false_ne_true
    · rw [List.all_cons, Bool.and_eq_true] at hpassed
      have hv := hsame s v hs hpassed.1
      exact inOrder_cons_eq_ok.2 ⟨v, hv, .inr ⟨rfl, rest, ih hrest hpassed.2, rfl⟩⟩

namespace Session

/-- The session in another mode. -/
def inMode (s : Session) (mode : RunMode) : Session :=
  { s with settings := { s.settings with mode } }

variable {s : Session} {p : Policy} {R : Report}

theorem verdictOn_cut {st : Statement} {v : Verdict}
    (h : (s.inMode .exhaustive).verdictOn st = .ok v) :
    (s.inMode .failFast).verdictOn st = .ok v.cut := by
  unfold verdictOn inMode at *
  cases hg : s.graph with
  | none =>
    simp only [hg] at h
    exact nomatch h
  | some g =>
    simp only [hg] at h ⊢
    exact Statement.evaluate_cut h

theorem verdictOn_of_passed {st : Statement} {v : Verdict}
    (h : (s.inMode .failFast).verdictOn st = .ok v) (hv : v.passed = true) :
    (s.inMode .exhaustive).verdictOn st = .ok v := by
  unfold verdictOn inMode at *
  cases hg : s.graph with
  | none =>
    simp only [hg] at h
    exact nomatch h
  | some g =>
    simp only [hg] at h ⊢
    exact Statement.evaluate_of_passed h hv true

theorem report_eq_ok :
    (s.report p).result = .ok R ↔
      R.policy = p.name ∧ inOrder s.settings.endsAt (s.jobs p) = .ok R.verdicts := by
  obtain ⟨policy, verdicts⟩ := R
  rw [report_result]
  cases inOrder s.settings.endsAt (s.jobs p) with
  | error e => exact iff_of_false nofun fun h => nomatch h.2
  | ok vs =>
    show Except.ok (Report.mk p.name vs) = .ok _ ↔ _
    rw [Except.ok.injEq, Except.ok.injEq, Report.mk.injEq, eq_comm (a := policy)]

theorem endsAt_exhaustive (s : Session) :
    (s.inMode .exhaustive).settings.endsAt = fun _ => false := by
  funext v
  show (!(v.passed || true)) = false
  rw [Bool.or_true, Bool.not_true]

theorem endsAt_failFast (s : Session) :
    (s.inMode .failFast).settings.endsAt = fun v => !v.passed := by
  funext v
  show (!(v.passed || false)) = !v.passed
  rw [Bool.or_false]

theorem report_cut (h : ((s.inMode .exhaustive).report p).result = .ok R) :
    ((s.inMode .failFast).report p).result = .ok R.cut := by
  rw [report_eq_ok, endsAt_exhaustive] at h
  rw [report_eq_ok, endsAt_failFast]
  exact ⟨h.1, inOrder_cutAll (fun _ _ => verdictOn_cut) h.2⟩

theorem report_of_passed (h : ((s.inMode .failFast).report p).result = .ok R)
    (hpassed : R.passed = true) : ((s.inMode .exhaustive).report p).result = .ok R := by
  rw [report_eq_ok, endsAt_failFast] at h
  rw [report_eq_ok, endsAt_exhaustive]
  exact ⟨h.1, inOrder_of_passed (fun _ _ => verdictOn_of_passed) h.2 hpassed⟩

/-! ## Sessions in the two modes -/

theorem evaluates_ok_iff {after : Session} :
    s.Evaluates p (after, .ok R) ↔ s.enter R = after ∧ (s.report p).result = .ok R := by
  rw [evaluates_iff]
  unfold evaluate
  cases (s.report p).result with
  | error e => exact iff_of_false nofun fun h => nomatch h.2
  | ok R' =>
    show (s.enter R', Except.ok R') = _ ↔ _
    rw [Prod.mk.injEq, Except.ok.injEq]
    constructor
    · rintro ⟨hafter, rfl⟩
      exact ⟨hafter, rfl⟩
    · rintro ⟨hafter, rfl⟩
      exact ⟨hafter, rfl⟩

/-- A session whose report is known evaluates the policy in one way. -/
theorem evaluates_iff_of_report (h : (s.report p).result = .ok R)
    {r : Session × Except Fault Report} : s.Evaluates p r ↔ r = (s.enter R, .ok R) := by
  rw [evaluates_iff]
  unfold evaluate
  rw [h]
  exact eq_comm

/-- The violation with which a run fails, if it does. -/
def violationOf (r : Session × Except RunFault Report) : Option PolicyViolation :=
  match r.2 with
  | .error (.violated v) => some v
  | _ => none

theorem violationOf_run (h : (s.report p).result = .ok R)
    {r : Session × Except RunFault Report} (hr : s.Runs p r) : violationOf r = R.violation? := by
  obtain ⟨e, he, rfl⟩ := hr
  rw [(evaluates_iff_of_report h).1 he]
  unfold conclude violationOf
  cases hv : R.violation? with
  | none => simp only [hv]
  | some v => simp only [hv]

/-- Whatever the workers do: if an exhaustive evaluation gives a report, looking for the first
failure gives that report up to its first failure, and running the policy fails in both modes or in
neither, for want of a flow in both or in neither; and a report without failures is the one that an
exhaustive evaluation gives. -/
theorem evaluates_inMode (s : Session) (p : Policy) :
    (∀ R after, (s.inMode .exhaustive).Evaluates p (after, .ok R) →
      (∀ r, (s.inMode .failFast).Evaluates p r ↔
        r = ((s.inMode .failFast).enter R.cut, .ok R.cut)) ∧
      R.cut.passed = R.passed ∧
      ∀ x y, (s.inMode .failFast).Runs p x → (s.inMode .exhaustive).Runs p y →
        (violationOf x).map PolicyViolation.isNoFlow =
          (violationOf y).map PolicyViolation.isNoFlow) ∧
    ∀ R after, (s.inMode .failFast).Evaluates p (after, .ok R) → R.passed = true →
      ∀ r, (s.inMode .exhaustive).Evaluates p r ↔
        r = ((s.inMode .exhaustive).enter R, .ok R) := by
  constructor
  · intro R after h
    have hloud := (evaluates_ok_iff.1 h).2
    have hfast := report_cut hloud
    refine ⟨fun r => evaluates_iff_of_report hfast, ?_, fun x y hx hy => ?_⟩
    · rw [Report.passed_eq_isNone, Report.passed_eq_isNone, Report.firstIsNoFlow?_cut]
    · rw [violationOf_run hfast hx, violationOf_run hloud hy, Report.violation?_isNoFlow,
        Report.violation?_isNoFlow, Report.firstIsNoFlow?_cut]
  · intro R after h hpassed r
    exact evaluates_iff_of_report (report_of_passed (evaluates_ok_iff.1 h).2 hpassed)

/-- Two workers, the ring of peers, and policies on it: one whose first statement fails in four
places, and one that holds. -/
def controlPolicy : Policy where
  name := .text "control"
  statements := [Statement.controlStatement, Statement.ringStatement]
  distinct := by decide

def ringPolicy : Policy where
  name := .text "ring"
  statements := [Statement.ringStatement]
  distinct := by decide

theorem crossedSession_evaluates :
    (∃ R after, (crossedSession.inMode .exhaustive).Evaluates controlPolicy (after, .ok R) ∧
      R.verdicts.map (·.violations.length) = [4, 0] ∧
      ∃ after', (crossedSession.inMode .failFast).Evaluates controlPolicy (after', .ok R.cut) ∧
        R.cut.verdicts.map (·.violations.length) = [1]) ∧
    ∃ R after, (crossedSession.inMode .failFast).Evaluates ringPolicy (after, .ok R) ∧
      R.passed = true ∧
      ∃ after', (crossedSession.inMode .exhaustive).Evaluates ringPolicy (after', .ok R) := by
  let pair (a b : Int) : Violation := Statement.controlStatement.unmet (.int a) (some (.int b))
  obtain ⟨hcut, -⟩ := evaluates_inMode crossedSession controlPolicy
  obtain ⟨-, hsame⟩ := evaluates_inMode crossedSession ringPolicy
  constructor
  · let R : Report :=
      ⟨.text "control", [⟨"control", [pair 0 0, pair 0 1, pair 1 0, pair 1 1]⟩, ⟨"ring", []⟩]⟩
    have hrun : (crossedSession.inMode .exhaustive).Evaluates controlPolicy (_, .ok R) :=
      evaluates_iff.2 rfl
    obtain ⟨hfast, -, -⟩ := hcut R _ hrun
    exact ⟨R, _, hrun, rfl, _, (hfast _).2 rfl, rfl⟩
  · let R : Report := ⟨.text "ring", [⟨"ring", []⟩]⟩
    have hrun : (crossedSession.inMode .failFast).Evaluates ringPolicy (_, .ok R) :=
      evaluates_iff.2 rfl
    exact ⟨R, _, hrun, rfl, _, (hsame R _ hrun rfl _).2 rfl⟩

end Session

end InfoFlow
