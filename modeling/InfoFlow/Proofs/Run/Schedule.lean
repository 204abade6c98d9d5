import InfoFlow.Proofs.Evaluation.Violations
import InfoFlow.Proofs.Run.Pool
import InfoFlow.Schedule
/-!
# Schedules do not matter

The verdicts on a policy are those of its statements, read in order. A pool reads them in order
too, so whatever its workers do, a session ends up with the report and the journal that it would
have with one worker.
-/

namespace InfoFlow

/-! ## Evaluating one statement after the other -/

namespace Policy

theorem verdicts_result (g : Graph) (settings : Settings) (ss : List Statement) :
    (verdicts g settings ss).result = inOrder settings.endsAt
      (ss.map fun s => (s.evaluate g settings.exhaustive settings.unknownMarkers).result) := by
  induction ss with
  | nil => rfl
  | cons s ss ih =>
    rw [verdicts, Traced.result_bind, List.map_cons]
    cases (s.evaluate g settings.exhaustive settings.unknownMarkers).result with
    | error e => rfl
    | ok v =>
      rw [inOrder, ← ih]
      unfold Settings.endsAt
      show Traced.result (if (v.passed || settings.exhaustive) = true then _ else _) = _
      cases v.passed || settings.exhaustive with
      | false => rfl
      | true =>
        simp only [if_true, Bool.not_true, if_neg Bool.false_ne_true]
        rw [Traced.result_bind]
        cases (verdicts g settings ss).result <;> rfl

theorem tellPlans_result (ss : List Statement) : (tellPlans ss).result = .ok () := by
  induction ss with
  | nil => rfl
  | cons s ss ih =>
    rw [tellPlans, Statement.tellPlan_eq, Traced.result_bind]
    exact ih

end Policy

namespace Session

variable {s : Session} {p : Policy}

/-- A report holds the verdicts on the statements, read in order. -/
theorem report_result (s : Session) (p : Policy) :
    (s.report p).result = (inOrder s.settings.endsAt (s.jobs p)).map (Report.mk p.name) := by
  unfold report jobs verdictOn
  cases s.graph with
  | none =>
    cases hss : p.statements with
    | nil => rfl
    | cons st ss => rfl
  | some g =>
    show (p.evaluate g s.settings).result = _
    rw [Policy.evaluate, Traced.result_bind, Policy.tellPlans_result]
    show (Policy.verdicts g s.settings p.statements >>= _).result = _
    rw [Traced.result_bind, Policy.verdicts_result]
    cases inOrder s.settings.endsAt (p.statements.map _) <;> rfl

/-! ## Evaluating by schedule -/

theorem poolAfter_sound {schedule : List PoolAction} {pool : Pool Verdict}
    (h : s.poolAfter p schedule = some pool) :
    pool.Sound (s.jobs p) s.settings.endsAt ∧ schedule.length ≤ 3 * p.statements.length := by
  obtain ⟨hsound, hlength⟩ := (Pool.initial_sound (s.jobs p) s.settings.endsAt).of_run h
  have hleft := Pool.left_initial (s.jobs p)
  have hjobs : (s.jobs p).length = p.statements.length := List.length_map _
  exact ⟨hsound, by omega⟩

/-- Every schedule can be followed to its end. -/
theorem exists_poolAfter_append {schedule : List PoolAction} {pool : Pool Verdict}
    (h : s.poolAfter p schedule = some pool) :
    ∃ more final, s.poolAfter p (schedule ++ more) = some final ∧ final.isQuiet = true := by
  obtain ⟨more, final, hfinal, hquiet⟩ :=
    (poolAfter_sound h).1.exists_quiet s.settings.workers_pos
  refine ⟨more, final, ?_, hquiet⟩
  unfold poolAfter
  rw [Pool.run_append, show Pool.run _ _ _ _ schedule = some pool from h]
  exact hfinal

/-- A policy has one report or fault, whatever the workers do. -/
theorem yields_iff {x : Except Fault Report} : s.Yields p x ↔ (s.report p).result = x := by
  unfold Yields
  cases hpooled : s.isPooled p with
  | false => exact Iff.rfl
  | true =>
    rw [if_pos rfl, report_result]
    constructor
    · rintro ⟨schedule, pool, hpool, hquiet, hx⟩
      rw [(poolAfter_sound hpool).1.outcome hquiet] at hx
      exact Option.some.inj hx
    · rintro rfl
      have hstart : s.poolAfter p [] = some (.initial (s.jobs p)) := rfl
      obtain ⟨schedule, pool, hpool, hquiet⟩ := exists_poolAfter_append hstart
      refine ⟨schedule, pool, hpool, hquiet, ?_⟩
      rw [(poolAfter_sound hpool).1.outcome hquiet]
      rfl

theorem evaluates_iff {r : Session × Except Fault Report} :
    s.Evaluates p r ↔ s.evaluate p = r := by
  unfold Evaluates evaluate
  simp only [yields_iff, exists_eq_left']

/-- The session with one worker. -/
def alone (s : Session) : Session :=
  { s with settings := { s.settings with workers := 1, workers_pos := Nat.one_pos } }

theorem report_alone_result (s : Session) (p : Policy) :
    (s.alone.report p).result = (s.report p).result := by
  rw [report_result, report_result]
  rfl

/-- Whatever schedule the workers of a session follow, and whichever jobs are cancelled, the session
ends up with a report or a fault and a journal, and these are the ones that it would end up with if
it had one worker. Every schedule comes to an end, and if the first failure ends the reading,
nothing about a statement after it is ever observed. -/
theorem evaluates_as_alone (s : Session) (p : Policy) :
    (∃ r, s.Evaluates p r) ∧
      (∀ r r', s.Evaluates p r → s.alone.Evaluates p r' →
        r.2 = r'.2 ∧ r.1.journal = r'.1.journal) ∧
      ∀ schedule pool, s.poolAfter p schedule = some pool →
        schedule.length ≤ 3 * p.statements.length ∧
        (∃ more final, s.poolAfter p (schedule ++ more) = some final ∧ final.isQuiet = true) ∧
        ∀ i v, s.settings.mode = .failFast → (s.jobs p)[i]? = some (.ok v) → v.passed = false →
          pool.observed <+: (s.jobs p).take (i + 1) := by
  refine ⟨⟨s.evaluate p, evaluates_iff.2 rfl⟩, ?_, ?_⟩
  · intro r r' hr hr'
    rw [← evaluates_iff.1 hr, ← evaluates_iff.1 hr']
    unfold evaluate
    rw [report_alone_result]
    cases (s.report p).result with
    | ok R => exact ⟨rfl, rfl⟩
    | error e => exact ⟨rfl, rfl⟩
  · intro schedule pool hpool
    obtain ⟨hsound, hlength⟩ := poolAfter_sound hpool
    refine ⟨hlength, exists_poolAfter_append hpool, fun i v hmode hi hfailed => ?_⟩
    apply Pool.observed_isPrefix hsound.reading hi
    unfold Settings.endsAt Settings.exhaustive
    rw [hfailed, hmode]
    rfl

/-- A marker that the ring does not declare. -/
def stranger : Marker := ⟨"stranger", by decide⟩

def strangeStatement : Statement :=
  { Statement.controlStatement with
    name := "strange", source := stranger, name_ne_blank := by decide }

def crossedPolicy : Policy where
  name := .text "crossed"
  statements := [Statement.controlStatement, strangeStatement]
  distinct := by decide

/-- Two workers, who look for the first failure. -/
def crossedSession : Session where
  graph := some Statement.ringGraph
  settings := { workers := 2 }

/-- The second statement is done before the first one, and its fault is not observed. -/
theorem crossedSession_observed :
    ∃ pool v, crossedSession.poolAfter crossedPolicy
        [.start 0, .start 1, .finish 1, .finish 0, .read] = some pool ∧
      crossedSession.settings.mode = .failFast ∧
      (crossedSession.jobs crossedPolicy)[0]? = some (.ok v) ∧ v.passed = false ∧
      pool.observed <+: (crossedSession.jobs crossedPolicy).take 1 ∧ pool.observed ≠ [] := by
  obtain ⟨-, -, hschedules⟩ := evaluates_as_alone crossedSession crossedPolicy
  let v : Verdict := ⟨"control", [Statement.controlStatement.unmet (.int 0) (some (.int 0))]⟩
  have hjobs : crossedSession.jobs crossedPolicy =
      [.ok v, .error (.unknownMarker stranger)] := rfl
  have hfirst : (crossedSession.jobs crossedPolicy)[0]? = some (.ok v) := by
    rw [hjobs]
    rfl
  have hpool : crossedSession.poolAfter crossedPolicy
      [.start 0, .start 1, .finish 1, .finish 0, .read] =
        some ⟨[.finished, .finished], [v], some (.ok ())⟩ := by
    unfold poolAfter
    rw [hjobs]
    rfl
  obtain ⟨-, -, hobserved⟩ := hschedules _ _ hpool
  exact ⟨_, v, hpool, rfl, hfirst, rfl, hobserved 0 v rfl hfirst rfl, List.cons_ne_nil _ _⟩

end Session

end InfoFlow
