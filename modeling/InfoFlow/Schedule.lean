import InfoFlow.Pool
import InfoFlow.Session
/-!
# Evaluating policies by schedule

With several workers, the statements of a policy are evaluated as the jobs of a pool. A schedule
says who does what when; which report a session then enters is read from the pool, in the order of
the statements, once nobody is at work any more. A single statement needs no pool.
-/

namespace InfoFlow

/-- Whether no further verdict is asked for: after a failure, unless every failure is. -/
def Settings.endsAt (settings : Settings) (v : Verdict) : Bool :=
  !(v.passed || settings.exhaustive)

namespace Session

/-- The verdict on one statement. -/
def verdictOn (s : Session) (st : Statement) : Except Fault Verdict :=
  match s.graph with
  | some g => (st.evaluate g s.settings.exhaustive s.settings.unknownMarkers).result
  | none => .error .noGraph

/-- The evaluations of the statements of a policy. No one depends on another. -/
def jobs (s : Session) (p : Policy) : List (Except Fault Verdict) := p.statements.map s.verdictOn

/-- Whether there is something to share out, and somebody to share it with. -/
def isPooled (s : Session) (p : Policy) : Bool :=
  1 < s.settings.workers && 1 < p.statements.length

/-- The pool in which a schedule leaves the evaluations, if it can be followed. -/
def poolAfter (s : Session) (p : Policy) (schedule : List PoolAction) : Option (Pool Verdict) :=
  Pool.run (s.jobs p) s.settings.workers s.settings.endsAt (.initial (s.jobs p)) schedule

/-- An evaluation may give this report or stop with this fault. -/
def Yields (s : Session) (p : Policy) (x : Except Fault Report) : Prop :=
  if s.isPooled p then
    ∃ schedule pool, s.poolAfter p schedule = some pool ∧ pool.isQuiet = true ∧
      pool.outcome?.map (·.map (Report.mk p.name)) = some x
  else (s.report p).result = x

/-- A session may evaluate a policy so, and be another one after it. -/
def Evaluates (s : Session) (p : Policy) (r : Session × Except Fault Report) : Prop :=
  ∃ x, s.Yields p x ∧ s.settle x = r

/-- A session may run a policy so, and be another one after it. -/
def Runs (s : Session) (p : Policy) (r : Session × Except RunFault Report) : Prop :=
  ∃ e, s.Evaluates p e ∧ conclude e = r

/-- A session may take a step so. Only steps that evaluate a policy depend on the workers. -/
def Takes (s : Session) : Step → Session × Except StepFault Answer → Prop
  | .evaluate (.ok p), r => ∃ e, s.Evaluates p e ∧ answered .fault e = r
  | .run (.ok p), r => ∃ e, s.Runs p e ∧ answered .ofRun e = r
  | .runPolicy name (.ok ss) settings, r =>
    match Policy.ofStatements name ss with
    | .error e => (s, .error (.unmade (.malformed e))) = r
    | .ok p => ∃ e, (s.under (settings.getD .usual)).Runs p e ∧ answeredUnder s.settings e = r
  | step, r => s.step step = r

end Session

end InfoFlow
