import InfoFlow.Evaluation
import InfoFlow.Policy
import InfoFlow.Settings
/-!
# Running policies

The statements of a policy are evaluated in their order, up to the first that fails unless every
failure is asked for. The report holds a verdict for each statement that was evaluated; a run ends
with a violation when one of them failed.
-/

namespace InfoFlow

/-- The verdicts on the statements of a policy. -/
structure Report where
  policy : Value
  verdicts : List Verdict

namespace Report

/-- Whether every statement holds. -/
def passed (r : Report) : Bool := r.verdicts.all Verdict.passed

/-- The verdicts on statements that fail. -/
def failures (r : Report) : List Verdict := r.verdicts.filter (!·.passed)

/-- A report as data. -/
def toValue (r : Report) : Value :=
  .table [("policy", r.policy), ("passed", .bool r.passed),
    ("results", .list (r.verdicts.map Verdict.toValue))]

end Report

/-- The failures of a policy, at least one. -/
structure PolicyViolation where
  policy : Value
  first : Verdict
  others : List Verdict

namespace PolicyViolation

/-- The failures, in order. -/
def failures (v : PolicyViolation) : List Verdict := v.first :: v.others

/-- Whether the first failure is that of a source that does not reach its destinations. -/
def isNoFlow (v : PolicyViolation) : Bool := v.first.kind? = some .noFlow

/-- The failures in words, one to a line. -/
def message (v : PolicyViolation) : String :=
  String.intercalate "\n" (("policy " ++ v.policy.quoted ++ " violated") ::
    v.failures.map fun f => "  " ++ f.message)

end PolicyViolation

/-- The violation that a report amounts to, if some statement fails. -/
def Report.violation? (r : Report) : Option PolicyViolation :=
  match r.failures with
  | [] => none
  | f :: fs => some ⟨r.policy, f, fs⟩

namespace Policy

/-- The verdicts on statements, up to the first that fails unless every failure is asked for. -/
def verdicts (g : Graph) (settings : Settings) : List Statement → Traced (List Verdict)
  | [] => pure []
  | s :: ss => do
    let v ← s.evaluate g settings.exhaustive settings.unknownMarkers
    if v.passed || settings.exhaustive then return v :: (← verdicts g settings ss) else pure [v]

/-- Chooses the plans of statements, and tells of them. -/
def tellPlans : List Statement → Traced Unit
  | [] => pure ()
  | s :: ss => do
    s.tellPlan
    tellPlans ss

/-- The report on a policy: all plans are chosen before any statement is evaluated. -/
def evaluate (p : Policy) (g : Graph) (settings : Settings) : Traced Report := do
  tellPlans p.statements
  return ⟨p.name, ← verdicts g settings p.statements⟩

end Policy

end InfoFlow
