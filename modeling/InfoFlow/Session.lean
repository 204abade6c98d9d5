import InfoFlow.Grammar.Parser
import InfoFlow.Graph.File
import InfoFlow.Runner
/-!
# Sessions

A session keeps a graph, the settings of its runner, and a journal of the verdicts on every policy
that was evaluated. A step that fails leaves everything as it was, except that a run of a policy
that is violated has filled in the journal before it fails.
-/

namespace InfoFlow

/-- An entry of the journal. -/
structure JournalEntry where
  policy : Value
  statement : String
  passed : Bool
  message : String

/-- The entries that a report adds to the journal. -/
def Report.entries (r : Report) : List JournalEntry :=
  r.verdicts.map fun v => ⟨r.policy, v.statement, v.passed, v.message⟩

/-- What a session keeps. -/
structure Session where
  /-- None is given at first. -/
  graph : Option Graph := none
  settings : Settings := {}
  journal : List JournalEntry := []

/-- Why a policy is not run to the end without a violation. -/
inductive RunFault where
  | fault (f : Fault)
  | violated (v : PolicyViolation)

namespace Session

/-- The failures in the journal. -/
def failures (s : Session) : List JournalEntry := s.journal.filter (!·.passed)

/-- The report on a policy. Without a graph only a policy without statements has one. -/
def report (s : Session) (p : Policy) : Traced Report :=
  match s.graph with
  | some g => p.evaluate g s.settings
  | none => if p.statements.isEmpty then pure ⟨p.name, []⟩ else .fault .noGraph

/-- The session with the entries of a report in its journal. -/
def enter (s : Session) (r : Report) : Session := { s with journal := s.journal ++ r.entries }

/-- The session after an evaluation: a report is entered, a fault changes nothing. -/
def settle (s : Session) : Except Fault Report → Session × Except Fault Report
  | .ok r => (s.enter r, .ok r)
  | .error f => (s, .error f)

/-- Evaluates a policy, and enters the report. -/
def evaluate (s : Session) (p : Policy) : Session × Except Fault Report :=
  s.settle (s.report p).result

/-- How a run ends after the evaluation: it fails if the policy is violated. -/
def conclude : Session × Except Fault Report → Session × Except RunFault Report
  | (s, .error f) => (s, .error (.fault f))
  | (s, .ok r) =>
    match r.violation? with
    | some v => (s, .error (.violated v))
    | none => (s, .ok r)

/-- Evaluates a policy, enters the report, and fails if the policy is violated. -/
def run (s : Session) (p : Policy) : Session × Except RunFault Report := conclude (s.evaluate p)

/-! ## Steps -/

/-- Why what a step needs could not be made. -/
inductive MakeFault where
  | graph (f : GraphFault)
  | malformed (f : Malformed)
  | badSyntax (f : SyntaxError)

/-- Why a step of a session fails. -/
inductive StepFault where
  | unmade (f : MakeFault)
  | setting (f : SettingFault)
  | fault (f : Fault)
  | violated (v : PolicyViolation)

/-- What a step asks for, or why what it needs could not be made. -/
inductive Step where
  | replaceGraph (g : Except MakeFault Graph)
  | replaceSettings (table : Keyed String Value)
  | evaluate (p : Except MakeFault Policy)
  | run (p : Except MakeFault Policy)
  /-- Statements are run as a policy, with settings of their own or the usual ones. -/
  | runPolicy (name : Value) (statements : Except MakeFault (List Statement))
      (settings : Option Settings)
  | journal
  | failures

/-- What a step answers. -/
inductive Answer where
  | done
  | report (r : Report)
  | entries (es : List JournalEntry)

/-- Why a step fails that runs a policy. -/
def StepFault.ofRun : RunFault → StepFault
  | .fault f => .fault f
  | .violated v => .violated v

/-- How a step answers that evaluates a policy. -/
def answered {ε : Type} (fault : ε → StepFault) :
    Session × Except ε Report → Session × Except StepFault Answer
  | (s, .ok r) => (s, .ok (.report r))
  | (s, .error e) => (s, .error (fault e))

/-- The session under other settings. -/
def under (s : Session) (settings : Settings) : Session := { s with settings }

/-- How a step answers that runs a policy under settings of its own. -/
def answeredUnder (settings : Settings) (r : Session × Except RunFault Report) :
    Session × Except StepFault Answer :=
  let (s, a) := answered .ofRun r
  (s.under settings, a)

/-- One step of a session. -/
def step (s : Session) : Step → Session × Except StepFault Answer
  | .replaceGraph (.error e) | .evaluate (.error e) | .run (.error e)
  | .runPolicy _ (.error e) _ => (s, .error (.unmade e))
  | .replaceGraph (.ok g) => ({ s with graph := some g }, .ok .done)
  | .replaceSettings table =>
    match Settings.ofTable table with
    | .ok settings => (s.under settings, .ok .done)
    | .error e => (s, .error (.setting e))
  | .evaluate (.ok p) => answered .fault (s.evaluate p)
  | .run (.ok p) => answered .ofRun (s.run p)
  | .runPolicy name (.ok ss) settings =>
    match Policy.ofStatements name ss with
    | .error e => (s, .error (.unmade (.malformed e)))
    | .ok p => answeredUnder s.settings ((s.under (settings.getD .usual)).run p)
  | .journal => (s, .ok (.entries s.journal))
  | .failures => (s, .ok (.entries s.failures))

end Session

end InfoFlow
