import InfoFlow.Node
import InfoFlow.Value
/-!
# Verdicts

The verdict on a statement is the list of its violations; the statement holds when there are none.
A violation names the source and, if one pair of nodes violates the obligation, the destination.
-/

namespace InfoFlow

/-- In which way a statement fails. -/
inductive FailureKind where
  /-- A source does not reach the destinations that it has to reach. -/
  | noFlow
  /-- An obligation does not hold. -/
  | obligationUnmet
deriving DecidableEq, Repr

/-- The name of a kind of failure. -/
def FailureKind.word : FailureKind → String
  | noFlow => "no_flow_from_source"
  | obligationUnmet => "obligation_unmet"

/-- What is said of a failure without a detail. -/
def FailureKind.defaultDetail : FailureKind → String
  | noFlow => "no flow to the destination set"
  | obligationUnmet => "obligation unmet"

/-- One way in which a statement fails. -/
structure Violation where
  kind : FailureKind
  source : Node
  destination : Option Node := none
  detail : String := ""
deriving DecidableEq

namespace Violation

/-- The destination that is shown. The null node is not: it reads as no destination. -/
def shownDestination (v : Violation) : Option Node :=
  match v.destination with
  | some .null => none
  | d => d

/-- The detail, or what is said without one. -/
def shownDetail (v : Violation) : String :=
  if v.detail = "" then v.kind.defaultDetail else v.detail

/-- The nodes that a violation names. -/
def place (v : Violation) : String :=
  match v.kind, v.shownDestination with
  | .obligationUnmet, some d => "pair (" ++ v.source.quoted ++ ", " ++ d.quoted ++ ")"
  | _, _ => "source " ++ v.source.quoted

/-- The text of a violation. -/
def render (v : Violation) : String := v.place ++ ": " ++ v.shownDetail

/-- A violation as data. -/
def toValue (v : Violation) : Value :=
  .table [("kind", .text v.kind.word), ("source", .text v.source.quoted),
    ("destination", (v.shownDestination.map fun d => Value.text d.quoted).getD .null),
    ("detail", .text v.detail)]

end Violation

/-- The verdict on a statement. -/
structure Verdict where
  statement : String
  violations : List Violation
deriving DecidableEq

namespace Verdict

/-- Whether the statement holds. -/
def passed (v : Verdict) : Bool := v.violations.isEmpty

/-- The kind of the first violation. -/
def kind? (v : Verdict) : Option FailureKind := v.violations.head?.map (·.kind)

/-- The text of a verdict. -/
def message (v : Verdict) : String :=
  let name := Text.quoted v.statement
  match v.kind? with
  | none => "statement " ++ name ++ " holds"
  | some k => "statement " ++ name ++ " failed (" ++ k.word ++ "): " ++
      String.intercalate "; " (v.violations.map Violation.render)

/-- A verdict as data. -/
def toValue (v : Verdict) : Value :=
  .table [("statement", .text v.statement), ("passed", .bool v.passed),
    ("violations", .list (v.violations.map Violation.toValue))]

end Verdict

end InfoFlow
