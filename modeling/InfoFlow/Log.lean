import InfoFlow.Trace
/-!
# The log of an evaluation

Most events are logged, each as a line with a level, the name of a logger and a message. A line is
shown when its level is at least the one that is asked for.
-/

namespace InfoFlow

/-- A line of the log. -/
structure LogLine where
  /-- The name of the level. -/
  level : String
  /-- The number of the level. -/
  rank : Nat
  logger : String
  message : String

namespace LogLine

/-- A line about what an evaluation does. -/
def debug (logger message : String) : LogLine := ⟨"DEBUG", 10, "flowpolicy." ++ logger, message⟩

/-- The text of a line. -/
def render (l : LogLine) : String := "[" ++ l.level ++ "] " ++ l.logger ++ ": " ++ l.message

end LogLine

/-- The two quantifiers of a plan. -/
def planName (source destination : Quantifier) : String :=
  Choice.word source ++ "/" ++ Choice.word destination

/-- The line that logs an event, if it is logged. -/
def Event.logLine? : Event → Option LogLine
  | planned s q r =>
    some (.debug "compiler" ("compiled " ++ s ++ " with " ++ planName q r ++ " plan"))
  | resolved s a b q r =>
    some (.debug "compiler" ("statement " ++ s ++ ": " ++ toString a ++ " sources, " ++
      toString b ++ " destinations, plan " ++ planName q r))
  | undeclared m =>
    some (.debug "selector" ("marker " ++ m.text ++ " is undeclared; resolving to the empty set"))
  | called _ => none
  | unmet s label a b =>
    some (.debug "obligations" ("statement " ++ s ++ ": obligation " ++ Text.quoted label ++
      " unmet for source=" ++ a.quoted ++ " destination=" ++ (b.getD .null).quoted))
  | finished s n k =>
    some (.debug "compiler" ("statement " ++ s ++ ": " ++ toString n ++
      " obligation evaluations, " ++ toString k ++ " violations"))

/-- The lines of the log from a level on. -/
def logLines (level : Nat) (es : List Event) : List String :=
  ((es.filterMap Event.logLine?).filter fun l => level ≤ l.rank).map LogLine.render

end InfoFlow
