import InfoFlow.NodeSet
import InfoFlow.Statement
/-!
# Verification plans

The two quantifiers of a premise select a plan. A plan tells which condition every source has to
meet before any obligation is evaluated, and which condition a source has to meet for its obligation
to be evaluated at all. Both compare the matched destinations of the source with the destination
set.
-/

namespace InfoFlow

/-- A condition on the matched destinations of a source. -/
inductive Gate where
  /-- No condition. -/
  | any
  /-- Some destination is matched. -/
  | nonEmpty
  /-- Every destination is matched. -/
  | whole
deriving DecidableEq, Repr

/-- Whether the matched destinations, out of all of them, meet a condition. -/
def Gate.passes (gate : Gate) (matched destinations : NodeSet) : Bool :=
  match gate with
  | any => true
  | nonEmpty => !matched.isEmpty
  | whole => matched.same destinations

/-- How a statement is verified. -/
structure Plan where
  /-- What every source has to meet first, and what is said of one that does not. -/
  entry : Option (Gate × String)
  /-- What a source has to meet for its obligation to be evaluated. -/
  trigger : Gate
  /-- The plan in words. -/
  summary : String

/-- The plans, each under the quantifiers that select it. -/
def Plan.table : Keyed (Quantifier × Quantifier) Plan := [
  ((.some, .some), {
    entry := none, trigger := .any
    summary := "for each source, every matched destination satisfies the obligation" }),
  ((.some, .all), {
    entry := none, trigger := .whole
    summary := "for each source reaching the entire destination set, " ++
      "the matched destinations satisfy the obligation" }),
  ((.all, .some), {
    entry := some (.nonEmpty, "reaches no destination"), trigger := .any
    summary := "every source reaches at least one destination, then every " ++
      "matched destination satisfies the obligation" }),
  ((.all, .all), {
    entry := some (.whole, "does not reach every destination"), trigger := .any
    summary := "every source reaches the entire destination set, then every " ++
      "matched destination satisfies the obligation" })]

/-- The plan for two quantifiers, if there is one. -/
def Plan.find? (q r : Quantifier) : Option Plan := Plan.table.get? (q, r)

theorem Plan.isSome_find? (q r : Quantifier) : (Plan.find? q r).isSome = true := by
  cases q <;> cases r <;> rfl

/-- The plan that two quantifiers select. -/
def Plan.select (q r : Quantifier) : Plan := (Plan.find? q r).get (Plan.isSome_find? q r)

theorem Plan.entry_select (q r : Quantifier) : (Plan.select q r).entry =
    match q, r with
    | .some, _ => none
    | .all, .some => some (.nonEmpty, "reaches no destination")
    | .all, .all => some (.whole, "does not reach every destination") := by
  cases q <;> cases r <;> rfl

theorem Plan.trigger_select (q r : Quantifier) : (Plan.select q r).trigger =
    match q, r with
    | .some, .all => .whole
    | _, _ => .any := by
  cases q <;> cases r <;> rfl

namespace Statement

/-- The plan of a statement. -/
def plan (s : Statement) : Plan := .select s.sourceQuantifier s.destinationQuantifier

/-- The matched destinations of a source: those that it reaches along the statement's edges. -/
def premise (s : Statement) (g : Graph) (source : Node) (destinations : NodeSet) : NodeSet :=
  (g.influencees source s.kind).filter (· ∈ destinations)

/-- The statement and its plan in words, line by line. -/
def description (s : Statement) : List String :=
  [s.name ++ ": " ++ s.render,
    "  sources: nodes marked " ++ s.source.text,
    "  destinations: nodes marked " ++ s.destination.text,
    "  premise: destinations among " ++ Choice.word s.kind ++ " influencees of the source",
    "  check: " ++ s.plan.summary,
    "  obligation (" ++ Choice.word s.obligation.shape ++ "): " ++ s.obligation.label]

/-- The statement and its plan in words. -/
def describe (s : Statement) : String := String.intercalate "\n" s.description

end Statement

end InfoFlow
