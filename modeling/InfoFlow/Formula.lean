import InfoFlow.Trace
/-!
# Formulas

A formula joins atoms by conjunctions and disjunctions of any number of parts. It is evaluated from
left to right and only as far as its value needs; it is written with every part of a join between
parentheses.
-/

namespace InfoFlow

/-- Atoms joined by "and" and "or". -/
inductive Formula (α : Type) where
  | atom (a : α)
  | allOf (parts : List (Formula α))
  | anyOf (parts : List (Formula α))

namespace Formula

variable {α : Type}

mutual

/-- Evaluates a formula. -/
def evaluate (test : α → Traced Bool) : Formula α → Traced Bool
  | .atom a => test a
  | .allOf ps => evaluateAll test ps
  | .anyOf ps => evaluateAny test ps

/-- Evaluates the parts of a conjunction up to the first one that does not hold. -/
def evaluateAll (test : α → Traced Bool) : List (Formula α) → Traced Bool
  | [] => pure true
  | p :: ps => do if ← evaluate test p then evaluateAll test ps else pure false

/-- Evaluates the parts of a disjunction up to the first one that holds. -/
def evaluateAny (test : α → Traced Bool) : List (Formula α) → Traced Bool
  | [] => pure false
  | p :: ps => do if ← evaluate test p then pure true else evaluateAny test ps

end

mutual

/-- The atoms, from left to right. -/
def atoms : Formula α → List α
  | .atom a => [a]
  | .allOf ps => atomsOf ps
  | .anyOf ps => atomsOf ps

/-- The atoms of a row of formulas. -/
def atomsOf : List (Formula α) → List α
  | [] => []
  | p :: ps => atoms p ++ atomsOf ps

end

mutual

/-- The value of a formula for given values of its atoms. -/
def value (v : α → Bool) : Formula α → Bool
  | .atom a => v a
  | .allOf ps => valueAll v ps
  | .anyOf ps => valueAny v ps

/-- Whether all parts hold. -/
def valueAll (v : α → Bool) : List (Formula α) → Bool
  | [] => true
  | p :: ps => value v p && valueAll v ps

/-- Whether some part holds. -/
def valueAny (v : α → Bool) : List (Formula α) → Bool
  | [] => false
  | p :: ps => value v p || valueAny v ps

end

/-- The word between the parts of a conjunction. -/
def andWord : String := "and"

/-- The word between the parts of a disjunction. -/
def orWord : String := "or"

/-- Joins the texts of parts, each between parentheses. -/
def joinParts (joiner : String) (parts : List String) : String :=
  String.intercalate (" " ++ joiner ++ " ") (parts.map fun p => "(" ++ p ++ ")")

mutual

/-- The text of a formula, for given texts of its atoms. -/
def render (text : α → String) : Formula α → String
  | .atom a => text a
  | .allOf ps => joinParts andWord (renderParts text ps)
  | .anyOf ps => joinParts orWord (renderParts text ps)

/-- The texts of a row of formulas. -/
def renderParts (text : α → String) : List (Formula α) → List String
  | [] => []
  | p :: ps => render text p :: renderParts text ps

end

end Formula

end InfoFlow
