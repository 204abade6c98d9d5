import InfoFlow.Choice
/-!
# The words of statements

Edges carry data or control. A premise speaks of some or of all nodes with a marker. An obligation
is asked about a matched pair of nodes or about a source's whole set of matched destinations. A
marker that a graph does not declare is an error or stands for no node.
-/

namespace InfoFlow

/-- What an edge carries. -/
inductive EdgeKind where
  | data
  | control
deriving DecidableEq, Repr

instance : Choice EdgeKind where
  all := [.data, .control]
  word
    | .data => "data"
    | .control => "control"

/-- The phrase that relates two ends of a flow, word by word. -/
def EdgeKind.relationWords : EdgeKind → List String
  | .data => ["flows", "to"]
  | .control => ["has", "control", "flow", "influence", "on"]

/-- The phrase that relates two ends of a flow. -/
def EdgeKind.relation (k : EdgeKind) : String := String.intercalate " " k.relationWords

/-- Which of the nodes with a marker are meant. -/
inductive Quantifier where
  | some
  | all
deriving DecidableEq, Repr

instance : Choice Quantifier where
  all := [.some, .all]
  word
    | .some => "some"
    | .all => "all"

/-- What an obligation is asked about. -/
inductive Shape where
  | pair
  | set
deriving DecidableEq, Repr

instance : Choice Shape where
  all := [.pair, .set]
  word
    | .pair => "pair"
    | .set => "set"

/-- How the second argument of an obligation of a shape is called. -/
def Shape.targetName : Shape → String
  | .pair => "destination"
  | .set => "premise"

/-- What a marker means that the graph does not declare. -/
inductive UnknownMarkers where
  | error
  | empty
deriving DecidableEq, Repr

instance : Choice UnknownMarkers where
  all := [.error, .empty]
  word
    | .error => "error"
    | .empty => "empty"

end InfoFlow
