import InfoFlow.Obligation.Candidate
/-!
# Statements

A statement relates some or all nodes with one marker to some or all nodes with another, and lays
an obligation on what it matches. Its name is not blank, and an obligation about the matched set
asks for the whole destination set.
-/

namespace InfoFlow

/-- One quantified assertion about flows. -/
structure Statement where
  name : String
  source : Marker
  destination : Marker
  kind : EdgeKind
  sourceQuantifier : Quantifier
  destinationQuantifier : Quantifier
  obligation : Obligation
  name_ne_blank : Text.isBlankText name = false
  all_of_set : obligation.shape = .set → destinationQuantifier = .all

namespace Statement

/-- A name that is not blank. -/
def checkName (name : String) : Except Malformed { n : String // Text.isBlankText n = false } :=
  if h : Text.isBlankText name = false then .ok ⟨name, h⟩ else .error .blankName

/-- A name given as a piece of data. -/
def checkNameValue : Value → Except Malformed { n : String // Text.isBlankText n = false }
  | .text name => checkName name
  | _ => .error .blankName

/-- Whether a quantifier lets an obligation speak of the matched set. -/
def checkShape (name : String) (q : Quantifier) (o : Obligation) :
    Except Malformed (PLift (o.shape = .set → q = .all)) :=
  if h : o.shape = .set → q = .all then .ok ⟨h⟩ else .error (.setNeedsAll name o.label)

/-- A statement from checked parts. -/
def ofParts (name : String) (source destination : Marker) (kind : EdgeKind)
    (sourceQuantifier destinationQuantifier : Quantifier) (obligation : Obligation) :
    Except Malformed Statement := do
  let ⟨name, name_ne_blank⟩ ← checkName name
  let ⟨all_of_set⟩ ← checkShape name destinationQuantifier obligation
  return { name, source, destination, kind, sourceQuantifier, destinationQuantifier, obligation,
           name_ne_blank, all_of_set }

/-- The parts of a statement, none of them checked. -/
structure Parts where
  name : Value
  source : Value
  destination : Value
  kind : Value := .text (Choice.word EdgeKind.data)
  sourceQuantifier : Value := .text (Choice.word Quantifier.some)
  destinationQuantifier : Value := .text (Choice.word Quantifier.some)
  obligation : Candidate := .obligation .always

/-- A statement from unchecked parts, which are checked in their order. -/
def ofUnchecked (p : Parts) : Except Malformed Statement := do
  let ⟨name, name_ne_blank⟩ ← checkNameValue p.name
  let source ← Marker.ofValue p.source
  let destination ← Marker.ofValue p.destination
  let kind ← Choice.read "edge kind" p.kind
  let sourceQuantifier ← Choice.read "source quantifier" p.sourceQuantifier
  let destinationQuantifier ← Choice.read "destination quantifier" p.destinationQuantifier
  let obligation ← Obligation.ofCandidate p.obligation
  let ⟨all_of_set⟩ ← checkShape name destinationQuantifier obligation
  return { name, source, destination, kind, sourceQuantifier, destinationQuantifier, obligation,
           name_ne_blank, all_of_set }

/-- The statement under another name, given as a piece of data. -/
def rename (s : Statement) (name : Value) : Except Malformed Statement := do
  let ⟨name, name_ne_blank⟩ ← checkNameValue name
  return { s with name, name_ne_blank }

/-- The markers that a statement speaks of, its obligation included. -/
def markers (s : Statement) : List Marker := s.source :: s.destination :: s.obligation.markers

/-- The text of a statement. -/
def render (s : Statement) : String :=
  Choice.word s.sourceQuantifier ++ " " ++ s.source.text ++ " " ++ s.kind.relation ++ " " ++
    Choice.word s.destinationQuantifier ++ " " ++ s.destination.text ++ " then " ++
    s.obligation.label

end Statement

end InfoFlow
