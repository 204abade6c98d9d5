import InfoFlow.Endpoint
import InfoFlow.Formula
/-!
# Obligations

An obligation is a formula about matched pairs of a source and a destination, or one about a source
and the whole set of its matched destinations. Its atoms are flows, flows past checkpoints,
authorizations, conditions on the matched set, and predicates that the caller gives.
-/

namespace InfoFlow

/-- A predicate that the caller gives. -/
structure Predicate where
  /-- The name under which it goes if it has no description. -/
  name : String
  description : String := ""
  markers : List Marker := []
  /-- The tag under which its calls are told, if they are. -/
  tag : Option String := none
  holds : Graph → Node → Target → Bool

/-- What an obligation about a matched pair asks. -/
inductive PairAtom where
  /-- Nothing. -/
  | always
  /-- The subject flows to the target, or controls it. -/
  | influence (subject target : Endpoint) (kind : EdgeKind)
  /-- Some node with the marker sees the data of the source and controls a bound end. -/
  | authorized (checker : Marker) (side : Side) (label : String)
  /-- The subject flows to the target, and only past nodes with the marker. -/
  | through (checkpoint : Marker) (subject target : Endpoint)
  /-- A predicate of the caller. -/
  | custom (p : Predicate)

/-- What an obligation about a source's matched destinations asks. -/
inductive SetAtom where
  /-- The matched destinations are the nodes with a marker. -/
  | equals (m : Marker)
  /-- There are so many matched destinations. -/
  | atLeast (count : Nat)
  /-- A predicate of the caller. -/
  | custom (p : Predicate)

/-- A formula about matched pairs or about matched sets. -/
inductive Obligation where
  | pair (f : Formula PairAtom)
  | set (f : Formula SetAtom)

/-! ## Texts and markers -/

/-- The description, or else the name. -/
def Predicate.label (p : Predicate) : String := if p.description = "" then p.name else p.description

namespace PairAtom

/-- The text of an atom. -/
def label : PairAtom → String
  | always => "always"
  | influence s t k => s.label ++ " " ++ k.relation ++ " " ++ t.label
  | authorized m _ l => l ++ " is authorized by some " ++ m.text
  | through m s t =>
    s.label ++ " " ++ EdgeKind.data.relation ++ " " ++ t.label ++ " through some " ++ m.text
  | custom p => p.label

/-- The markers that an atom speaks of. -/
def markers : PairAtom → List Marker
  | always => []
  | influence s t _ => s.markers ++ t.markers
  | authorized m _ _ => [m]
  | through m s t => s.markers ++ t.markers ++ [m]
  | custom p => p.markers

end PairAtom

namespace SetAtom

/-- The text of an atom. -/
def label : SetAtom → String
  | equals m => "matched destinations equal every " ++ m.text
  | atLeast n => "at least " ++ toString n ++ " matched destinations"
  | custom p => p.label

/-- The markers that an atom speaks of. -/
def markers : SetAtom → List Marker
  | equals m => [m]
  | atLeast _ => []
  | custom p => p.markers

end SetAtom

namespace Obligation

/-- What the obligation is asked about. -/
def shape : Obligation → Shape
  | pair _ => .pair
  | set _ => .set

/-- The text of an obligation. -/
def label : Obligation → String
  | pair f => f.render PairAtom.label
  | set f => f.render SetAtom.label

/-- The description, which only a predicate of the caller can lack. -/
def description : Obligation → String
  | pair (.atom (.custom p)) => p.description
  | set (.atom (.custom p)) => p.description
  | o => o.label

/-- The markers that an obligation speaks of. -/
def markers : Obligation → List Marker
  | pair f => f.atoms.flatMap PairAtom.markers
  | set f => f.atoms.flatMap SetAtom.markers

/-- The obligation that asks nothing. -/
def always : Obligation := .pair (.atom .always)

/-- Whether an obligation is the one that asks nothing. -/
def isAlways : Obligation → Bool
  | pair (.atom .always) => true
  | _ => false

/-! ## Making obligations -/

/-- The subject flows to the target, or controls it. -/
def influence (subject target : Endpoint) (kind : EdgeKind) : Obligation :=
  .pair (.atom (.influence subject target kind))

/-- Some node with the marker sees the source's data and controls a bound end. -/
def authorizedBy (checker : Marker) (target : Endpoint) : Except Malformed Obligation :=
  match target.role with
  | .bound side => .ok (.pair (.atom (.authorized checker side target.label)))
  | .marked => .error .unboundAuthorized

/-- The subject flows to the target, and only past nodes with the marker. -/
def through (checkpoint : Marker) (subject target : Endpoint) : Obligation :=
  .pair (.atom (.through checkpoint subject target))

/-- The matched destinations are the nodes with the marker. -/
def premiseEquals (m : Marker) : Obligation := .set (.atom (.equals m))

/-- There are so many matched destinations. -/
def premiseAtLeast (count : Int) : Except Malformed Obligation :=
  if count < 0 then .error (.negativeSize count) else .ok (.set (.atom (.atLeast count.toNat)))

/-- A predicate of the caller, asked about pairs or about sets. -/
def custom (shape : Shape) (p : Predicate) : Obligation :=
  match shape with
  | .pair => .pair (.atom (.custom p))
  | .set => .set (.atom (.custom p))

/-- The formulas of obligations that are all about pairs. -/
def pairs? : List Obligation → Option (List (Formula PairAtom))
  | [] => some []
  | .pair f :: os => (pairs? os).map (f :: ·)
  | .set _ :: _ => none

/-- The formulas of obligations that are all about sets. -/
def sets? : List Obligation → Option (List (Formula SetAtom))
  | [] => some []
  | .set f :: os => (sets? os).map (f :: ·)
  | .pair _ :: _ => none

/-- Joins obligations of one shape, at least one. -/
def combine (joiner : String)
    (pairs : List (Formula PairAtom) → Formula PairAtom)
    (sets : List (Formula SetAtom) → Formula SetAtom)
    (os : List Obligation) : Except Malformed Obligation :=
  if os.isEmpty then .error (.emptyCombination joiner)
  else
    match pairs? os, sets? os with
    | some fs, _ => .ok (.pair (pairs fs))
    | none, some fs => .ok (.set (sets fs))
    | none, none => .error (.mixedShapes joiner)

/-- All of some obligations. -/
def allOf : List Obligation → Except Malformed Obligation :=
  combine Formula.andWord .allOf .allOf

/-- Some of some obligations. -/
def anyOf : List Obligation → Except Malformed Obligation :=
  combine Formula.orWord .anyOf .anyOf

end Obligation

end InfoFlow
