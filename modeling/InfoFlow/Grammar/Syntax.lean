import InfoFlow.Grammar.Token
import InfoFlow.Policy
/-!
# The grammar of policies

A policy is a row of sentences, and a sentence is a tree of the rules of the grammar:

* sentence: `[NAME :] [always [,]] premise [through some MARKER] [then obligation] .`, or with `if`
  in front of the premise, where the obligation is then required and the checkpoint not allowed;
* premise: `quantifier MARKER relation quantifier MARKER`;
* obligation: conjunctions joined by `or`; conjunction: atoms joined by `and`;
* atom: an obligation between parentheses, `end relation end [through some MARKER]`, or
  `MARKER is authorized by some MARKER`;
* end: `quantifier MARKER`, or one of the two markers of the premise.

A tree is written in one row of words and marks, and it denotes a statement. Nothing here says how
a text is read.
-/

namespace InfoFlow.Grammar

/-! ## Names -/

/-- A word that is not a keyword. It names a statement or a marker. -/
structure Name where
  text : String
  formed : TokenKind.word.admits text.toList = true
  free : keywords.contains text = false
deriving DecidableEq

/-- The marker that a name names. -/
def Name.marker (n : Name) : Marker where
  text := n.text
  text_ne h := by
    have formed := n.formed
    rw [h] at formed
    exact Bool.false_ne_true formed

/-- The name that a token is. -/
def Name.ofToken (t : Token) (h : t.isName = true) : Name where
  text := t.text
  formed := by
    have formed := t.formed
    rw [Token.isName, Bool.and_eq_true, decide_eq_true_eq] at h
    rw [h.1] at formed
    exact formed
  free := by
    rw [Token.isName, Bool.and_eq_true, Bool.not_eq_true'] at h
    exact h.2

/-! ## Trees -/

/-- A premise relates two markers, which have to differ. -/
structure Premise where
  sourceQuantifier : Quantifier
  source : Name
  kind : EdgeKind
  destinationQuantifier : Quantifier
  destination : Name
  distinct : source ≠ destination

/-- What stands after a relation and its ends: a checkpoint, which only data pass, or nothing. -/
structure Passage (k : EdgeKind) where
  checkpoint : Option Name
  data : checkpoint.isSome = true → k = .data

/-- An end of a flow after a premise. -/
inductive End where
  | quantified (q : Quantifier) (m : Name)
  /-- The marker of the premise on a side, without a quantifier. -/
  | bare (side : Side)

mutual

/-- An atom of an obligation. -/
inductive Atom where
  | group (inner : Disjunction)
  | flow (subject : End) (kind : EdgeKind) (target : End) (passage : Passage kind)
  | authorized (side : Side) (checker : Name)

/-- Atoms with "and" between them. -/
inductive Conjunction where
  | one (a : Atom)
  | and (a : Atom) (others : Conjunction)

/-- Conjunctions with "or" between them: an obligation. -/
inductive Disjunction where
  | one (c : Conjunction)
  | or (c : Conjunction) (others : Disjunction)

end

/-- The word `always`, which changes nothing, with a comma after it or not. -/
inductive Opening where
  | none
  | always
  | comma

/-- A premise and what it lays on its matches. -/
inductive Body where
  | plain (f : Premise) (passage : Passage f.kind) (clause : Option Disjunction)
  | conditional (f : Premise) (clause : Disjunction)

/-- A sentence states one statement. -/
structure Sentence where
  name : Option Name
  opening : Opening
  body : Body

/-! ## Words -/

/-- The name of the marker that a premise binds on a side. -/
def Premise.name (f : Premise) : Side → Name
  | .source => f.source
  | .destination => f.destination

/-- The side of a premise that binds a marker. -/
def Premise.side? (f : Premise) (m : Name) : Option Side :=
  if m = f.source then some .source else if m = f.destination then some .destination else none

/-- How a premise is written. -/
def Premise.words (f : Premise) : List String :=
  [Choice.word f.sourceQuantifier, f.source.text] ++ (f.kind.relationWords ++
    [Choice.word f.destinationQuantifier, f.destination.text])

/-- How a passage is written. -/
def Passage.words {k : EdgeKind} (p : Passage k) : List String :=
  match p.checkpoint with
  | none => []
  | some m => ["through", "some", m.text]

/-- How an end is written. -/
def End.words (f : Premise) : End → List String
  | quantified q m => [Choice.word q, m.text]
  | bare side => [(f.name side).text]

mutual

/-- How an atom is written. -/
def Atom.words (f : Premise) : Atom → List String
  | .group inner => "(" :: (inner.words f ++ [")"])
  | .flow subject kind target passage =>
    subject.words f ++ (kind.relationWords ++ (target.words f ++ passage.words))
  | .authorized side m => [(f.name side).text, "is", "authorized", "by", "some", m.text]

/-- How a conjunction is written. -/
def Conjunction.words (f : Premise) : Conjunction → List String
  | .one a => a.words f
  | .and a others => a.words f ++ Formula.andWord :: others.words f

/-- How an obligation is written. -/
def Disjunction.words (f : Premise) : Disjunction → List String
  | .one c => c.words f
  | .or c others => c.words f ++ Formula.orWord :: others.words f

end

/-- How an opening is written. -/
def Opening.words : Opening → List String
  | none => []
  | always => ["always"]
  | comma => ["always", ","]

/-- How the clause after a premise is written, if there is one. -/
def clauseWords (f : Premise) : Option Disjunction → List String
  | none => []
  | some o => "then" :: o.words f

/-- How a body is written. -/
def Body.words : Body → List String
  | plain f passage clause => f.words ++ (passage.words ++ clauseWords f clause)
  | conditional f clause => "if" :: (f.words ++ clauseWords f (some clause))

/-- How a sentence is written. -/
def Sentence.words (d : Sentence) : List String :=
  d.name.elim [] (fun n => [n.text, ":"]) ++ (d.opening.words ++ (d.body.words ++ ["."]))

/-! ## Meaning -/

/-- The end that is meant after a premise. -/
def End.endpoint (f : Premise) : End → Endpoint
  | quantified q m => .marked m.marker q
  | bare side => .bound side (f.name side).text

/-- A join of formulas, or the formula itself if there is only one. -/
def joined (join : List (Formula PairAtom) → Formula PairAtom) :
    List (Formula PairAtom) → Formula PairAtom
  | [f] => f
  | fs => join fs

mutual

/-- What an atom asks. -/
def Atom.formula (f : Premise) : Atom → Formula PairAtom
  | .group inner => joined .anyOf (inner.formulas f)
  | .flow subject kind target passage =>
    match passage.checkpoint with
    | none => .atom (.influence (subject.endpoint f) (target.endpoint f) kind)
    | some m => .atom (.through m.marker (subject.endpoint f) (target.endpoint f))
  | .authorized side m => .atom (.authorized m.marker side (f.name side).text)

/-- What the atoms of a conjunction ask. -/
def Conjunction.formulas (f : Premise) : Conjunction → List (Formula PairAtom)
  | .one a => [a.formula f]
  | .and a others => a.formula f :: others.formulas f

/-- What the conjunctions of an obligation ask. -/
def Disjunction.formulas (f : Premise) : Disjunction → List (Formula PairAtom)
  | .one c => [joined .allOf (c.formulas f)]
  | .or c others => joined .allOf (c.formulas f) :: others.formulas f

end

/-- What an obligation asks. -/
def Disjunction.formula (f : Premise) (o : Disjunction) : Formula PairAtom :=
  joined .anyOf (o.formulas f)

/-- The checkpoint of a premise, as an obligation about what it binds. -/
def premiseThrough (f : Premise) (m : Name) : Formula PairAtom :=
  .atom (.through m.marker (.bound .source f.source.text)
    (.bound .destination f.destination.text))

/-- The obligation of a statement: what the premise and what the clause after it ask for. -/
def stated : Option (Formula PairAtom) → Option (Formula PairAtom) → Formula PairAtom
  | none, none => .atom .always
  | some f, none => f
  | none, some f => f
  | some f, some g => .allOf [f, g]

/-- The premise of a body. -/
def Body.premise : Body → Premise
  | plain f _ _ => f
  | conditional f _ => f

/-- What a body asks of the matches of its premise. -/
def Body.formula : Body → Formula PairAtom
  | plain f passage clause =>
    stated (passage.checkpoint.map (premiseThrough f)) (clause.map (Disjunction.formula f))
  | conditional f clause => clause.formula f

/-- The name of a statement that is not given one: its place in the policy, from one on. -/
def defaultName (index : Nat) : String := "statement_" ++ toString index

/-- The name of the statement at a place of the policy. -/
def Sentence.statementName (d : Sentence) (index : Nat) : String :=
  d.name.elim (defaultName index) Name.text

/-- The statement at a place of the policy, from checked parts. -/
def Sentence.statement (d : Sentence) (index : Nat) : Except Malformed Statement :=
  let f := d.body.premise
  Statement.ofParts (d.statementName index) f.source.marker f.destination.marker f.kind
    f.sourceQuantifier f.destinationQuantifier (.pair d.body.formula)

end InfoFlow.Grammar
