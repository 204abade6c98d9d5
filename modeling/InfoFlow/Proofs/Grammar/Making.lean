import InfoFlow.Proofs.Grammar.Denotation
/-!
# Making what sentences denote

Markers, joined obligations, authorizations and statements check what they are put together from. A
sentence gives them nothing that they refuse: whatever tree it is, what it denotes can be put
together step by step, with every check made on the way.
-/

namespace InfoFlow

theorem Choice.read_word {α : Type} [Choice α] (what : String) {a : α}
    (h : ofText? (word a) = some a) : Choice.read what (.text (word a)) = .ok a := by
  have hread : (Value.text (word a)).text?.bind ofText? = some a := h
  unfold Choice.read
  rw [hread]

theorem EdgeKind.ofText?_word (k : EdgeKind) : Choice.ofText? (Choice.word k) = some k := by
  cases k <;> decide +kernel

theorem Quantifier.ofText?_word (q : Quantifier) :
    Choice.ofText? (Choice.word q) = Option.some q := by
  cases q <;> decide +kernel

/-! ## Joined obligations -/

namespace Obligation

theorem pairs?_map (fs : List (Formula PairAtom)) : pairs? (fs.map .pair) = some fs := by
  induction fs with
  | nil => rfl
  | cons f fs ih =>
    rw [List.map_cons, pairs?, ih]
    rfl

/-- Obligations about pairs can be joined if there are any. -/
theorem combine_map_pair {joiner : String}
    {pairs : List (Formula PairAtom) → Formula PairAtom}
    {sets : List (Formula SetAtom) → Formula SetAtom} {fs : List (Formula PairAtom)}
    (hfs : fs ≠ []) : combine joiner pairs sets (fs.map .pair) = .ok (.pair (pairs fs)) := by
  unfold combine
  rw [pairs?_map, if_neg]
  rw [List.isEmpty_iff, List.map_eq_nil_iff]
  exact hfs

end Obligation

namespace Grammar

/-! ## Making -/

/-- The marker that a name names, which must not be empty. -/
def Name.made (n : Name) : Except Malformed Marker := Marker.ofText n.text

/-- The end that is meant after a premise. -/
def End.made (f : Premise) : End → Except Malformed Endpoint
  | quantified q m => return .marked (← m.made) q
  | bare side => return .bound side (← (f.name side).made).text

/-- The checkpoint between two ends, which is asked for if there is one. -/
def Passage.made {k : EdgeKind} (p : Passage k) (subject target : Endpoint) :
    Except Malformed (Option Obligation) :=
  match p.checkpoint with
  | none => return none
  | some m => return some (.through (← m.made) subject target)

/-- Joins obligations if there are more than one. -/
def joinedMade (join : List Obligation → Except Malformed Obligation) :
    List Obligation → Except Malformed Obligation
  | [o] => .ok o
  | os => join os

mutual

/-- The obligation of an atom. -/
def Atom.made (f : Premise) : Atom → Except Malformed Obligation
  | .group inner => do joinedMade Obligation.anyOf (← inner.made f)
  | .flow subject kind target passage => do
    let subject ← subject.made f
    let target ← target.made f
    return (← passage.made subject target).getD (.influence subject target kind)
  | .authorized side m => do
    let subject ← (End.bare side).made f
    Obligation.authorizedBy (← m.made) subject

/-- The obligations of the atoms of a conjunction. -/
def Conjunction.made (f : Premise) : Conjunction → Except Malformed (List Obligation)
  | .one a => return [← a.made f]
  | .and a others => return (← a.made f) :: (← others.made f)

/-- The obligations of the conjunctions of an obligation. -/
def Disjunction.made (f : Premise) : Disjunction → Except Malformed (List Obligation)
  | .one c => return [← joinedMade Obligation.allOf (← c.made f)]
  | .or c others => return (← joinedMade Obligation.allOf (← c.made f)) :: (← others.made f)

end

/-- The obligation that is written after a premise. -/
def Disjunction.obligation (f : Premise) (o : Disjunction) : Except Malformed Obligation := do
  joinedMade Obligation.anyOf (← o.made f)

/-- What the premise and the clause after it ask for together. -/
def statedMade : Option Obligation → Option Obligation → Except Malformed Obligation
  | none, none => .ok .always
  | some o, none => .ok o
  | none, some o => .ok o
  | some o, some p => Obligation.allOf [o, p]

/-- The obligation that is written after a premise, if one is. -/
def clauseMade (f : Premise) : Option Disjunction → Except Malformed (Option Obligation)
  | none => return none
  | some o => return some (← o.obligation f)

/-- The obligation of a body. -/
def Body.made : Body → Except Malformed Obligation
  | plain f passage clause => do
    let subject ← (End.bare .source).made f
    let target ← (End.bare .destination).made f
    statedMade (← passage.made subject target) (← clauseMade f clause)
  | conditional f clause => clause.obligation f

/-- The statement at a place of the policy. -/
def Sentence.made (d : Sentence) (index : Nat) : Except Malformed Statement := do
  let f := d.body.premise
  let obligation ← d.body.made
  Statement.ofUnchecked
    { name := .text (d.statementName index)
      source := .text f.source.text
      destination := .text f.destination.text
      kind := .text (Choice.word f.kind)
      sourceQuantifier := .text (Choice.word f.sourceQuantifier)
      destinationQuantifier := .text (Choice.word f.destinationQuantifier)
      obligation := .obligation obligation }

/-! ## Nothing is refused -/

variable (f : Premise)

theorem Name.made_eq (n : Name) : n.made = .ok n.marker := Marker.ofText_text n.marker

theorem End.made_eq (e : End) : e.made f = .ok (e.endpoint f) := by
  cases e with
  | quantified q m =>
    rw [End.made, m.made_eq]
    rfl
  | bare side =>
    rw [End.made, (f.name side).made_eq]
    rfl

theorem Passage.made_eq {k : EdgeKind} (p : Passage k) (subject target : Endpoint) :
    p.made subject target =
      .ok (p.checkpoint.map fun m => .through m.marker subject target) := by
  unfold Passage.made
  cases p.checkpoint with
  | none => rfl
  | some m =>
    simp only [m.made_eq]
    rfl

theorem joinedMade_map_pair {join : List Obligation → Except Malformed Obligation}
    {pairs : List (Formula PairAtom) → Formula PairAtom} {fs : List (Formula PairAtom)}
    (hjoin : join (fs.map .pair) = .ok (.pair (pairs fs))) :
    joinedMade join (fs.map .pair) = .ok (.pair (joined pairs fs)) := by
  match fs with
  | [] => exact hjoin
  | [f] => rfl
  | f :: g :: fs => exact hjoin

theorem joinedMade_allOf (c : Conjunction) :
    joinedMade Obligation.allOf ((c.formulas f).map .pair) =
      .ok (.pair (joined .allOf (c.formulas f))) :=
  joinedMade_map_pair (Obligation.combine_map_pair c.formulas_ne_nil)

theorem joinedMade_anyOf (o : Disjunction) :
    joinedMade Obligation.anyOf ((o.formulas f).map .pair) = .ok (.pair (o.formula f)) :=
  joinedMade_map_pair (Obligation.combine_map_pair o.formulas_ne_nil)

mutual

theorem Atom.made_eq : ∀ a : Atom, a.made f = .ok (.pair (a.formula f))
  | .group inner => by
    rw [Atom.made, inner.made_eq]
    exact joinedMade_anyOf f inner
  | .flow subject kind target passage => by
    rw [Atom.made, subject.made_eq, target.made_eq, Atom.formula]
    change (passage.made (subject.endpoint f) (target.endpoint f) >>= _) = _
    rw [passage.made_eq]
    cases passage.checkpoint <;> rfl
  | .authorized side m => by
    rw [Atom.made, End.made_eq, m.made_eq]
    rfl

theorem Conjunction.made_eq : ∀ c : Conjunction, c.made f = .ok ((c.formulas f).map .pair)
  | .one a => by
    rw [Conjunction.made, a.made_eq]
    rfl
  | .and a others => by
    rw [Conjunction.made, a.made_eq, others.made_eq]
    rfl

theorem Disjunction.made_eq : ∀ o : Disjunction, o.made f = .ok ((o.formulas f).map .pair)
  | .one c => by
    rw [Disjunction.made, c.made_eq]
    change (joinedMade Obligation.allOf ((c.formulas f).map .pair) >>= _) = _
    rw [joinedMade_allOf]
    rfl
  | .or c others => by
    rw [Disjunction.made, c.made_eq, others.made_eq]
    change (joinedMade Obligation.allOf ((c.formulas f).map .pair) >>= _) = _
    rw [joinedMade_allOf]
    rfl

end

theorem Disjunction.obligation_eq (o : Disjunction) :
    o.obligation f = .ok (.pair (o.formula f)) := by
  unfold Disjunction.obligation
  rw [o.made_eq]
  exact joinedMade_anyOf f o

theorem clauseMade_eq (clause : Option Disjunction) :
    clauseMade f clause = .ok (clause.map fun o => .pair (o.formula f)) := by
  cases clause with
  | none => rfl
  | some o =>
    rw [clauseMade, o.obligation_eq]
    rfl

theorem Body.made_eq (b : Body) : b.made = .ok (.pair b.formula) := by
  cases b with
  | conditional f clause => exact clause.obligation_eq f
  | plain f passage clause =>
    rw [Body.made, End.made_eq, End.made_eq]
    change (passage.made _ _ >>= fun o => clauseMade f clause >>= fun p => statedMade o p) = _
    rw [passage.made_eq, clauseMade_eq]
    change statedMade _ _ =
      .ok (.pair (stated (passage.checkpoint.map (premiseThrough f)) (clause.map _)))
    cases passage.checkpoint <;> cases clause <;> rfl

/-- All checks that a statement and its parts make let through what a sentence denotes. -/
theorem Sentence.made_eq (d : Sentence) (index : Nat) : d.made index = .ok (d.denoted index) := by
  have hname : Statement.checkNameValue (.text (d.statementName index)) =
      .ok ⟨d.statementName index, d.statementName_not_blank index⟩ :=
    dif_pos (d.statementName_not_blank index)
  have hmarker (n : Name) : Marker.ofValue (.text n.text) = .ok n.marker := n.made_eq
  unfold Sentence.made Statement.ofUnchecked
  simp only [d.body.made_eq, hname, hmarker, Choice.read_word _ (EdgeKind.ofText?_word _),
    Choice.read_word _ (Quantifier.ofText?_word _), Obligation.ofCandidate]
  rfl

end Grammar

end InfoFlow
