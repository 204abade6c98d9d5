import InfoFlow.Proofs.Grammar.Acceptance
import InfoFlow.Proofs.Obligation.Meaning
import Mathlib.Data.List.Forall2
/-!
# What written obligations mean

An obligation is true of a matched pair as its text reads: "or" joins what "and" has joined before,
parentheses group, a marker of the premise is its side of the pair, and a quantified marker is some
or all nodes that carry it. Nothing here is about how a text is read or in which order it is
evaluated; the verdict of what is read agrees with it all the same.
-/

namespace InfoFlow

namespace Grammar

variable (g : Graph) (s d : Node)

/-! ## The meaning of trees -/

/-- What an end asks, if a property is asked of it. -/
def End.Asserts (P : Node → Prop) : End → Prop
  | quantified .some m => ∃ n, g.Marked m.marker n ∧ P n
  | quantified .all m => ∀ n, g.Marked m.marker n → P n
  | bare side => P (side.node s d)

/-- What is asked of two nodes between which a relation and a passage are written. -/
def Passage.Asserts {k : EdgeKind} (p : Passage k) (a b : Node) : Prop :=
  match p.checkpoint with
  | none => g.Relates k a b
  | some m => g.FlowsPast m.marker a b

mutual

/-- What an atom says of a matched pair. -/
def Atom.Asserts : Atom → Prop
  | .group inner => inner.Asserts
  | .flow subject _ target passage =>
    subject.Asserts g s d fun a => target.Asserts g s d fun b => passage.Asserts g a b
  | .authorized side m => g.Authorizes m.marker s (side.node s d)

/-- What a conjunction says: what all of its atoms say. -/
def Conjunction.Asserts : Conjunction → Prop
  | .one a => a.Asserts
  | .and a others => a.Asserts ∧ others.Asserts

/-- What an obligation says: what one of its conjunctions says. -/
def Disjunction.Asserts : Disjunction → Prop
  | .one c => c.Asserts
  | .or c others => c.Asserts ∨ others.Asserts

end

/-- The obligation that is written after a premise, if one is. -/
def Body.clause? : Body → Option Disjunction
  | plain _ _ clause => clause
  | conditional _ clause => some clause

/-- What a body asks of a matched pair: to flow past the checkpoint of the premise, and what is
written after it. -/
def Body.Asserts (b : Body) : Prop :=
  (match b with
    | plain _ passage _ => ∀ m ∈ passage.checkpoint, g.FlowsPast m.marker s d
    | conditional _ _ => True) ∧
  ∀ o ∈ b.clause?, o.Asserts g s d

/-! ## Verdicts on trees -/

variable {g s d} {f : Premise}

theorem End.endpoint_selects (e : End) : (e.endpoint f).Selects := by
  cases e with
  | quantified q m => exact fun _ => rfl
  | bare side => exact fun h => nomatch h

theorem End.endpoint_asserts (e : End) (P : Node → Prop) :
    (e.endpoint f).Asserts g s d P ↔ e.Asserts g s d P := by
  cases e with
  | quantified q m => cases q <;> exact Iff.rfl
  | bare side => exact Iff.rfl

theorem asserts_ends (subject target : End) (P : Node → Node → Prop) :
    ((subject.endpoint f).Asserts g s d fun a => (target.endpoint f).Asserts g s d fun b => P a b) ↔
      subject.Asserts g s d fun a => target.Asserts g s d fun b => P a b := by
  rw [subject.endpoint_asserts]
  simp only [target.endpoint_asserts]

/-- A join asks what its parts ask, also if it is no join because there is only one. -/
theorem evaluate_joined_allOf (test : PairAtom → Traced Bool) (fs : List (Formula PairAtom)) :
    (joined .allOf fs).evaluate test = Formula.evaluateAll test fs := by
  match fs with
  | [] => rfl
  | [f] => exact (Formula.evaluateAll_singleton f).symm
  | f :: h :: fs => rfl

theorem evaluate_joined_anyOf (test : PairAtom → Traced Bool) (fs : List (Formula PairAtom)) :
    (joined .anyOf fs).evaluate test = Formula.evaluateAny test fs := by
  match fs with
  | [] => rfl
  | [f] => exact (Formula.evaluateAny_singleton f).symm
  | f :: h :: fs => rfl

-- A tree is evaluated through the flat rows of its parts, so conjunctions and disjunctions are
-- followed by the evaluation of rows and only atoms by that of a formula.
mutual

theorem Atom.answersIff (f : Premise) :
    ∀ a : Atom, ((a.formula f).evaluate (PairAtom.test g s d)).AnswersIff (a.Asserts g s d)
  | .group inner => by
    rw [Atom.formula, evaluate_joined_anyOf, Atom.Asserts]
    exact inner.answersIff f
  | .flow subject kind target passage => by
    rw [Atom.formula, Atom.Asserts]
    unfold Passage.Asserts
    have hsubject := subject.endpoint_selects (f := f)
    have htarget := target.endpoint_selects (f := f)
    cases passage.checkpoint with
    | none => exact (PairAtom.test_influence hsubject htarget kind).imp_iff (asserts_ends ..)
    | some m =>
      have hthrough := PairAtom.test_through (g := g) (m := m.marker) (s := s) (d := d) hsubject
        htarget
      exact Traced.AnswersIff.imp_iff hthrough (asserts_ends ..)
  | .authorized side m => by
    rw [Atom.formula, Atom.Asserts]
    exact PairAtom.test_authorized m.marker side (f.name side).text

theorem Conjunction.answersIff (f : Premise) :
    ∀ c : Conjunction,
      (Formula.evaluateAll (PairAtom.test g s d) (c.formulas f)).AnswersIff (c.Asserts g s d)
  | .one a => by
    rw [Conjunction.formulas, Formula.evaluateAll_singleton, Conjunction.Asserts]
    exact a.answersIff f
  | .and a others => by
    rw [Conjunction.formulas, Formula.evaluateAll, Conjunction.Asserts]
    exact (a.answersIff f).and (others.answersIff f)

theorem Disjunction.answersIff (f : Premise) :
    ∀ o : Disjunction,
      (Formula.evaluateAny (PairAtom.test g s d) (o.formulas f)).AnswersIff (o.Asserts g s d)
  | .one c => by
    rw [Disjunction.formulas, Formula.evaluateAny_singleton, evaluate_joined_allOf,
      Disjunction.Asserts]
    exact c.answersIff f
  | .or c others => by
    rw [Disjunction.formulas, Formula.evaluateAny, evaluate_joined_allOf, Disjunction.Asserts]
    exact (c.answersIff f).or (others.answersIff f)

end

theorem Disjunction.holdsOfPair_formula (o : Disjunction) (f : Premise) (g : Graph) (s d : Node) :
    ((o.formula f).holdsOfPair g s d).AnswersIff (o.Asserts g s d) := by
  unfold Formula.holdsOfPair Disjunction.formula
  rw [evaluate_joined_anyOf]
  exact o.answersIff f

/-! ## Verdicts on bodies -/

theorem premiseThrough_holdsOfPair (f : Premise) (m : Name) (g : Graph) (s d : Node) :
    ((premiseThrough f m).holdsOfPair g s d).AnswersIff (g.FlowsPast m.marker s d) := by
  -- both ends are bound, so neither needs a marker
  have hsource : (Endpoint.bound .source f.source.text).Selects := fun h => nomatch h
  have hdestination : (Endpoint.bound .destination f.destination.text).Selects :=
    fun h => nomatch h
  exact PairAtom.test_through hsource hdestination

theorem Body.holdsOfPair_formula (b : Body) (g : Graph) (s d : Node) :
    (b.formula.holdsOfPair g s d).AnswersIff (b.Asserts g s d) := by
  cases b with
  | conditional f clause =>
    refine (clause.holdsOfPair_formula f g s d).imp_iff ?_
    simp [Body.Asserts, Body.clause?]
  | plain f passage clause =>
    unfold Body.formula Body.Asserts Body.clause?
    simp only [Option.mem_def]
    cases passage.checkpoint with
    | none =>
      cases clause with
      | none =>
        refine Traced.AnswersIff.pure_true.imp_iff ?_
        simp
      | some o =>
        refine (o.holdsOfPair_formula f g s d).imp_iff ?_
        simp
    | some m =>
      have hpremise := premiseThrough_holdsOfPair f m g s d
      cases clause with
      | none =>
        refine hpremise.imp_iff ?_
        simp
      | some o =>
        -- the checkpoint of the premise comes first, and then what is written after it
        have hboth := hpremise.and (o.holdsOfPair_formula f g s d)
        unfold Formula.holdsOfPair at hboth
        rw [← Formula.evaluateAll_singleton (o.formula f)] at hboth
        refine hboth.imp_iff ?_
        simp

theorem Sentence.forall₂_obligation (index : Nat) (ds : List Sentence) :
    List.Forall₂ (fun (d : Sentence) s => s.obligation = .pair d.body.formula) ds
      (denotedFrom index ds) := by
  induction ds generalizing index with
  | nil => exact .nil
  | cons d ds ih => exact .cons rfl (ih (index + 1))

end Grammar

namespace Policy

open Grammar

/-- The statements of an accepted text have the obligations that are written in it, and whatever the
graph, the verdict on a matched pair is yes exactly if what is written is true of the pair: the
whole obligation, a checkpoint of the premise included, and so what is written after the premise
alone. -/
theorem parse_obligations {text : String} {name : Value} {p : Policy}
    (h : parse text name = .ok p) :
    ∃ ts ds, Tokens.ofText text = .ok ts ∧ ts.Derives ds ∧
      List.Forall₂ (fun (d : Sentence) s =>
        s.obligation = .pair d.body.formula ∧
          ∀ g a b,
            (d.body.formula.holdsOfPair g a b).AnswersIff (d.body.Asserts g a b) ∧
              ∀ o ∈ d.body.clause?,
                ((o.formula d.body.premise).holdsOfPair g a b).AnswersIff (o.Asserts g a b))
        ds p.statements := by
  obtain ⟨ts, ds, htext, hds, -, hstatements⟩ := parse_eq_ok.1 h
  refine ⟨ts, ds, htext, hds, ?_⟩
  rw [hstatements]
  refine (Sentence.forall₂_obligation 1 ds).imp fun d s hobligation => ⟨hobligation, ?_⟩
  intro g a b
  exact ⟨d.body.holdsOfPair_formula g a b,
    fun o _ => o.holdsOfPair_formula d.body.premise g a b⟩

/-- A text that groups without parentheses, and the same text with parentheses around its first two
atoms. -/
def groupedText : String :=
  "if some a flows to some b then a flows to b " ++
  "or some c flows to a and b is authorized by some c." ++
  "some a flows to some b then (a flows to b or some c flows to a) and b is authorized by some c."

/-- Data flows one way, and nothing carries the third marker. -/
def oneWayGraph : Graph where
  controllers := [("main", [.int 0, .int 1])]
  edges := [⟨.int 0, .int 1, .data⟩]
  labels := []
  declared := [⟨"c", by decide⟩]

/-- What an obligation about pairs answers, if it does. -/
def answerOn (g : Graph) (a b : Node) : Obligation → Option Bool
  | .pair f => (f.holdsOfPair g a b).result.toOption
  | .set _ => none

theorem groupedText_obligations :
    ∃ p s t d e, parse groupedText .null = .ok p ∧ p.statements = [s, t] ∧
      s.obligation = .pair (Body.formula d) ∧ t.obligation = .pair (Body.formula e) ∧
      d.Asserts oneWayGraph (.int 0) (.int 1) ∧ ¬e.Asserts oneWayGraph (.int 0) (.int 1) := by
  have hrun : (parse groupedText .null).toOption.map (fun p => p.statements.map fun s =>
      answerOn oneWayGraph (.int 0) (.int 1) s.obligation) = some [some true, some false] := by
    decide +kernel
  obtain ⟨p, hp, hverdicts⟩ := toOption_map_eq_some.1 hrun
  obtain ⟨-, ds, -, -, hall⟩ := parse_obligations hp
  obtain ⟨s, others, hss, hs, hothers⟩ := List.map_eq_cons_iff.1 hverdicts
  obtain ⟨t, rfl, ht⟩ := List.map_eq_singleton_iff.1 hothers
  rw [hss] at hall
  obtain ⟨d, ds', ⟨hd, hdverdict⟩, hrest, rfl⟩ := List.forall₂_cons_right_iff.1 hall
  obtain ⟨e, ds'', ⟨he, heverdict⟩, hend, rfl⟩ := List.forall₂_cons_right_iff.1 hrest
  refine ⟨p, s, t, d.body, e.body, hp, hss, hd, he, ?_, ?_⟩
  · obtain ⟨v, hv, hiff⟩ := (hdverdict oneWayGraph (.int 0) (.int 1)).1
    rw [hd] at hs
    change (d.body.formula.holdsOfPair _ _ _).result.toOption = some true at hs
    rw [hv] at hs
    exact hiff.1 (Option.some.inj hs)
  · obtain ⟨v, hv, hiff⟩ := (heverdict oneWayGraph (.int 0) (.int 1)).1
    rw [he] at ht
    change (e.body.formula.holdsOfPair _ _ _).result.toOption = some false at ht
    rw [hv] at ht
    rw [← hiff, Option.some.inj ht]
    exact Bool.false_ne_true

end Policy

end InfoFlow
