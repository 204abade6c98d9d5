import InfoFlow.Proofs.Grammar.Making
import InfoFlow.Proofs.Obligation.Lookup
import InfoFlow.Proofs.Obligation.Meaning
/-!
# Graphs that grow

More edges give more walks. An obligation that asks for walks only, and for nothing that they must
not pass by, has no part that more walks could turn from a yes to a no. What can happen is that a
part is asked that was not asked before: a join goes on to its next part where it stopped in the
smaller graph, and if an end in that part has no marker, there is no answer at all.
-/

namespace InfoFlow

/-! ## More edges -/

/-- The same nodes, labels and declared markers, and all edges of the first graph. -/
structure Graph.GrowsTo (g h : Graph) : Prop where
  nodes : ∀ n, n ∈ g.nodes ↔ n ∈ h.nodes
  carries : ∀ m n, g.carries m n = h.carries m n
  declares : ∀ m, g.declares m = h.declares m
  edges : ∀ e ∈ g.edges, e ∈ h.edges

variable {g h : Graph} {s d : Node}

namespace Graph.GrowsTo

variable {k : EdgeKind} {a b : Node} {ms : List Node} {m : Marker}

theorem walk (hgrow : g.GrowsTo h) (w : g.Walk k a ms b) : h.Walk k a ms b := by
  induction w with
  | edge he => exact .edge (hgrow.edges _ he)
  | step he _ ih => exact .step (hgrow.edges _ he) ih

theorem reaches (hgrow : g.GrowsTo h) : g.Reaches k a b → h.Reaches k a b
  | ⟨ms, w⟩ => ⟨ms, hgrow.walk w⟩

theorem governs (hgrow : g.GrowsTo h) : g.Governs a b → h.Governs a b
  | ⟨n, hn, hcontrol⟩ => ⟨n, hn.imp_right hgrow.reaches, hgrow.reaches hcontrol⟩

theorem relates (hgrow : g.GrowsTo h) (hrelates : g.Relates k a b) : h.Relates k a b := by
  cases k with
  | data => exact hgrow.reaches hrelates
  | control => exact hgrow.governs hrelates

theorem marked_iff (hgrow : g.GrowsTo h) {n : Node} : g.Marked m n ↔ h.Marked m n := by
  unfold Graph.Marked
  rw [hgrow.declares, hgrow.nodes, hgrow.carries]

theorem authorizes (hgrow : g.GrowsTo h) : g.Authorizes m a b → h.Authorizes m a b
  | ⟨c, hc, hseen, hgoverns⟩ =>
    ⟨c, hgrow.marked_iff.1 hc, hgrow.reaches hseen, hgrow.governs hgoverns⟩

/-- The nodes of an end are the same, and it may ask them for less. -/
theorem asserts (hgrow : g.GrowsTo h) {e : Endpoint} {P Q : Node → Prop} (hPQ : ∀ n, P n → Q n)
    (hasserts : e.Asserts g s d P) : e.Asserts h s d Q := by
  obtain ⟨role, marker, quantifier, label⟩ := e
  cases role with
  | bound side => exact hPQ _ hasserts
  | marked =>
    cases marker with
    | none => exact hasserts
    | some m =>
      cases quantifier with
      | some =>
        obtain ⟨n, hn, hP⟩ := hasserts
        exact ⟨n, hgrow.marked_iff.1 hn, hPQ n hP⟩
      | all => exact fun n hn => hPQ n (hasserts n (hgrow.marked_iff.2 hn))

end Graph.GrowsTo

/-! ## Ends without a marker -/

theorem Endpoint.nodes_of_not_selects {e : Endpoint} (h : ¬e.Selects) (g : Graph) (s d : Node) :
    (e.nodes g s d).result = .error noSelection := by
  obtain ⟨role, marker, quantifier, label⟩ := e
  cases role with
  | bound side => exact absurd nofun h
  | marked =>
    cases marker with
    | none => rfl
    | some m => exact absurd (fun _ => rfl) h

theorem relateEnds_of_not_selects {subject target : Endpoint}
    (hends : ¬(subject.Selects ∧ target.Selects)) (g : Graph) (s d : Node)
    (related : Node → Node → Bool) :
    (relateEnds g subject target s d related).result = .error Endpoint.noSelection := by
  unfold relateEnds
  rw [Traced.result_bind]
  by_cases htarget : target.Selects
  · have hsubject : ¬subject.Selects := fun h => hends ⟨h, htarget⟩
    obtain ⟨ns, hns, -⟩ := target.nodes_result (g := g) (s := s) (d := d) htarget
    rw [hns]
    show (subject.nodes g s d >>= _).result = _
    rw [Traced.result_bind, Endpoint.nodes_of_not_selects hsubject]
    rfl
  · rw [Endpoint.nodes_of_not_selects htarget]
    rfl

namespace PairAtom

/-- Every end of an atom is bound by the premise, or it has a marker. -/
def Selects : PairAtom → Prop
  | influence subject target _ => subject.Selects ∧ target.Selects
  | through _ subject target => subject.Selects ∧ target.Selects
  | _ => True

/-- Whether an atom asks for walks and for nothing else. -/
def isOfWalks : PairAtom → Bool
  | always => true
  | influence _ _ _ => true
  | authorized _ _ _ => true
  | through _ _ _ => false
  | custom _ => false

/-- What an atom of walks answers in the two graphs: it asks for more in the smaller one, unless it
is stopped in both by an end without a marker. -/
theorem test_grow (hgrow : g.GrowsTo h) {a : PairAtom} (ha : a.isOfWalks = true) (s d : Node) :
    (∃ P Q, (P → Q) ∧ (a.test g s d).AnswersIff P ∧ (a.test h s d).AnswersIff Q) ∨
      ¬a.Selects ∧ (a.test g s d).result = .error Endpoint.noSelection ∧
        (a.test h s d).result = .error Endpoint.noSelection := by
  cases a with
  | always => exact .inl ⟨True, True, id, .pure_true, .pure_true⟩
  | influence subject target k =>
    by_cases hends : subject.Selects ∧ target.Selects
    · refine .inl ⟨_, _, ?_, test_influence hends.1 hends.2 k, test_influence hends.1 hends.2 k⟩
      exact hgrow.asserts fun a => hgrow.asserts fun b => hgrow.relates
    · exact .inr ⟨hends, relateEnds_of_not_selects hends g s d _,
        relateEnds_of_not_selects hends h s d _⟩
  | authorized m side label =>
    exact .inl ⟨_, _, hgrow.authorizes, test_authorized m side label,
      test_authorized m side label⟩
  | through m subject target => exact absurd ha Bool.false_ne_true
  | custom p => exact absurd ha Bool.false_ne_true

end PairAtom

/-! ## From a yes to no no -/

namespace Traced

/-- Where the first evaluation answers yes, the second one does not answer no. -/
def Keeps (x y : Traced Bool) : Prop := x.result = .ok true → y.result ≠ .ok false

variable {x x' y y' : Traced Bool}

theorem ite_result_eq_ok {v : Bool} :
    (do if ← x then y else y' : Traced Bool).result = .ok v ↔
      x.result = .ok true ∧ y.result = .ok v ∨ x.result = .ok false ∧ y'.result = .ok v := by
  rw [result_bind]
  cases x.result with
  | error e => exact iff_of_false nofun fun h => h.elim (fun h => nomatch h.1) fun h => nomatch h.1
  | ok b => cases b <;> simp [Except.bind]

theorem Keeps.and (hx : x.Keeps x') (hy : y.Keeps y') :
    (do if ← x then y else pure false : Traced Bool).Keeps
      (do if ← x' then y' else pure false : Traced Bool) := by
  intro hyes hno
  rcases ite_result_eq_ok.1 hyes with ⟨hxyes, hyyes⟩ | ⟨-, hpure⟩
  · -- a no comes from one of the two, and neither gives one
    rcases ite_result_eq_ok.1 hno with ⟨-, hyno⟩ | ⟨hxno, -⟩
    · exact hy hyyes hyno
    · exact hx hxyes hxno
  · exact nomatch hpure

theorem Keeps.or (hx : x.Keeps x') (hy : y.Keeps y') :
    (do if ← x then pure true else y : Traced Bool).Keeps
      (do if ← x' then pure true else y' : Traced Bool) := by
  intro hyes hno
  rcases ite_result_eq_ok.1 hno with ⟨-, hpure⟩ | ⟨hxno, hyno⟩
  · exact nomatch hpure
  · rcases ite_result_eq_ok.1 hyes with ⟨hxyes, -⟩ | ⟨-, hyyes⟩
    · exact hx hxyes hxno
    · exact hy hyyes hyno

/-- An evaluation gives a result or stops with one of some faults. -/
def StopsOnlyBy {α : Type} (P : Fault → Prop) (x : Traced α) : Prop :=
  ∀ e, x.result = .error e → P e

theorem congruence_stopsOnlyBy (P : Fault → Prop) :
    Congruence fun _ x _ => x.StopsOnlyBy P where
  pure _ := nofun
  bind {_ _ x _ f _} hx hf := by
    intro e he
    rw [result_bind] at he
    cases hresult : x.result with
    | error e' =>
      rw [hresult] at he
      obtain rfl := Except.error.inj he
      exact hx e' hresult
    | ok a =>
      rw [hresult] at he
      exact hf a e he

end Traced

namespace Formula

variable {α : Type} {test test' : α → Traced Bool}

mutual

/-- Two ways to test the atoms of a formula that keep a yes on them keep it for the formula. -/
theorem evaluate_keeps : ∀ f : Formula α, (∀ a ∈ f.atoms, (test a).Keeps (test' a)) →
    (f.evaluate test).Keeps (f.evaluate test')
  | .atom a, h => h a (List.mem_singleton.2 rfl)
  | .allOf ps, h => evaluateAll_keeps ps h
  | .anyOf ps, h => evaluateAny_keeps ps h

theorem evaluateAll_keeps : ∀ ps : List (Formula α),
    (∀ a ∈ atomsOf ps, (test a).Keeps (test' a)) →
    (evaluateAll test ps).Keeps (evaluateAll test' ps)
  | [], _ => nofun
  | p :: ps, h =>
    (evaluate_keeps p fun a ha => h a (List.mem_append_left _ ha)).and
      (evaluateAll_keeps ps fun a ha => h a (List.mem_append_right _ ha))

theorem evaluateAny_keeps : ∀ ps : List (Formula α),
    (∀ a ∈ atomsOf ps, (test a).Keeps (test' a)) →
    (evaluateAny test ps).Keeps (evaluateAny test' ps)
  | [], _ => nofun
  | p :: ps, h =>
    (evaluate_keeps p fun a ha => h a (List.mem_append_left _ ha)).or
      (evaluateAny_keeps ps fun a ha => h a (List.mem_append_right _ ha))

end

theorem evaluate_stopsOnlyBy {P : Fault → Prop} (f : Formula α)
    (h : ∀ a ∈ f.atoms, (test a).StopsOnlyBy P) : (f.evaluate test).StopsOnlyBy P :=
  @evaluate_related α test test _ (Traced.congruence_stopsOnlyBy P) f h

/-- A yes of a formula of walks stays one when the graph grows, unless an end without a marker is
come upon. -/
theorem holdsOfPair_grow (hgrow : g.GrowsTo h) {f : Formula PairAtom}
    (hf : ∀ a ∈ f.atoms, a.isOfWalks = true) (hyes : (f.holdsOfPair g s d).result = .ok true) :
    (f.holdsOfPair h s d).result = .ok true ∨
      (f.holdsOfPair h s d).result = .error Endpoint.noSelection ∧ ∃ a ∈ f.atoms, ¬a.Selects := by
  have hkeeps : (f.holdsOfPair g s d).Keeps (f.holdsOfPair h s d) := by
    refine f.evaluate_keeps fun a ha hyes hno => ?_
    rcases PairAtom.test_grow hgrow (hf a ha) s d with ⟨P, Q, hPQ, hP, hQ⟩ | ⟨-, hstop, -⟩
    · have hstill := hQ.iff.2 (hPQ (hP.iff.1 hyes))
      rw [hstill] at hno
      exact nomatch hno
    · rw [hstop] at hyes
      exact nomatch hyes
  have hstops : (f.holdsOfPair h s d).StopsOnlyBy
      fun e => e = Endpoint.noSelection ∧ ∃ a ∈ f.atoms, ¬a.Selects := by
    refine f.evaluate_stopsOnlyBy fun a ha e he => ?_
    rcases PairAtom.test_grow hgrow (hf a ha) s d with ⟨P, Q, -, -, hQ⟩ | ⟨hends, -, hstop⟩
    · obtain ⟨v, hv⟩ := hQ.answers
      rw [hv] at he
      exact nomatch he
    · rw [hstop] at he
      exact ⟨(Except.error.inj he).symm, a, ha, hends⟩
  cases hresult : (f.holdsOfPair h s d).result with
  | error e =>
    obtain ⟨rfl, hends⟩ := hstops e hresult
    exact .inr ⟨rfl, hends⟩
  | ok v =>
    cases v with
    | true => exact .inl rfl
    | false => exact absurd hresult (hkeeps hyes)

end Formula

/-! ## Obligations of walks -/

namespace Obligation

/-- An obligation that is put together from influences and authorizations, or asks nothing. -/
inductive OfWalks : Obligation → Prop where
  | always : OfWalks always
  | influence (subject target : Endpoint) (k : EdgeKind) : OfWalks (influence subject target k)
  | authorizedBy {m : Marker} {target : Endpoint} {o : Obligation}
    (h : authorizedBy m target = .ok o) : OfWalks o
  | allOf {os : List Obligation} {o : Obligation} (hos : ∀ p ∈ os, OfWalks p)
    (h : allOf os = .ok o) : OfWalks o
  | anyOf {os : List Obligation} {o : Obligation} (hos : ∀ p ∈ os, OfWalks p)
    (h : anyOf os = .ok o) : OfWalks o

/-- An obligation is a formula of walks. -/
def IsFormulaOfWalks (o : Obligation) : Prop :=
  ∃ f, o = .pair f ∧ ∀ a ∈ f.atoms, a.isOfWalks = true

theorem exists_formulas {os : List Obligation} (h : ∀ o ∈ os, o.IsFormulaOfWalks) :
    ∃ fs : List (Formula PairAtom), os = fs.map .pair ∧
      ∀ a ∈ Formula.atomsOf fs, a.isOfWalks = true := by
  induction os with
  | nil => exact ⟨[], rfl, fun _ ha => nomatch ha⟩
  | cons o os ih =>
    obtain ⟨⟨f, rfl, hf⟩, hos⟩ := List.forall_mem_cons.1 h
    obtain ⟨fs, rfl, hfs⟩ := ih hos
    exact ⟨f :: fs, rfl, fun a ha => (List.mem_append.1 ha).elim (hf a) (hfs a)⟩

theorem isFormulaOfWalks_of_combine {joiner : String}
    {pairs : List (Formula PairAtom) → Formula PairAtom}
    {sets : List (Formula SetAtom) → Formula SetAtom} {os : List Obligation} {o : Obligation}
    (hatoms : ∀ fs, (pairs fs).atoms = Formula.atomsOf fs) (hos : ∀ p ∈ os, p.IsFormulaOfWalks)
    (h : combine joiner pairs sets os = .ok o) : o.IsFormulaOfWalks := by
  obtain ⟨fs, rfl, hfs⟩ := exists_formulas hos
  by_cases hnil : fs = []
  · subst hnil
    exact nomatch h
  · rw [combine_map_pair hnil] at h
    obtain rfl := Except.ok.inj h
    exact ⟨pairs fs, rfl, (hatoms fs).symm ▸ hfs⟩

theorem OfWalks.isFormulaOfWalks {o : Obligation} (h : o.OfWalks) : o.IsFormulaOfWalks := by
  have hatom {a : PairAtom} (ha : a.isOfWalks = true) :
      ∀ b ∈ (Formula.atom a).atoms, b.isOfWalks = true :=
    fun b hb => (List.mem_singleton.1 hb) ▸ ha
  induction h with
  | always => exact ⟨_, rfl, hatom rfl⟩
  | influence subject target k => exact ⟨_, rfl, hatom rfl⟩
  | @authorizedBy m target o h =>
    unfold Obligation.authorizedBy at h
    cases hrole : target.role with
    | marked =>
      rw [hrole] at h
      exact nomatch h
    | bound side =>
      rw [hrole] at h
      obtain rfl := Except.ok.inj h
      exact ⟨_, rfl, hatom rfl⟩
  | allOf _ h ih => exact isFormulaOfWalks_of_combine (fun _ => rfl) ih h
  | anyOf _ h ih => exact isFormulaOfWalks_of_combine (fun _ => rfl) ih h

/-- An obligation of walks that holds of a pair holds of it still when the graph grows, if each of
its ends is bound or has a marker. In any case it is not broken: what may come instead of a yes is
the fault of an end without a marker. -/
theorem holdsOfPair_of_growsTo {o : Obligation} (ho : o.OfWalks) (hgrow : g.GrowsTo h)
    (s d : Node) :
    ∃ f, o = .pair f ∧ ((f.holdsOfPair g s d).result = .ok true →
      ((∀ a ∈ f.atoms, a.Selects) → (f.holdsOfPair h s d).result = .ok true) ∧
        ((f.holdsOfPair h s d).result = .ok true ∨
          (f.holdsOfPair h s d).result = .error Endpoint.noSelection)) := by
  obtain ⟨f, rfl, hf⟩ := ho.isFormulaOfWalks
  refine ⟨f, rfl, fun hyes => ?_⟩
  rcases Formula.holdsOfPair_grow hgrow hf hyes with hstill | ⟨hstop, a, ha, hends⟩
  · exact ⟨fun _ => hstill, .inl hstill⟩
  · exact ⟨fun hselects => absurd (hselects a ha) hends, .inr hstop⟩

/-- Every check sees the data of the source, which flows to the destination or is checked by what
controls it. -/
def watchedFormula : Formula PairAtom :=
  .allOf [.atom (.influence .source (.marked checkMarker .all) .data),
    .anyOf [.atom (.influence .source .destination .data),
      .atom (.authorized checkMarker .destination (Choice.word Side.destination))]]

/-- The graph of the check, once data flows past it. -/
def shortcutGraph : Graph :=
  { checkedGraph with edges := ⟨.int 0, .int 2, .data⟩ :: checkedGraph.edges }

theorem shortcutGraph_watched :
    (Obligation.pair watchedFormula).OfWalks ∧ checkedGraph.GrowsTo shortcutGraph ∧
      (watchedFormula.holdsOfPair checkedGraph (.int 0) (.int 2)).result = .ok true ∧
      (∀ a ∈ watchedFormula.atoms, a.Selects) ∧
      (watchedFormula.holdsOfPair shortcutGraph (.int 0) (.int 2)).result = .ok true := by
  have hdisjunction : (Obligation.pair (.anyOf [.atom (.influence .source .destination .data),
      .atom (.authorized checkMarker .destination (Choice.word Side.destination))])).OfWalks :=
    @OfWalks.anyOf [influence .source .destination .data,
      .pair (.atom (.authorized checkMarker .destination (Choice.word Side.destination)))] _
      (List.forall_mem_cons.2 ⟨.influence _ _ _, List.forall_mem_singleton.2
        (@OfWalks.authorizedBy checkMarker .destination _ rfl)⟩) rfl
  have hwalks : (Obligation.pair watchedFormula).OfWalks :=
    @OfWalks.allOf [influence .source (.marked checkMarker .all) .data, .pair (.anyOf _)] _
      (List.forall_mem_cons.2 ⟨.influence _ _ _, List.forall_mem_singleton.2 hdisjunction⟩) rfl
  have hgrow : checkedGraph.GrowsTo shortcutGraph :=
    ⟨fun _ => .rfl, fun _ _ => rfl, fun _ => rfl, fun _ => List.mem_cons_of_mem _⟩
  have hbound (side : Side) (label : String) : (Endpoint.bound side label).Selects := nofun
  have hselects : ∀ a ∈ watchedFormula.atoms, a.Selects := by
    intro a ha
    have hatoms : a ∈ [PairAtom.influence .source (.marked checkMarker .all) .data,
      .influence .source .destination .data, .authorized checkMarker .destination _] := ha
    rcases List.mem_cons.1 hatoms with rfl | hatoms
    · exact ⟨hbound _ _, fun _ => rfl⟩
    rcases List.mem_cons.1 hatoms with rfl | hatoms
    · exact ⟨hbound _ _, hbound _ _⟩
    · obtain rfl := List.mem_singleton.1 hatoms
      exact trivial
  obtain ⟨f, hf, hkept⟩ := holdsOfPair_of_growsTo hwalks hgrow (.int 0) (.int 2)
  obtain rfl := Obligation.pair.inj hf
  have hyes : (watchedFormula.holdsOfPair checkedGraph (.int 0) (.int 2)).result = .ok true := rfl
  exact ⟨hwalks, hgrow, hyes, hselects, (hkept hyes).1 hselects⟩

/-- An end that is to be found by its marker and has none. -/
def blankEnd : Endpoint := { role := .marked }

/-- A formula that comes upon this end only if data flows. -/
def blankFormula : Formula PairAtom :=
  .anyOf [.allOf [.atom (.influence .source .destination .data),
    .atom (.influence blankEnd .destination .data)], .atom .always]

/-- A node that controls another. -/
def switchGraph : Graph where
  controllers := [("main", [.int 0, .int 1])]
  labels := []
  edges := [⟨.int 0, .int 1, .control⟩]
  declared := []

/-- The same graph, once data flows too. -/
def wiredGraph : Graph :=
  { switchGraph with edges := switchGraph.edges ++ [⟨.int 0, .int 1, .data⟩] }

/-- Without the flow the end is not come upon, and the formula asks for nothing else. -/
theorem blankFormula_stops :
    (Obligation.pair blankFormula).OfWalks ∧ switchGraph.GrowsTo wiredGraph ∧
      (blankFormula.holdsOfPair switchGraph (.int 0) (.int 1)).result = .ok true ∧
      (blankFormula.holdsOfPair wiredGraph (.int 0) (.int 1)).result =
        .error Endpoint.noSelection := by
  have hconjunction : (Obligation.pair (.allOf [.atom (.influence .source .destination .data),
      .atom (.influence blankEnd .destination .data)])).OfWalks :=
    @OfWalks.allOf [influence .source .destination .data,
      influence blankEnd .destination .data] _
      (List.forall_mem_cons.2 ⟨.influence _ _ _, List.forall_mem_singleton.2 (.influence _ _ _)⟩)
      rfl
  have hwalks : (Obligation.pair blankFormula).OfWalks :=
    @OfWalks.anyOf [.pair (.allOf _), always] _
      (List.forall_mem_cons.2 ⟨hconjunction, List.forall_mem_singleton.2 .always⟩) rfl
  have hgrow : switchGraph.GrowsTo wiredGraph :=
    ⟨fun _ => .rfl, fun _ _ => rfl, fun _ => rfl, fun _ => List.mem_append_left _⟩
  exact ⟨hwalks, hgrow, rfl, rfl⟩

end Obligation

end InfoFlow
