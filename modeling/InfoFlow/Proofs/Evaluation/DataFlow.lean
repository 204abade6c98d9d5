import InfoFlow.Proofs.Evaluation.Agreement
import InfoFlow.Proofs.Grammar.Making
/-!
# Statements about the flow of data

Control edges are looked at in three places: by a premise of that kind, by an influence of that
kind, and by an authorization. A statement that has none of the three goes by the data edges alone,
so two graphs that differ in their control edges only are the same to it.
-/

namespace InfoFlow

/-! ## Joined obligations -/

theorem Formula.mem_atomsOf {α : Type} {a : α} {fs : List (Formula α)} :
    a ∈ atomsOf fs ↔ ∃ f ∈ fs, a ∈ f.atoms := by
  induction fs with
  | nil => simp [atomsOf]
  | cons f fs ih => simp [atomsOf, ih]

namespace Obligation

variable {os : List Obligation} {o : Obligation}

theorem eq_map_of_pairs? {fs : List (Formula PairAtom)} (h : pairs? os = some fs) :
    os = fs.map .pair := by
  induction os generalizing fs with
  | nil =>
    obtain rfl := Option.some.inj h
    rfl
  | cons o os ih =>
    cases o with
    | set f => exact nomatch h
    | pair f =>
      obtain ⟨rest, hrest, rfl⟩ := Option.map_eq_some_iff.1 h
      rw [List.map_cons, ← ih hrest]

theorem eq_map_of_sets? {fs : List (Formula SetAtom)} (h : sets? os = some fs) :
    os = fs.map .set := by
  induction os generalizing fs with
  | nil =>
    obtain rfl := Option.some.inj h
    rfl
  | cons o os ih =>
    cases o with
    | pair f => exact nomatch h
    | set f =>
      obtain ⟨rest, hrest, rfl⟩ := Option.map_eq_some_iff.1 h
      rw [List.map_cons, ← ih hrest]

/-- Obligations that are joined are all about pairs or all about sets, and so is what they are
joined to. -/
theorem combine_eq_ok {joiner : String} {pairs : List (Formula PairAtom) → Formula PairAtom}
    {sets : List (Formula SetAtom) → Formula SetAtom} (h : combine joiner pairs sets os = .ok o) :
    (∃ fs, os = fs.map .pair ∧ o = .pair (pairs fs)) ∨
      ∃ fs, os = fs.map .set ∧ o = .set (sets fs) := by
  unfold combine at h
  by_cases hnone : os.isEmpty = true
  · rw [if_pos hnone] at h
    exact nomatch h
  · rw [if_neg hnone] at h
    cases hpairs : pairs? os with
    | some fs =>
      rw [hpairs] at h
      exact .inl ⟨fs, eq_map_of_pairs? hpairs, (Except.ok.inj h).symm⟩
    | none =>
      cases hsets : sets? os with
      | some fs =>
        rw [hpairs, hsets] at h
        exact .inr ⟨fs, eq_map_of_sets? hsets, (Except.ok.inj h).symm⟩
      | none =>
        rw [hpairs, hsets] at h
        exact nomatch h

end Obligation

/-! ## Obligations that ask for no control -/

/-- Whether an atom asks nothing that control edges or the caller could answer. -/
def PairAtom.isOfData : PairAtom → Bool
  | always => true
  | influence _ _ k => k == .data
  | authorized _ _ _ => false
  | through _ _ _ => true
  | custom _ => false

namespace Obligation

/-- An obligation that is put together from flows of data, flows past checkpoints, and conditions on
the matched set. -/
inductive OfData : Obligation → Prop where
  | always : OfData always
  | influence (subject target : Endpoint) : OfData (influence subject target .data)
  | through (checkpoint : Marker) (subject target : Endpoint) :
    OfData (through checkpoint subject target)
  | premiseEquals (m : Marker) : OfData (premiseEquals m)
  | premiseAtLeast {count : Int} {o : Obligation} (h : premiseAtLeast count = .ok o) : OfData o
  | allOf {os : List Obligation} {o : Obligation} (hos : ∀ p ∈ os, OfData p)
    (h : allOf os = .ok o) : OfData o
  | anyOf {os : List Obligation} {o : Obligation} (hos : ∀ p ∈ os, OfData p)
    (h : anyOf os = .ok o) : OfData o

/-- No atom of the obligation asks for control or is a predicate of the caller. -/
def AtomsOfData : Obligation → Prop
  | pair f => ∀ a ∈ f.atoms, a.isOfData = true
  | set f => ∀ a ∈ f.atoms, a.isBuiltIn = true

theorem atomsOfData_of_combine {joiner : String}
    {pairs : List (Formula PairAtom) → Formula PairAtom}
    {sets : List (Formula SetAtom) → Formula SetAtom} {os : List Obligation} {o : Obligation}
    (hpairs : ∀ fs, (pairs fs).atoms = Formula.atomsOf fs)
    (hsets : ∀ fs, (sets fs).atoms = Formula.atomsOf fs) (hos : ∀ p ∈ os, p.AtomsOfData)
    (h : combine joiner pairs sets os = .ok o) : o.AtomsOfData := by
  rcases combine_eq_ok h with ⟨fs, rfl, rfl⟩ | ⟨fs, rfl, rfl⟩
  · intro a ha
    rw [hpairs] at ha
    obtain ⟨f, hf, haf⟩ := Formula.mem_atomsOf.1 ha
    exact hos (.pair f) (List.mem_map_of_mem hf) a haf
  · intro a ha
    rw [hsets] at ha
    obtain ⟨f, hf, haf⟩ := Formula.mem_atomsOf.1 ha
    exact hos (.set f) (List.mem_map_of_mem hf) a haf

theorem OfData.atomsOfData {o : Obligation} (h : o.OfData) : o.AtomsOfData := by
  have hpair {a : PairAtom} (ha : a.isOfData = true) : (Obligation.pair (.atom a)).AtomsOfData :=
    fun b hb => (List.mem_singleton.1 hb) ▸ ha
  have hset {a : SetAtom} (ha : a.isBuiltIn = true) : (Obligation.set (.atom a)).AtomsOfData :=
    fun b hb => (List.mem_singleton.1 hb) ▸ ha
  induction h with
  | always => exact hpair rfl
  | influence subject target => exact hpair rfl
  | through m subject target => exact hpair rfl
  | premiseEquals m => exact hset rfl
  | @premiseAtLeast count o h =>
    unfold Obligation.premiseAtLeast at h
    by_cases hcount : count < 0
    · rw [if_pos hcount] at h
      exact nomatch h
    · rw [if_neg hcount] at h
      obtain rfl := Except.ok.inj h
      exact hset rfl
  | allOf _ h ih => exact atomsOfData_of_combine (fun _ => rfl) (fun _ => rfl) ih h
  | anyOf _ h ih => exact atomsOfData_of_combine (fun _ => rfl) (fun _ => rfl) ih h

end Obligation

/-! ## Graphs with other control edges -/

/-- The same nodes, labels, declared markers and data edges. -/
structure Graph.SameButControl (g h : Graph) : Prop where
  controllers : g.controllers = h.controllers
  labels : g.labels = h.labels
  declared : g.declared = h.declared
  data : g.SameEdges h .data

variable {g h : Graph}

namespace Graph.SameButControl

/-- Markers are looked up without a glance at the edges. -/
theorem resolve_eq (hsame : g.SameButControl h) (unknown : UnknownMarkers) :
    g.resolve unknown = h.resolve unknown := by
  obtain ⟨controllers, labels, edges, declared⟩ := g
  obtain ⟨controllers', labels', edges', declared'⟩ := h
  obtain ⟨rfl, rfl, rfl, -⟩ := hsame
  rfl

theorem checkDeclared_eq (hsame : g.SameButControl h) (unknown : UnknownMarkers) :
    g.checkDeclared unknown = h.checkDeclared unknown := by
  funext m
  unfold checkDeclared declares
  rw [hsame.declared]

variable {s d : Node}

theorem testPair_eq (hsame : g.SameButControl h) {a : PairAtom} (ha : a.isOfData = true) :
    a.test g s d = a.test h s d := by
  rw [← a.testBy_eq fun _ _ => rfl, ← a.testBy_eq fun _ _ => rfl, hsame.resolve_eq .empty]
  -- the look-ups are the same now, and what is left of the graphs are their searches
  cases a with
  | always => rfl
  | influence subject target k =>
    obtain rfl : k = .data := beq_iff_eq.1 ha
    have hflows : g.relates .data = h.relates .data := by
      funext a b
      show g.flowsTo a b .data = h.flowsTo a b .data
      rw [Bool.eq_iff_iff, flowsTo_iff, flowsTo_iff, hsame.data.influencees_eq]
    show relateEndsBy _ subject target s d (g.relates .data) = _
    rw [hflows]
    rfl
  | authorized m side label => exact absurd ha Bool.false_ne_true
  | through m subject target =>
    show (h.resolve .empty m >>= fun blocked =>
      relateEndsBy _ subject target s d (g.flowsThrough blocked)) = _
    simp only [hsame.data.flowsThrough_eq]
    rfl
  | custom p => exact absurd ha Bool.false_ne_true

theorem testSet_eq (hsame : g.SameButControl h) {premise : NodeSet} {a : SetAtom}
    (ha : a.isBuiltIn = true) : a.test g s premise = a.test h s premise := by
  rw [← a.testBy_eq fun _ _ => rfl, ← a.testBy_eq fun _ _ => rfl, hsame.resolve_eq .empty]
  exact SetAtom.testBy_eq_of_isBuiltIn ha

theorem sameAnswers (hsame : g.SameButControl h) {o : Obligation} (ho : o.AtomsOfData) :
    o.SameAnswers g h := by
  cases o with
  | pair f =>
    exact fun a => funext fun b => f.evaluate_congr fun x hx => hsame.testPair_eq (ho x hx)
  | set f =>
    exact fun a => funext fun p => f.evaluate_congr fun x hx => hsame.testSet_eq (ho x hx)

end Graph.SameButControl

/-! ## Statements -/

namespace Statement

variable {s : Statement}

theorem lookUp_eq_of_sameButControl (hsame : g.SameButControl h) (unknown : UnknownMarkers) :
    s.lookUp g unknown = s.lookUp h unknown := by
  have hcheck (ms : List Marker) : checkMarkers g unknown ms = checkMarkers h unknown ms := by
    induction ms with
    | nil => rfl
    | cons m ms ih => rw [checkMarkers, checkMarkers, hsame.checkDeclared_eq, ih]
  unfold lookUp
  rw [hcheck, hsame.resolve_eq]

/-- A statement that asks for flows of data only is evaluated in the same way on graphs that differ
in their control edges only: with the same verdict or fault, and the same events on the way. -/
theorem evaluate_depends_on_data (s : Statement) (g h : Graph) (exhaustive : Bool)
    (unknown : UnknownMarkers) (hkind : s.kind = .data) (hobligation : s.obligation.OfData)
    (hsame : g.SameButControl h) :
    s.evaluate g exhaustive unknown = s.evaluate h exhaustive unknown := by
  have hedges : g.SameEdges h s.kind := hkind ▸ hsame.data
  have hanswers := hsame.sameAnswers hobligation.atomsOfData
  rw [evaluate_eq_lookUp, evaluate_eq_lookUp, lookUp_eq_of_sameButControl hsame,
    proceed_eq_of_alike hedges hanswers]

/-- The data of a peer comes to one review through an audit and straight to the other. -/
def relayGraph : Graph where
  controllers := [("main", [.int 0, .int 1, .int 2, .int 3])]
  labels := [(.int 0, [peer]), (.int 1, [audit]), (.int 2, [review]), (.int 3, [review])]
  edges := [⟨.int 0, .int 1, .data⟩, ⟨.int 1, .int 2, .data⟩, ⟨.int 0, .int 3, .data⟩]
  declared := [peer, audit, review]

/-- The same flows, and an audit that the review past it controls. -/
def steeredGraph : Graph :=
  { relayGraph with edges := [⟨.int 3, .int 1, .control⟩, ⟨.int 0, .int 3, .data⟩,
      ⟨.int 1, .int 2, .data⟩, ⟨.int 0, .int 1, .data⟩, ⟨.int 1, .int 3, .control⟩] }

/-- What a peer sends to a review goes through an audit, or the review sends it on to one. -/
def auditedFormula : Formula PairAtom :=
  .allOf [.atom .always, .anyOf [.atom (.through audit .source .destination),
    .atom (.influence .destination (.marked audit .some) .data)]]

def relayStatement : Statement where
  name := "relay"
  source := peer
  destination := review
  kind := .data
  sourceQuantifier := .all
  destinationQuantifier := .some
  obligation := .pair auditedFormula
  name_ne_blank := by decide
  all_of_set := nofun

theorem relayStatement_depends_on_data :
    relayStatement.kind = .data ∧ relayStatement.obligation.OfData ∧
      relayGraph.SameButControl steeredGraph ∧ ¬relayGraph.SameEdges steeredGraph .control ∧
      relayStatement.evaluate relayGraph true .error =
        relayStatement.evaluate steeredGraph true .error ∧
      (relayStatement.evaluate steeredGraph true .error).result =
        .ok ⟨"relay", [relayStatement.unmet (.int 0) (some (.int 3))]⟩ := by
  have hdisjunction : (Obligation.pair (.anyOf [.atom (.through audit .source .destination),
      .atom (.influence .destination (.marked audit .some) .data)])).OfData :=
    @Obligation.OfData.anyOf [.through audit .source .destination,
      .influence .destination (.marked audit .some) .data] _
      (List.forall_mem_cons.2 ⟨.through _ _ _, List.forall_mem_singleton.2 (.influence _ _)⟩) rfl
  have hobligation : relayStatement.obligation.OfData :=
    @Obligation.OfData.allOf [.always, .pair (.anyOf _)] _
      (List.forall_mem_cons.2 ⟨.always, List.forall_mem_singleton.2 hdisjunction⟩) rfl
  have hsame : relayGraph.SameButControl steeredGraph :=
    ⟨rfl, rfl, rfl, fun _ _ => by simp only [relayGraph, steeredGraph]; grind⟩
  have hdiffer : ¬relayGraph.SameEdges steeredGraph .control := by
    intro h
    exact absurd ((h (.int 3) (.int 1)).2 (by decide)) (by decide)
  exact ⟨rfl, hobligation, hsame, hdiffer, evaluate_depends_on_data relayStatement relayGraph
    steeredGraph true .error rfl hobligation hsame, rfl⟩

end Statement

end InfoFlow
