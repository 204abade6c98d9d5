import InfoFlow.Proofs.Resolution
/-!
# Looking up the markers of an obligation

An obligation looks its markers up while it is asked, and takes an undeclared one for no node. Here
the look-up is left open. What an obligation answers depends on how its own markers are looked up
and on no others, so if the graph declares them, nothing is taken for no node, and any look-up that
finds what declared markers stand for gives the same answers.
-/

namespace InfoFlow

variable {look : Marker → Traced NodeSet} {g : Graph} {s d : Node}

/-! ## Obligations with another look-up

Each definition is the one it is named after, with `look` in the place of the obligation's own
look-up, `g.resolve .empty`. -/

def Endpoint.nodesBy (look : Marker → Traced NodeSet) (e : Endpoint) (s d : Node) :
    Traced NodeSet :=
  match e.role, e.marker with
  | .bound .source, _ => pure (.singleton s)
  | .bound .destination, _ => pure (.singleton d)
  | .marked, some m => look m
  | .marked, none => .fault noSelection

def relateEndsBy (look : Marker → Traced NodeSet) (subject target : Endpoint) (s d : Node)
    (related : Node → Node → Bool) : Traced Bool := do
  let targets ← target.nodesBy look s d
  let subjects ← subject.nodesBy look s d
  pure (subject.quantifier.holds subjects fun a =>
    target.quantifier.holds targets fun b => related a b)

def PairAtom.testBy (look : Marker → Traced NodeSet) (g : Graph) (s d : Node) :
    PairAtom → Traced Bool
  | always => pure true
  | influence subject target k => relateEndsBy look subject target s d (g.relates k)
  | authorized m side _ => do
    let checkers ← look m
    pure (g.authorizes checkers s (side.node s d))
  | through m subject target => do
    let blocked ← look m
    relateEndsBy look subject target s d (g.flowsThrough blocked)
  | custom p => p.ask g s (.node d)

def SetAtom.testBy (look : Marker → Traced NodeSet) (g : Graph) (s : Node) (premise : NodeSet) :
    SetAtom → Traced Bool
  | equals m => do
    let nodes ← look m
    pure (premise.same nodes)
  | atLeast n => pure (n ≤ premise.size)
  | custom p => p.ask g s (.nodes premise)

/-! ## What every composition keeps -/

/-- A relation between evaluations that holds between equal results of which nothing is told, and
that going on with the results keeps. -/
structure Traced.Congruence (R : (α : Type) → Traced α → Traced α → Prop) : Prop where
  pure {α : Type} (a : α) : R α (pure a) (pure a)
  bind {α β : Type} {x y : Traced α} {f f' : α → Traced β} (hx : R α x y)
    (hf : ∀ a, R β (f a) (f' a)) : R β (x >>= f) (y >>= f')

theorem Traced.congruence_eq : Traced.Congruence fun _ x y => x = y where
  pure _ := rfl
  bind hx hf := by rw [hx, funext hf]

theorem Traced.congruence_result : Traced.Congruence fun _ x y => x.result = y.result where
  pure _ := rfl
  bind hx hf := by rw [result_bind, result_bind, hx, funext hf]

namespace Formula

variable {α : Type} {test test' : α → Traced Bool}
  {R : (α : Type) → Traced α → Traced α → Prop}

mutual

/-- Two ways to test the atoms of a formula that are related on them relate its values. -/
theorem evaluate_related (hR : Traced.Congruence R) : ∀ f : Formula α,
    (∀ a ∈ f.atoms, R Bool (test a) (test' a)) → R Bool (f.evaluate test) (f.evaluate test')
  | .atom a, h => h a (List.mem_singleton.2 rfl)
  | .allOf ps, h => evaluateAll_related hR ps h
  | .anyOf ps, h => evaluateAny_related hR ps h

theorem evaluateAll_related (hR : Traced.Congruence R) : ∀ ps : List (Formula α),
    (∀ a ∈ atomsOf ps, R Bool (test a) (test' a)) →
    R Bool (evaluateAll test ps) (evaluateAll test' ps)
  | [], _ => hR.pure true
  | p :: ps, h => by
    have hfirst := evaluate_related hR p fun a ha => h a (List.mem_append_left _ ha)
    have hrest := evaluateAll_related hR ps fun a ha => h a (List.mem_append_right _ ha)
    -- whatever the first part answers, the others are asked or nothing is
    refine hR.bind hfirst fun b => ?_
    cases b with
    | true => exact hrest
    | false => exact hR.pure false

theorem evaluateAny_related (hR : Traced.Congruence R) : ∀ ps : List (Formula α),
    (∀ a ∈ atomsOf ps, R Bool (test a) (test' a)) →
    R Bool (evaluateAny test ps) (evaluateAny test' ps)
  | [], _ => hR.pure false
  | p :: ps, h => by
    have hfirst := evaluate_related hR p fun a ha => h a (List.mem_append_left _ ha)
    have hrest := evaluateAny_related hR ps fun a ha => h a (List.mem_append_right _ ha)
    refine hR.bind hfirst fun b => ?_
    cases b with
    | true => exact hR.pure true
    | false => exact hrest

end

/-- Two ways to test the atoms of a formula that agree on them give it the same value, with the same
events. -/
theorem evaluate_congr (f : Formula α) (h : ∀ a ∈ f.atoms, test a = test' a) :
    f.evaluate test = f.evaluate test' := f.evaluate_related Traced.congruence_eq h

end Formula

/-! ## What every step of an obligation keeps -/

/-- A relation that all steps of an obligation keep when it is asked about a source and a target
with two look-ups: looking some markers up, coming upon an end without a marker, and calling a
predicate. -/
structure RelatedBySteps (R : (α : Type) → Traced α → Traced α → Prop)
    (look look' : Marker → Traced NodeSet) (s : Node) (t : Target) (ms : List Marker) : Prop where
  congruence : Traced.Congruence R
  look : ∀ m ∈ ms, R NodeSet (look m) (look' m)
  fault : R NodeSet (.fault Endpoint.noSelection) (.fault Endpoint.noSelection)
  call : ∀ tag, R Unit (.tell (.called ⟨tag, s, t⟩)) (.tell (.called ⟨tag, s, t⟩))

namespace RelatedBySteps

variable {R : (α : Type) → Traced α → Traced α → Prop} {look' : Marker → Traced NodeSet}
  {t : Target} {ms ns : List Marker}

theorem mono (h : RelatedBySteps R look look' s t ms) (hsubset : ∀ m ∈ ns, m ∈ ms) :
    RelatedBySteps R look look' s t ns :=
  { h with look := fun m hm => h.look m (hsubset m hm) }

theorem left (h : RelatedBySteps R look look' s t (ms ++ ns)) :
    RelatedBySteps R look look' s t ms := h.mono fun _ => List.mem_append_left ns

theorem right (h : RelatedBySteps R look look' s t (ms ++ ns)) :
    RelatedBySteps R look look' s t ns := h.mono fun _ => List.mem_append_right ms

theorem nodes {e : Endpoint} (h : RelatedBySteps R look look' s t e.markers) (d : Node) :
    R NodeSet (e.nodesBy look s d) (e.nodesBy look' s d) := by
  obtain ⟨role, marker, quantifier, label⟩ := e
  cases role with
  | bound side => cases side <;> exact h.congruence.pure _
  | marked =>
    cases marker with
    | none => exact h.fault
    -- the only end that looks a marker up is one that has it among its own
    | some m => exact h.look m (List.mem_singleton.2 rfl)

theorem relateEnds {subject target : Endpoint}
    (h : RelatedBySteps R look look' s t (subject.markers ++ target.markers)) (d : Node)
    (related : Node → Node → Bool) :
    R Bool (relateEndsBy look subject target s d related)
      (relateEndsBy look' subject target s d related) :=
  h.congruence.bind (h.right.nodes d) fun _ =>
    h.congruence.bind (h.left.nodes d) fun _ => h.congruence.pure _

theorem ask (h : RelatedBySteps R look look' s t ms) (p : Predicate) :
    R Bool (p.ask g s t) (p.ask g s t) := by
  unfold Predicate.ask
  cases p.tag with
  | none => exact h.congruence.pure _
  | some tag => exact h.congruence.bind (h.call tag) fun _ => h.congruence.pure _

theorem testPair {a : PairAtom} (h : RelatedBySteps R look look' s (.node d) a.markers) :
    R Bool (a.testBy look g s d) (a.testBy look' g s d) := by
  cases a with
  | always => exact h.congruence.pure true
  | influence subject target k => exact h.relateEnds d _
  | authorized m side label =>
    have hm := h.look m (List.mem_singleton.2 rfl)
    exact h.congruence.bind hm fun _ => h.congruence.pure _
  | through m subject target =>
    have hm := h.right.look m (List.mem_singleton.2 rfl)
    -- the checkpoints are looked up; what is left are the ends, for any set of blocked nodes
    exact h.congruence.bind hm fun _ => h.left.relateEnds d _
  | custom p => exact h.ask p

theorem testSet {premise : NodeSet} {a : SetAtom}
    (h : RelatedBySteps R look look' s (.nodes premise) a.markers) :
    R Bool (a.testBy look g s premise) (a.testBy look' g s premise) := by
  cases a with
  | equals m =>
    have hm := h.look m (List.mem_singleton.2 rfl)
    exact h.congruence.bind hm fun _ => h.congruence.pure _
  | atLeast n => exact h.congruence.pure _
  | custom p => exact h.ask p

theorem pair {f : Formula PairAtom}
    (h : RelatedBySteps R look look' s (.node d) (Obligation.pair f).markers) :
    R Bool (f.evaluate (PairAtom.testBy look g s d))
      (f.evaluate (PairAtom.testBy look' g s d)) := by
  apply f.evaluate_related h.congruence
  intro a ha
  exact (h.mono fun m hm => List.mem_flatMap.2 ⟨a, ha, hm⟩).testPair

theorem set {f : Formula SetAtom} {premise : NodeSet}
    (h : RelatedBySteps R look look' s (.nodes premise) (Obligation.set f).markers) :
    R Bool (f.evaluate (SetAtom.testBy look g s premise))
      (f.evaluate (SetAtom.testBy look' g s premise)) := by
  apply f.evaluate_related h.congruence
  intro a ha
  exact (h.mono fun m hm => List.mem_flatMap.2 ⟨a, ha, hm⟩).testSet

end RelatedBySteps

/-! ## The look-up matters for the own markers only -/

/-- A look-up finds for some markers what an obligation finds for them. -/
def Graph.AgreesOn (g : Graph) (look : Marker → Traced NodeSet) (ms : List Marker) : Prop :=
  ∀ m ∈ ms, look m = g.resolve .empty m

-- With the look-up of the obligation itself, each of the definitions above is the one that it is
-- named after.

theorem Graph.AgreesOn.relatedBySteps {ms : List Marker} (h : g.AgreesOn look ms) (s : Node)
    (t : Target) : RelatedBySteps (fun _ x y => x = y) look (g.resolve .empty) s t ms :=
  ⟨Traced.congruence_eq, h, rfl, fun _ => rfl⟩

theorem PairAtom.testBy_eq (a : PairAtom) (h : g.AgreesOn look a.markers) :
    a.testBy look g s d = a.test g s d := (h.relatedBySteps s (.node d)).testPair

theorem SetAtom.testBy_eq {premise : NodeSet} (a : SetAtom) (h : g.AgreesOn look a.markers) :
    a.testBy look g s premise = a.test g s premise := (h.relatedBySteps s (.nodes premise)).testSet

theorem Formula.evaluate_testBy_pair (f : Formula PairAtom)
    (h : g.AgreesOn look (Obligation.pair f).markers) (s d : Node) :
    f.evaluate (PairAtom.testBy look g s d) = f.holdsOfPair g s d :=
  (h.relatedBySteps s (.node d)).pair

theorem Formula.evaluate_testBy_set (f : Formula SetAtom)
    (h : g.AgreesOn look (Obligation.set f).markers) (s : Node) (premise : NodeSet) :
    f.evaluate (SetAtom.testBy look g s premise) = f.holdsOfSet g s premise :=
  (h.relatedBySteps s (.nodes premise)).set

/-! ## Declared markers are known -/

/-- No marker was taken for no node, and no marker is the fault. -/
structure Traced.Known {α : Type} (x : Traced α) : Prop where
  declared : ∀ m, Event.undeclared m ∉ x.events
  result : ∀ m, x.result ≠ .error (.unknownMarker m)

namespace Traced.Known

variable {α β : Type}

protected theorem pure (a : α) : (pure a : Traced α).Known :=
  ⟨fun _ => List.not_mem_nil, nofun⟩

theorem bind {x : Traced α} {f : α → Traced β} (hx : x.Known) (hf : ∀ a, (f a).Known) :
    (x >>= f).Known := by
  obtain ⟨events, result⟩ := x
  cases result with
  | error e =>
    refine ⟨hx.declared, fun m hm => hx.result m ?_⟩
    rw [Except.error.inj hm]
  | ok a =>
    refine ⟨fun m hm => ?_, (hf a).result⟩
    rcases List.mem_append.1 hm with hm | hm
    · exact hx.declared m hm
    · exact (hf a).declared m hm

end Traced.Known

/-- The graph declares some markers. -/
def Graph.DeclaresAll (g : Graph) (ms : List Marker) : Prop := ∀ m ∈ ms, g.declares m = true

namespace Graph.DeclaresAll

variable {ms ns : List Marker}

theorem left (h : g.DeclaresAll (ms ++ ns)) : g.DeclaresAll ms :=
  fun m hm => h m (List.mem_append_left ns hm)

theorem right (h : g.DeclaresAll (ms ++ ns)) : g.DeclaresAll ns :=
  fun m hm => h m (List.mem_append_right ms hm)

theorem resolve_known {m : Marker} (h : g.DeclaresAll ms) (hm : m ∈ ms)
    (unknown : UnknownMarkers) : (g.resolve unknown m).Known := by
  rw [Graph.resolve_of_declares (h m hm)]
  exact .pure _

/-- Any look-up that finds what declared markers stand for agrees on declared markers. -/
theorem agreesOn (h : g.DeclaresAll ms)
    (hlook : ∀ m, g.declares m = true → look m = pure (g.carriers m)) : g.AgreesOn look ms := by
  intro m hm
  rw [hlook m (h m hm), Graph.resolve_of_declares (h m hm)]

end Graph.DeclaresAll

-- A property is kept as the relation that it makes of an evaluation to any other.

theorem Graph.DeclaresAll.relatedBySteps {ms : List Marker} (h : g.DeclaresAll ms) (s : Node)
    (t : Target) :
    RelatedBySteps (fun _ x _ => x.Known) (g.resolve .empty) (g.resolve .empty) s t ms where
  congruence := ⟨.pure, .bind⟩
  look _ hm := h.resolve_known hm .empty
  -- the fault of an end without a marker is not about a marker
  fault := ⟨fun _ => List.not_mem_nil, nofun⟩
  call tag := by
    refine ⟨fun m hm => ?_, nofun⟩
    exact nomatch List.mem_singleton.1 hm

theorem Formula.holdsOfPair_known (f : Formula PairAtom)
    (h : g.DeclaresAll (Obligation.pair f).markers) (s d : Node) : (f.holdsOfPair g s d).Known :=
  (h.relatedBySteps s (.node d)).pair

theorem Formula.holdsOfSet_known (f : Formula SetAtom)
    (h : g.DeclaresAll (Obligation.set f).markers) (s : Node) (premise : NodeSet) :
    (f.holdsOfSet g s premise).Known :=
  (h.relatedBySteps s (.nodes premise)).set

end InfoFlow
