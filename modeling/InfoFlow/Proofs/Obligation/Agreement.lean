import InfoFlow.Proofs.Node.Quoted
import InfoFlow.Proofs.Obligation.Lookup
import InfoFlow.Proofs.Obligation.Meaning
/-!
# Graphs that obligations cannot tell apart

A built-in obligation asks a graph for walks and for the nodes that its own markers stand for. Walks
depend on which edges there are, not on how they are listed, and a set of nodes depends on its
members only. So graphs with the same edges and nodes that agree on the markers of an obligation
give it the same answers, with the same events. A predicate of the caller may ask for anything, so
nothing is said of it here.
-/

namespace InfoFlow

/-! ## The same edges -/

/-- The same edges of a kind, in any order and any number of times. -/
def Graph.SameEdges (g h : Graph) (k : EdgeKind) : Prop :=
  ∀ s t, ⟨s, t, k⟩ ∈ g.edges ↔ ⟨s, t, k⟩ ∈ h.edges

namespace Graph.SameEdges

variable {g h : Graph} {k : EdgeKind} {a b : Node} {ms : List Node}

theorem symm (hsame : g.SameEdges h k) : h.SameEdges g k := fun s t => (hsame s t).symm

theorem walk (hsame : g.SameEdges h k) (w : g.Walk k a ms b) : h.Walk k a ms b := by
  induction w with
  | edge he => exact .edge ((hsame _ _).1 he)
  | step he _ ih => exact .step ((hsame _ _).1 he) ih

theorem walk_iff (hsame : g.SameEdges h k) : g.Walk k a ms b ↔ h.Walk k a ms b :=
  ⟨hsame.walk, hsame.symm.walk⟩

theorem reaches_iff (hsame : g.SameEdges h k) : g.Reaches k a b ↔ h.Reaches k a b :=
  exists_congr fun _ => hsame.walk_iff

theorem influencees_eq (hsame : g.SameEdges h k) (n : Node) :
    g.influencees n k = h.influencees n k := by
  apply NodeSet.ext
  intro t
  rw [mem_influencees, mem_influencees, hsame.reaches_iff]

-- Each question that an obligation asks about two nodes is decided by a search, and the searches in
-- the two graphs need not take the same course; what they are known to answer is the same.

theorem flowsThrough_eq (hdata : g.SameEdges h .data) (blocked : NodeSet) :
    g.flowsThrough blocked = h.flowsThrough blocked := by
  funext a b
  rw [Bool.eq_iff_iff]
  unfold flowsThrough
  simp only [Bool.and_eq_true, flowsTo_iff_reaches, not_flowsAvoiding_iff, hdata.reaches_iff,
    hdata.walk_iff]

theorem controls_eq (hdata : g.SameEdges h .data) (hcontrol : g.SameEdges h .control) :
    g.controls = h.controls := by
  funext a b
  rw [Bool.eq_iff_iff]
  simp only [controls_iff, Governs, hdata.reaches_iff, hcontrol.reaches_iff]

theorem relates_eq (hsame : ∀ k, g.SameEdges h k) (k : EdgeKind) : g.relates k = h.relates k := by
  cases k with
  | data =>
    funext a b
    show g.flowsTo a b .data = h.flowsTo a b .data
    rw [Bool.eq_iff_iff, flowsTo_iff_reaches, flowsTo_iff_reaches, (hsame .data).reaches_iff]
  | control => exact controls_eq (hsame .data) (hsame .control)

theorem authorizes_eq (hsame : ∀ k, g.SameEdges h k) (checkers : NodeSet) :
    g.authorizes checkers = h.authorizes checkers := by
  funext s n
  unfold authorizes
  -- a checker is seen by the one search exactly if it is seen by the other
  have hseen (c : Node) : decide (c ∈ g.reached s .data) = decide (c ∈ h.reached s .data) := by
    apply decide_eq_decide.2
    rw [mem_reached, mem_reached, (hsame .data).reaches_iff]
  simp only [hseen, controls_eq (hsame .data) (hsame .control)]

end Graph.SameEdges

/-! ## Built-in obligations -/

/-- Whether an atom is none that the caller gives. -/
def PairAtom.isBuiltIn : PairAtom → Bool
  | custom _ => false
  | _ => true

def SetAtom.isBuiltIn : SetAtom → Bool
  | custom _ => false
  | _ => true

/-- No part of the obligation is a predicate of the caller. -/
def Obligation.IsBuiltIn : Obligation → Prop
  | pair f => ∀ a ∈ f.atoms, a.isBuiltIn = true
  | set f => ∀ a ∈ f.atoms, a.isBuiltIn = true

instance : (o : Obligation) → Decidable o.IsBuiltIn
  | .pair f => inferInstanceAs (Decidable (∀ a ∈ f.atoms, a.isBuiltIn = true))
  | .set f => inferInstanceAs (Decidable (∀ a ∈ f.atoms, a.isBuiltIn = true))

variable {look : Marker → Traced NodeSet} {g h : Graph} {s d : Node}

theorem PairAtom.testBy_eq_of_sameEdges (hsame : ∀ k, g.SameEdges h k) {a : PairAtom}
    (ha : a.isBuiltIn = true) : a.testBy look g s d = a.testBy look h s d := by
  cases a with
  | always => rfl
  | influence subject target k =>
    show relateEndsBy look subject target s d (g.relates k) = _
    rw [Graph.SameEdges.relates_eq hsame]
    rfl
  | authorized m side label =>
    show (look m >>= fun checkers => pure (g.authorizes checkers s (side.node s d))) = _
    simp only [Graph.SameEdges.authorizes_eq hsame]
    rfl
  | through m subject target =>
    show (look m >>= fun blocked =>
      relateEndsBy look subject target s d (g.flowsThrough blocked)) = _
    simp only [(hsame .data).flowsThrough_eq]
    rfl
  | custom p => exact absurd ha Bool.false_ne_true

/-- What is asked about a whole set of nodes is asked of no edge. -/
theorem SetAtom.testBy_eq_of_isBuiltIn {premise : NodeSet} {a : SetAtom}
    (ha : a.isBuiltIn = true) : a.testBy look g s premise = a.testBy look h s premise := by
  cases a with
  | equals m => rfl
  | atLeast n => rfl
  | custom p => exact absurd ha Bool.false_ne_true

/-! ## Graphs that agree on some markers -/

/-- The same nodes and edges, however they are listed, and the same declarations and carriers of
some markers. -/
structure Graph.AlikeOn (g h : Graph) (ms : List Marker) : Prop where
  edges : ∀ k, g.SameEdges h k
  nodes : ∀ n, n ∈ g.nodes ↔ n ∈ h.nodes
  declares : ∀ m ∈ ms, g.declares m = h.declares m
  carries : ∀ m ∈ ms, ∀ n ∈ g.nodes, g.carries m n = h.carries m n

namespace Graph.AlikeOn

variable {ms ns : List Marker} {m : Marker}

theorem mono (halike : g.AlikeOn h ms) (hsubset : ∀ m ∈ ns, m ∈ ms) : g.AlikeOn h ns where
  edges := halike.edges
  nodes := halike.nodes
  declares := fun m hm => halike.declares m (hsubset m hm)
  carries := fun m hm => halike.carries m (hsubset m hm)

theorem carriers_eq (halike : g.AlikeOn h ms) (hm : m ∈ ms) : g.carriers m = h.carriers m := by
  apply NodeSet.ext
  intro n
  rw [mem_carriers, mem_carriers, ← halike.nodes n]
  apply and_congr_right
  intro hn
  rw [halike.carries m hm n hn]

theorem checkDeclared_eq (halike : g.AlikeOn h ms) (hm : m ∈ ms) (unknown : UnknownMarkers) :
    g.checkDeclared unknown m = h.checkDeclared unknown m := by
  unfold checkDeclared
  rw [halike.declares m hm]

theorem resolve_eq (halike : g.AlikeOn h ms) (hm : m ∈ ms) (unknown : UnknownMarkers) :
    g.resolve unknown m = h.resolve unknown m := by
  unfold resolve
  rw [halike.checkDeclared_eq hm, halike.carriers_eq hm]

end Graph.AlikeOn

/-! ## Obligations -/

/-- The two graphs give related answers to whatever the obligation asks. -/
def Obligation.RelatedOn (R : (α : Type) → Traced α → Traced α → Prop) (o : Obligation)
    (g h : Graph) : Prop :=
  match o with
  | .pair f => ∀ a b, R Bool (f.holdsOfPair g a b) (f.holdsOfPair h a b)
  | .set f => ∀ a p, R Bool (f.holdsOfSet g a p) (f.holdsOfSet h a p)

/-- What the steps of a built-in obligation keep between the look-ups of two graphs with the same
edges, its answers on them keep. -/
theorem Obligation.relatedOn_of_steps {R : (α : Type) → Traced α → Traced α → Prop}
    {o : Obligation} (hedges : ∀ k, g.SameEdges h k) (hbuiltIn : o.IsBuiltIn)
    (hsteps : ∀ s t, RelatedBySteps R (g.resolve .empty) (h.resolve .empty) s t o.markers) :
    o.RelatedOn R g h := by
  -- from the look-up of the first graph to that of the second, and then by way of the edges
  cases o with
  | pair f =>
    intro a b
    have htests : f.evaluate (PairAtom.testBy (h.resolve .empty) g a b) = f.holdsOfPair h a b :=
      f.evaluate_congr fun x hx => PairAtom.testBy_eq_of_sameEdges hedges (hbuiltIn x hx)
    rw [← htests]
    exact (hsteps a (.node b)).pair
  | set f =>
    intro a p
    have htests : f.evaluate (SetAtom.testBy (h.resolve .empty) g a p) = f.holdsOfSet h a p :=
      f.evaluate_congr fun x hx => SetAtom.testBy_eq_of_isBuiltIn (hbuiltIn x hx)
    rw [← htests]
    exact (hsteps a (.nodes p)).set

/-- The two graphs answer whatever the obligation asks in the same way. -/
def Obligation.SameAnswers (o : Obligation) (g h : Graph) : Prop :=
  match o with
  | .pair f => ∀ a, f.holdsOfPair g a = f.holdsOfPair h a
  | .set f => ∀ a, f.holdsOfSet g a = f.holdsOfSet h a

theorem Obligation.sameAnswers_of_alikeOn {o : Obligation} (halike : g.AlikeOn h o.markers)
    (hbuiltIn : o.IsBuiltIn) : o.SameAnswers g h := by
  have hrelated : o.RelatedOn (fun _ x y => x = y) g h :=
    relatedOn_of_steps halike.edges hbuiltIn fun s t =>
      ⟨Traced.congruence_eq, fun m hm => halike.resolve_eq hm .empty, rfl, fun _ => rfl⟩
  cases o with
  | pair f => exact fun a => funext (hrelated a)
  | set f => exact fun a => funext (hrelated a)

/-- Built-in obligations come to the same on graphs with the same edges where the same nodes have
their markers, whatever is told on the way. -/
theorem Obligation.relatedOn_result {o : Obligation} (hedges : ∀ k, g.SameEdges h k)
    (hmarked : ∀ m ∈ o.markers, g.marked m = h.marked m) (hbuiltIn : o.IsBuiltIn) :
    o.RelatedOn (fun _ x y => x.result = y.result) g h := by
  apply relatedOn_of_steps hedges hbuiltIn
  refine fun s t => ⟨Traced.congruence_result, fun m hm => ?_, rfl, fun _ => rfl⟩
  rw [Graph.resolve_empty_result, Graph.resolve_empty_result, hmarked m hm]

end InfoFlow
