import InfoFlow.Proofs.Evaluation.Unknown
import InfoFlow.Proofs.Graph.Content
/-!
# Graphs that evaluations cannot tell apart

An evaluation asks a graph for the nodes of the statement's markers, for the destinations that each
source reaches, and for what the obligation asks. Graphs that are alike on the markers of the
statement answer all of it alike, so the evaluation takes the same course on them and comes to the
same verdict or fault.
-/

namespace InfoFlow.Statement

variable {s : Statement} {g h : Graph} {exhaustive : Bool} {unknown : UnknownMarkers}

/-! ## The premise -/

theorem premise_eq_of_sameEdges (hsame : g.SameEdges h s.kind) (source : Node)
    (destinations : NodeSet) :
    s.premise g source destinations = s.premise h source destinations := by
  unfold premise
  rw [hsame.influencees_eq]

theorem noFlows_eq_of_sameEdges (hsame : g.SameEdges h s.kind) (destinations : NodeSet)
    (sources : List Node) :
    s.noFlows g exhaustive destinations sources = s.noFlows h exhaustive destinations sources := by
  unfold noFlows missing
  simp only [premise_eq_of_sameEdges hsame]

/-! ## The obligation -/

theorem checkSource_eq_of_sameAnswers (hsame : s.obligation.SameAnswers g h) (source : Node)
    (premise : NodeSet) :
    s.checkSource g exhaustive source premise = s.checkSource h exhaustive source premise := by
  rw [checkSource_eq, checkSource_eq]
  unfold Obligation.SameAnswers at hsame
  cases ho : s.obligation with
  | pair f =>
    rw [ho] at hsame
    have hanswers : f.holdsOfPair g source = f.holdsOfPair h source := hsame source
    show s.checkPairs exhaustive source (f.holdsOfPair g source) premise.nodes = _
    rw [hanswers]
  | set f =>
    rw [ho] at hsame
    have hanswers : f.holdsOfSet g source = f.holdsOfSet h source := hsame source
    show s.checkOnce exhaustive source none (f.holdsOfSet g source premise) checkNone = _
    rw [hanswers]

theorem checkSources_eq_of_alike (hedges : g.SameEdges h s.kind)
    (hsame : s.obligation.SameAnswers g h) (destinations : NodeSet) (sources : List Node) :
    s.checkSources g exhaustive destinations sources =
      s.checkSources h exhaustive destinations sources := by
  induction sources with
  | nil => rfl
  | cons a sources ih =>
    -- the same premise triggers the same questions, whatever has been found so far
    funext t
    rw [checkSources_cons_eq_goOn, checkSources_cons_eq_goOn, premise_eq_of_sameEdges hedges,
      checkSource_eq_of_sameAnswers hsame, ih]

theorem checkAll_eq_of_alike (hedges : g.SameEdges h s.kind)
    (hsame : s.obligation.SameAnswers g h) (destinations : NodeSet) (sources : List Node) :
    s.checkAll g exhaustive destinations sources =
      s.checkAll h exhaustive destinations sources := by
  show s.conclude (s.checkSources g exhaustive destinations sources {}) = _
  rw [checkSources_eq_of_alike hedges hsame]
  rfl

/-! ## Statements -/

theorem checkMarkers_eq_of_alikeOn {ms : List Marker} (halike : g.AlikeOn h ms) :
    checkMarkers g unknown ms = checkMarkers h unknown ms := by
  induction ms with
  | nil => rfl
  | cons m ms ih =>
    have hrest : g.AlikeOn h ms := halike.mono fun _ => List.mem_cons_of_mem m
    rw [checkMarkers, checkMarkers, halike.checkDeclared_eq List.mem_cons_self, ih hrest]

theorem proceed_eq_of_alike (hedges : g.SameEdges h s.kind)
    (hsame : s.obligation.SameAnswers g h) :
    s.proceed g exhaustive (s.checkAll g exhaustive) =
      s.proceed h exhaustive (s.checkAll h exhaustive) := by
  funext destinations sources
  have hcheck : s.checkAll g exhaustive = s.checkAll h exhaustive :=
    funext fun _ => funext fun _ => checkAll_eq_of_alike hedges hsame _ _
  unfold proceed
  rw [hcheck, noFlows_eq_of_sameEdges hedges]

/-- The whole course of an evaluation, its events included, is the same on graphs that are alike on
the markers of the statement. -/
theorem evaluate_eq_of_alikeOn (halike : g.AlikeOn h s.markers)
    (hbuiltIn : s.obligation.IsBuiltIn) :
    s.evaluate g exhaustive unknown = s.evaluate h exhaustive unknown := by
  have hobligation : g.AlikeOn h s.obligation.markers := halike.mono fun _ hm =>
    List.mem_cons_of_mem _ (List.mem_cons_of_mem _ hm)
  have hlookups : g.AlikeOn h (Marker.orderedSet s.obligation.markers) :=
    hobligation.mono fun _ => Marker.mem_orderedSet.1
  have hanswers := Obligation.sameAnswers_of_alikeOn hobligation hbuiltIn
  have hcourse : s.proceed g exhaustive (s.checkAll g exhaustive) = _ :=
    proceed_eq_of_alike (halike.edges s.kind) hanswers
  have hsource := halike.resolve_eq (m := s.source) List.mem_cons_self unknown
  have hdestination := halike.resolve_eq (m := s.destination)
    (List.mem_cons_of_mem _ List.mem_cons_self) unknown
  rw [evaluate_eq, evaluate_eq, checkMarkers_eq_of_alikeOn hlookups, hsource, hdestination]
  show (checkMarkers h unknown _ >>= fun _ => h.resolve unknown s.source >>= fun sources =>
    h.resolve unknown s.destination >>= fun destinations =>
      s.proceed g exhaustive (s.checkAll g exhaustive) destinations sources.nodes) = _
  rw [hcourse]
  rfl

/-! ## Markers that are not the statement's -/

/-- A statement is evaluated in the same way on graphs with the same controllers and edges that
agree on its own markers. What they declare or mark besides does not matter. -/
theorem evaluate_depends_on_own_markers (s : Statement) (g h : Graph) (exhaustive : Bool)
    (unknown : UnknownMarkers) (hbuiltIn : s.obligation.IsBuiltIn)
    (hcontrollers : g.controllers = h.controllers) (hedges : g.edges = h.edges)
    (hmarkers : ∀ m ∈ s.markers, g.declares m = h.declares m ∧
      ∀ n ∈ g.nodes, g.carries m n = h.carries m n) :
    s.evaluate g exhaustive unknown = s.evaluate h exhaustive unknown := by
  have hnodes : g.nodes = h.nodes := by
    unfold Graph.nodes
    rw [hcontrollers]
  apply evaluate_eq_of_alikeOn _ hbuiltIn
  exact {
    edges := fun k a b => by rw [hedges]
    nodes := fun n => by rw [hnodes]
    declares := fun m hm => (hmarkers m hm).1
    carries := fun m hm => (hmarkers m hm).2 }

/-- A marker that no statement here speaks of. -/
def spare : Marker := ⟨"spare", by decide⟩

/-- The audited graph with other markers on its nodes, with other declarations, and without the
marker on a node that no controller lists. -/
def relabelledGraph : Graph := { auditedGraph with
  labels := [(.int 3, [spare]), (.int 1, [peer]), (.int 0, [spare, peer, peer])]
  declared := [spare, audit, peer, review] }

/-- The obligation has parts within parts, and each of them looks markers up. -/
theorem gatedStatement_depends_on_own_markers :
    gatedStatement.obligation.IsBuiltIn ∧
      (∀ m ∈ gatedStatement.markers, auditedGraph.declares m = relabelledGraph.declares m ∧
        ∀ n ∈ auditedGraph.nodes, auditedGraph.carries m n = relabelledGraph.carries m n) ∧
      auditedGraph.declares spare ≠ relabelledGraph.declares spare ∧
      gatedStatement.evaluate auditedGraph true .error =
        gatedStatement.evaluate relabelledGraph true .error := by
  have hbuiltIn : gatedStatement.obligation.IsBuiltIn := by decide
  have hmarkers : ∀ m ∈ gatedStatement.markers,
      auditedGraph.declares m = relabelledGraph.declares m ∧
        ∀ n ∈ auditedGraph.nodes, auditedGraph.carries m n = relabelledGraph.carries m n := by
    decide
  exact ⟨hbuiltIn, hmarkers, by decide, evaluate_depends_on_own_markers gatedStatement auditedGraph
    relabelledGraph true .error hbuiltIn rfl rfl hmarkers⟩

/-! ## How a graph is written down -/

/-- A statement is evaluated in the same way on graphs that are built from the same content, however
it is ordered, repeated and spread over controllers. -/
theorem evaluate_depends_on_content (s : Statement) (p q : GraphParts) (g h : Graph)
    (exhaustive : Bool) (unknown : UnknownMarkers) (hbuiltIn : s.obligation.IsBuiltIn)
    (hp : p.build = .ok g) (hq : q.build = .ok h) (hsame : p.SameContent q) :
    s.evaluate g exhaustive unknown = s.evaluate h exhaustive unknown := by
  have halike := hsame.alikeOn (GraphParts.builds_of_build hp) (GraphParts.builds_of_build hq)
    s.markers
  exact evaluate_eq_of_alikeOn halike hbuiltIn

/-- Two peers, one of which is listed by two controllers. -/
def spreadParts : GraphParts where
  controllers := [("left", [.int 0, .text "a"]), ("right", [.text "a", .null])]
  labels := [(.int 0, [.text "peer", .text "spare"]), (.text "a", [.text "peer"])]
  edges := [(.int 0, .text "a", .text "data"), (.text "a", .int 0, .text "data")]

/-- The same under one controller, with repetitions and a declaration. -/
def gatheredParts : GraphParts where
  controllers := [("all", [.null, .text "a", .int 0])]
  labels := [(.text "a", [.text "peer", .text "peer"]), (.int 0, [.text "spare", .text "peer"])]
  edges := [(.text "a", .int 0, .text " DATA "), (.int 0, .text "a", .text "Data"),
    (.text "a", .int 0, .text "data")]
  declared := some [.text "spare", .text "peer"]

def spreadGraph : Graph where
  controllers := [("left", [.int 0, .text "a"]), ("right", [.text "a", .null])]
  labels := [(.int 0, [peer, spare]), (.text "a", [peer])]
  edges := [⟨.int 0, .text "a", .data⟩, ⟨.text "a", .int 0, .data⟩]
  declared := [peer, spare, peer]

def gatheredGraph : Graph where
  controllers := [("all", [.null, .text "a", .int 0])]
  labels := [(.text "a", [peer, peer]), (.int 0, [spare, peer])]
  edges := [⟨.text "a", .int 0, .data⟩, ⟨.int 0, .text "a", .data⟩, ⟨.text "a", .int 0, .data⟩]
  declared := [spare, peer]

theorem spreadParts_sameContent : spreadParts.SameContent gatheredParts := by
  have hp : spreadParts.Builds spreadGraph := GraphParts.builds_of_build rfl
  have hq : gatheredParts.Builds gatheredGraph := GraphParts.builds_of_build rfl
  apply GraphParts.sameContent_of_builds hp hq
  · grind [Graph.nodes, spreadGraph, gatheredGraph]
  · grind [Graph.carries, Keyed.get?, spreadGraph, gatheredGraph]
  · grind [spreadGraph, gatheredGraph]
  · grind [Graph.declares, spreadGraph, gatheredGraph]

/-- Neither the order of the searches nor that of the labels shows in the violations. -/
theorem spreadParts_depends_on_content :
    gatedStatement.obligation.IsBuiltIn ∧
      spreadParts.build = .ok spreadGraph ∧ gatheredParts.build = .ok gatheredGraph ∧
      spreadParts.SameContent gatheredParts ∧
      gatedStatement.evaluate spreadGraph true .empty =
        gatedStatement.evaluate gatheredGraph true .empty ∧
      (gatedStatement.evaluate gatheredGraph true .empty).result = .ok ⟨"gated", [
        gatedStatement.unmet (.text "a") (some (.text "a")),
        gatedStatement.unmet (.text "a") (some (.int 0)),
        gatedStatement.unmet (.int 0) (some (.text "a")),
        gatedStatement.unmet (.int 0) (some (.int 0))]⟩ := by
  have hbuiltIn : gatedStatement.obligation.IsBuiltIn := by decide
  have hsame := evaluate_depends_on_content gatedStatement spreadParts gatheredParts spreadGraph
    gatheredGraph true .empty hbuiltIn rfl rfl spreadParts_sameContent
  exact ⟨hbuiltIn, rfl, rfl, spreadParts_sameContent, hsame, rfl⟩

end InfoFlow.Statement
