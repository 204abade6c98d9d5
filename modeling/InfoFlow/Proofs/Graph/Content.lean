import InfoFlow.Proofs.Keyed
import InfoFlow.Proofs.Obligation.Agreement
/-!
# What a graph is built from

The parts that a graph is built from list nodes, markers and edges in some order, perhaps more than
once, and spread the nodes over controllers in some way. Their content is what is left when that is
forgotten. A graph that is built holds the content of its parts, so parts with the same content give
graphs that no built-in obligation can tell apart.
-/

namespace InfoFlow

/-! ## Parts and their content -/

/-- What a graph is built from, none of it checked. -/
structure GraphParts where
  controllers : List (String × List Node) := []
  labels : List (Node × List Value) := []
  edges : List (Node × Node × Value) := []
  declared : Option (List Value) := none

namespace GraphParts

/-- The graph that is built from the parts. -/
def build (p : GraphParts) : Except Malformed Graph :=
  Graph.build p.controllers p.labels p.edges p.declared

/-- Some controller lists a node. -/
def Lists (p : GraphParts) (n : Node) : Prop :=
  ∃ c ns, Keyed.get? (Keyed.ofList p.controllers) c = some ns ∧ n ∈ ns

/-- A marker is among the labels of a node. -/
def Labels (p : GraphParts) (n : Node) (m : Marker) : Prop :=
  ∃ vs, Keyed.get? (Keyed.ofList p.labels) n = some vs ∧ ∃ v ∈ vs, Marker.ofValue v = .ok m

/-- An edge is listed, with its kind written in some way. -/
def Joins (p : GraphParts) (e : Edge) : Prop :=
  ∃ k, (e.source, e.target, k) ∈ p.edges ∧ Choice.read "edge kind" k = .ok e.kind

/-- A marker is declared: by the declaration, or without one by being the label of some node. -/
def Declares (p : GraphParts) (m : Marker) : Prop :=
  match p.declared with
  | some vs => ∃ v ∈ vs, Marker.ofValue v = .ok m
  | none => ∃ n, p.Labels n m

/-- The same nodes of controllers, the same labels of each node, the same edges and the same
declared markers. -/
structure SameContent (p q : GraphParts) : Prop where
  lists : ∀ n, p.Lists n ↔ q.Lists n
  labels : ∀ n m, p.Labels n m ↔ q.Labels n m
  joins : ∀ e, p.Joins e ↔ q.Joins e
  declares : ∀ m, p.Declares m ↔ q.Declares m

/-! ## A graph holds the content of its parts -/

/-- The declared markers that the parts give, once the labels have been read. -/
def readDeclared (p : GraphParts) (labels : Keyed Node (List Marker)) :
    Except Malformed (List Marker) :=
  match p.declared with
  | some vs => vs.mapM Marker.ofValue
  | none => pure (Graph.attached labels)

variable {p q : GraphParts} {g h : Graph}

/-- A graph is built part by part. -/
structure Builds (p : GraphParts) (g : Graph) : Prop where
  labels : (Keyed.ofList p.labels).mapM (fun e => do return (e.1, ← e.2.mapM Marker.ofValue)) =
    .ok g.labels
  edges : p.edges.mapM (fun e => do
    return Edge.mk e.1 e.2.1 (← Choice.read "edge kind" e.2.2)) = .ok g.edges
  declared : p.readDeclared g.labels = .ok g.declared
  controllers : g.controllers =
    (Keyed.ofList p.controllers).map fun e => (e.1, NodeSet.distinct e.2)

theorem builds_of_build (hbuild : p.build = .ok g) : p.Builds g := by
  obtain ⟨labels, hlabels, hrest⟩ := except_bind_eq_ok.1 hbuild
  obtain ⟨edges, hedges, hrest⟩ := except_bind_eq_ok.1 hrest
  -- the declared markers are read in either case before the graph is put together
  have hread : p.readDeclared labels >>= (fun declared => pure {
      controllers := (Keyed.ofList p.controllers).map fun e => (e.1, NodeSet.distinct e.2)
      labels, edges, declared }) = .ok g := by
    unfold readDeclared
    cases hdeclared : p.declared with
    | none =>
      rw [hdeclared] at hrest
      exact hrest
    | some vs =>
      rw [hdeclared] at hrest
      exact hrest
  obtain ⟨declared, hdeclared, hrest⟩ := except_bind_eq_ok.1 hread
  obtain rfl := except_pure_eq_ok.1 hrest
  exact ⟨hlabels, hedges, hdeclared, rfl⟩

theorem build_of_builds (hbuilds : p.Builds g) : p.build = .ok g := by
  obtain ⟨controllers, labels, edges, declared⟩ := g
  obtain ⟨hlabels, hedges, hdeclared, rfl⟩ := hbuilds
  refine except_bind_eq_ok.2 ⟨labels, hlabels, except_bind_eq_ok.2 ⟨edges, hedges, ?_⟩⟩
  unfold readDeclared at hdeclared
  cases hgiven : p.declared with
  | none =>
    rw [hgiven] at hdeclared
    exact except_bind_eq_ok.2 ⟨declared, hdeclared, rfl⟩
  | some vs =>
    rw [hgiven] at hdeclared
    exact except_bind_eq_ok.2 ⟨declared, hdeclared, rfl⟩

theorem exists_readDeclared_iff {labels : Keyed Node (List Marker)} :
    (∃ ms, p.readDeclared labels = .ok ms) ↔
      ∀ vs, p.declared = some vs → ∀ v ∈ vs, ∃ m, Marker.ofValue v = .ok m := by
  unfold readDeclared
  cases p.declared with
  | none => exact iff_of_true ⟨_, rfl⟩ nofun
  | some vs => simp only [exists_mapM_eq_ok, Option.some.injEq, forall_eq']

/-- Parts make a graph exactly if their markers are markers and the kinds of their edges are
kinds. -/
theorem exists_build_iff :
    (∃ g, p.build = .ok g) ↔
      (∀ e ∈ Keyed.ofList p.labels, ∀ v ∈ e.2, ∃ m, Marker.ofValue v = .ok m) ∧
      (∀ e ∈ p.edges, ∃ k : EdgeKind, Choice.read "edge kind" e.2.2 = .ok k) ∧
      ∀ vs, p.declared = some vs → ∀ v ∈ vs, ∃ m, Marker.ofValue v = .ok m := by
  have hread (e : Node × List Value) :
      (∃ r, (do return (e.1, ← e.2.mapM Marker.ofValue) : Except Malformed _) = .ok r) ↔
        ∀ v ∈ e.2, ∃ m, Marker.ofValue v = .ok m := by
    rw [← exists_mapM_eq_ok]
    simp only [except_bind_eq_ok, except_pure_eq_ok]
    exact ⟨fun ⟨_, ms, hms, _⟩ => ⟨ms, hms⟩, fun ⟨ms, hms⟩ => ⟨_, ms, hms, rfl⟩⟩
  have hjoin (e : Node × Node × Value) :
      (∃ r, (do return Edge.mk e.1 e.2.1 (← Choice.read "edge kind" e.2.2) :
        Except Malformed _) = .ok r) ↔
        ∃ k : EdgeKind, Choice.read "edge kind" e.2.2 = .ok k := by
    simp only [except_bind_eq_ok, except_pure_eq_ok]
    exact ⟨fun ⟨_, k, hk, _⟩ => ⟨k, hk⟩, fun ⟨k, hk⟩ => ⟨_, k, hk, rfl⟩⟩
  constructor
  · rintro ⟨g, hbuild⟩
    have hbuilds := builds_of_build hbuild
    have hlabels := exists_mapM_eq_ok.1 ⟨_, hbuilds.labels⟩
    have hedges := exists_mapM_eq_ok.1 ⟨_, hbuilds.edges⟩
    exact ⟨fun e he => (hread e).1 (hlabels e he), fun e he => (hjoin e).1 (hedges e he),
      exists_readDeclared_iff.1 ⟨_, hbuilds.declared⟩⟩
  · rintro ⟨hlabels, hedges, hdeclared⟩
    obtain ⟨labels, hlabels⟩ := exists_mapM_eq_ok.2 fun e he => (hread e).2 (hlabels e he)
    obtain ⟨edges, hedges⟩ := exists_mapM_eq_ok.2 fun e he => (hjoin e).2 (hedges e he)
    obtain ⟨declared, hdeclared⟩ := exists_readDeclared_iff.2 hdeclared
    exact ⟨⟨_, labels, edges, declared⟩, build_of_builds ⟨hlabels, hedges, hdeclared, rfl⟩⟩

namespace Builds

theorem mem_nodes (hbuilds : p.Builds g) (n : Node) : n ∈ g.nodes ↔ p.Lists n := by
  have hnodup := Keyed.nodup_keys_ofList p.controllers
  unfold Graph.nodes Lists
  rw [hbuilds.controllers, List.flatMap_map]
  simp only [List.mem_flatMap, NodeSet.mem_distinct, Prod.exists, Keyed.get?_eq_some_iff hnodup]

theorem mem_labels (hbuilds : p.Builds g) (n : Node) (m : Marker) :
    (∃ ms, Keyed.get? g.labels n = some ms ∧ m ∈ ms) ↔ p.Labels n m := by
  have hread := Keyed.get?_of_mapM_eq_ok hbuilds.labels n
  unfold Labels
  generalize Keyed.get? (Keyed.ofList p.labels) n = given at hread
  generalize Keyed.get? g.labels n = kept at hread
  cases hread with
  | none => simp only [reduceCtorEq, false_and, exists_false]
  | some hms => simp only [Option.some.injEq, exists_eq_left', mem_of_mapM_eq_ok hms]

theorem carries_iff (hbuilds : p.Builds g) (m : Marker) (n : Node) :
    g.carries m n = true ↔ p.Labels n m := by
  rw [← hbuilds.mem_labels]
  unfold Graph.carries
  simp only [Option.any_eq_true, List.contains_iff_mem]

theorem mem_edges (hbuilds : p.Builds g) (e : Edge) : e ∈ g.edges ↔ p.Joins e := by
  obtain ⟨s, t, k⟩ := e
  unfold Joins
  rw [mem_of_mapM_eq_ok hbuilds.edges]
  simp only [except_bind_eq_ok, except_pure_eq_ok, Edge.mk.injEq, Prod.exists]
  constructor
  · rintro ⟨_, _, w, hw, _, hk, rfl, rfl, rfl⟩
    exact ⟨w, hw, hk⟩
  · rintro ⟨w, hw, hk⟩
    exact ⟨s, t, w, hw, k, hk, rfl, rfl, rfl⟩

theorem mem_attached (hbuilds : p.Builds g) (m : Marker) :
    m ∈ Graph.attached g.labels ↔ ∃ n, p.Labels n m := by
  -- each node has one entry, so an entry is what a look-up finds
  have hnodup : g.labels.keys.Nodup := by
    rw [Keyed.keys_of_mapM_eq_ok hbuilds.labels]
    exact Keyed.nodup_keys_ofList p.labels
  simp only [← hbuilds.mem_labels, Keyed.get?_eq_some_iff hnodup]
  unfold Graph.attached
  simp only [List.mem_flatMap, Prod.exists]

theorem declares_iff (hbuilds : p.Builds g) (m : Marker) :
    g.declares m = true ↔ p.Declares m := by
  have hdeclared := hbuilds.declared
  unfold readDeclared at hdeclared
  unfold Graph.declares Declares
  rw [List.contains_iff_mem]
  cases hgiven : p.declared with
  | none =>
    rw [hgiven] at hdeclared
    rw [← except_pure_eq_ok.1 hdeclared]
    exact hbuilds.mem_attached m
  | some vs =>
    rw [hgiven] at hdeclared
    exact mem_of_mapM_eq_ok hdeclared m

end Builds

theorem sameContent_of_builds (hp : p.Builds g) (hq : q.Builds h)
    (hnodes : ∀ n, n ∈ g.nodes ↔ n ∈ h.nodes) (hcarries : ∀ n m, g.carries m n = h.carries m n)
    (hedges : ∀ e, e ∈ g.edges ↔ e ∈ h.edges) (hdeclares : ∀ m, g.declares m = h.declares m) :
    p.SameContent q where
  lists := fun n => by rw [← hp.mem_nodes, ← hq.mem_nodes, hnodes]
  labels := fun n m => by rw [← hp.carries_iff, ← hq.carries_iff, hcarries]
  joins := fun e => by rw [← hp.mem_edges, ← hq.mem_edges, hedges]
  declares := fun m => by rw [← hp.declares_iff, ← hq.declares_iff, hdeclares]

/-- Graphs with the same content are alike on all markers. -/
theorem SameContent.alikeOn (hsame : p.SameContent q) (hp : p.Builds g) (hq : q.Builds h)
    (ms : List Marker) : g.AlikeOn h ms where
  edges := fun k s t => by rw [hp.mem_edges, hq.mem_edges, hsame.joins]
  nodes := fun n => by rw [hp.mem_nodes, hq.mem_nodes, hsame.lists]
  declares := fun m _ => by rw [Bool.eq_iff_iff, hp.declares_iff, hq.declares_iff, hsame.declares]
  carries := fun m _ n _ => by
    rw [Bool.eq_iff_iff, hp.carries_iff, hq.carries_iff, hsame.labels]

end GraphParts

end InfoFlow
