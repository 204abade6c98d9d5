import InfoFlow.Proofs.Evaluation.Agreement
import InfoFlow.Proofs.Evaluation.Asking
/-!
# Markers that are declared afterwards

An undeclared marker that is no error stands for no node, even if it is among the labels of some
node. The graph can be changed so that this shows in it: all markers of a statement are declared,
and the labels that were not declared are taken off the nodes. There it makes no difference whether
unknown markers are errors.
-/

namespace InfoFlow

namespace Graph

/-- The graph with some more markers declared, and without the labels that were not declared. -/
def declaring (g : Graph) (ms : List Marker) : Graph := { g with
  labels := g.labels.map fun e => (e.1, e.2.filter g.declares)
  declared := ms ++ g.declared }

variable {g : Graph} {ms : List Marker} {m : Marker} {n : Node}

theorem declares_declaring (hm : m ∈ ms) : (g.declaring ms).declares m = true := by
  unfold declares
  rw [List.contains_iff_mem]
  exact List.mem_append_left _ hm

theorem carries_declaring :
    (g.declaring ms).carries m n = true ↔ g.declares m = true ∧ g.carries m n = true := by
  have hlabels : Keyed.get? (g.declaring ms).labels n =
      (Keyed.get? g.labels n).map (·.filter g.declares) := Keyed.get?_map _ _ _
  unfold carries
  rw [hlabels]
  cases Keyed.get? g.labels n with
  | none => simp
  | some ls => simp [and_comm]

/-- The nodes for which the markers stand are the same. -/
theorem marked_declaring (hm : m ∈ ms) : (g.declaring ms).marked m = g.marked m := by
  apply NodeSet.ext
  intro n
  rw [mem_marked, mem_marked]
  unfold Marked
  rw [carries_declaring, declares_declaring hm]
  constructor
  · exact fun ⟨_, hn, hdeclares, hcarries⟩ => ⟨hdeclares, hn, hcarries⟩
  · exact fun ⟨hdeclares, hn, hcarries⟩ => ⟨rfl, hn, hdeclares, hcarries⟩

end Graph

namespace Statement

variable {s : Statement} {g h : Graph} {exhaustive : Bool}

/-! ## Graphs on which an evaluation comes to the same -/

theorem triggering_eq_of_sameEdges (hedges : g.SameEdges h s.kind) (destinations : NodeSet)
    (sources : List Node) :
    s.triggering g destinations sources = s.triggering h destinations sources := by
  unfold triggering
  simp only [premise_eq_of_sameEdges hedges]

/-- The two graphs answer whatever the obligation asks with the same results. -/
def SameResults (s : Statement) (g h : Graph) : Prop :=
  s.obligation.RelatedOn (fun _ x y => x.result = y.result) g h

theorem checkSource_sameOutcome (hsame : s.SameResults g h) (source : Node) (premise : NodeSet)
    (t : Tally) : (s.checkSource g exhaustive source premise t).SameOutcome
      (s.checkSource h exhaustive source premise t) := by
  unfold SameResults Obligation.RelatedOn at hsame
  rw [checkSource_eq, checkSource_eq]
  cases ho : s.obligation with
  | pair f =>
    rw [ho] at hsame
    exact s.checkPairs_sameOutcome exhaustive source (fun d _ => hsame source d) t
  | set f =>
    rw [ho] at hsame
    exact s.checkOnce_sameOutcome exhaustive source (hsame source premise) t

theorem checkAll_result_eq (hedges : g.SameEdges h s.kind) (hsame : s.SameResults g h)
    (destinations : NodeSet) (sources : List Node) :
    (s.checkAll g exhaustive destinations sources).result =
      (s.checkAll h exhaustive destinations sources).result := by
  rw [← checkAllWith_checkSource, ← checkAllWith_checkSource]
  unfold checkAllWith
  rw [triggering_eq_of_sameEdges hedges]
  apply conclude_result
  apply checkEach_sameOutcome
  intro a _ t
  rw [premise_eq_of_sameEdges hedges]
  exact checkSource_sameOutcome hsame a _ t

theorem judge_result_eq (hedges : g.SameEdges h s.kind) (hsame : s.SameResults g h)
    (hsource : g.marked s.source = h.marked s.source)
    (hdestination : g.marked s.destination = h.marked s.destination) :
    (s.judge g exhaustive).result = (s.judge h exhaustive).result := by
  unfold judge
  rw [← hsource, ← hdestination, ← noFlows_eq_of_sameEdges hedges]
  cases s.noFlows g exhaustive (g.marked s.destination) (g.marked s.source).nodes with
  | nil => exact checkAll_result_eq hedges hsame _ _
  | cons v vs => rfl

/-! ## Declared markers -/

theorem checkMarkers_of_declaresAll {ms : List Marker} (hdeclared : g.DeclaresAll ms)
    (unknown : UnknownMarkers) : checkMarkers g unknown ms = pure () := by
  induction ms with
  | nil => rfl
  | cons m ms ih =>
    have hrest : g.DeclaresAll ms := fun n hn => hdeclared n (List.mem_cons_of_mem m hn)
    rw [checkMarkers, ih hrest]
    unfold Graph.checkDeclared
    rw [if_pos (hdeclared m List.mem_cons_self), pure_bind]

/-- If all markers of a statement are declared, looking them up is the same whether or not unknown
ones are errors. -/
theorem lookUp_of_declaresAll (hdeclared : g.DeclaresAll s.markers) (unknown : UnknownMarkers) :
    s.lookUp g unknown = pure (g.carriers s.source, g.carriers s.destination) := by
  have hlookups := declaresAll_lookups_iff.2 hdeclared
  have hsource := hlookups.right s.source List.mem_cons_self
  have hdestination := hlookups.right s.destination (List.mem_cons_of_mem _ List.mem_cons_self)
  unfold lookUp
  rw [checkMarkers_of_declaresAll hlookups.left, Graph.resolve_of_declares hsource,
    Graph.resolve_of_declares hdestination]
  simp only [pure_bind]

/-- To take unknown markers for no node comes to the same as declaring the markers of the statement
on a graph without the labels that were not declared, where unknown markers may be errors. If all
markers of the statement are declared, the two ways to treat unknown ones take the same course. -/
theorem evaluate_empty (s : Statement) (g : Graph) (exhaustive : Bool)
    (hbuiltIn : s.obligation.IsBuiltIn) :
    (s.evaluate g exhaustive .empty).result =
        (s.evaluate (g.declaring s.markers) exhaustive .error).result ∧
      (g.DeclaresAll s.markers →
        s.evaluate g exhaustive .empty = s.evaluate g exhaustive .error) := by
  constructor
  · have hmarked (m : Marker) (hm : m ∈ s.markers) :
        g.marked m = (g.declaring s.markers).marked m := (Graph.marked_declaring hm).symm
    have hedges (k : EdgeKind) : g.SameEdges (g.declaring s.markers) k := fun _ _ => Iff.rfl
    have hsame : s.SameResults g (g.declaring s.markers) :=
      Obligation.relatedOn_result hedges (fun m hm => hmarked m
        (List.mem_cons_of_mem _ (List.mem_cons_of_mem _ hm))) hbuiltIn
    have hknown : firstUnknown (g.declaring s.markers) .error s.lookups = none :=
      firstUnknown_lookups_eq_none_iff.2 fun _ m hm => Graph.declares_declaring hm
    rw [evaluate_result, evaluate_result, firstUnknown_empty, hknown]
    exact judge_result_eq (hedges s.kind) hsame (hmarked s.source List.mem_cons_self)
      (hmarked s.destination (List.mem_cons_of_mem _ List.mem_cons_self))
  · intro hdeclared
    rw [evaluate_eq_lookUp, evaluate_eq_lookUp, lookUp_of_declaresAll hdeclared,
      lookUp_of_declaresAll hdeclared]

/-- The ring, whose nodes also control each other and carry markers that are not declared. -/
def strayGraph : Graph := { ringGraph with
  labels := [(.int 0, [audit, peer]), (.int 1, [review, peer, audit]), (.int 2, [peer])]
  edges := ringGraph.edges ++ [⟨.int 0, .int 1, .control⟩, ⟨.int 1, .int 0, .control⟩] }

/-- To declare the markers without taking the labels off would make the statement hold. -/
theorem gatedStatement_empty :
    gatedStatement.obligation.IsBuiltIn ∧
      (gatedStatement.evaluate { strayGraph with declared := gatedStatement.markers } false
        .error).result = .ok ⟨"gated", []⟩ ∧
      (gatedStatement.evaluate strayGraph false .empty).result =
        .ok ⟨"gated", [gatedStatement.unmet (.int 0) (some (.int 0))]⟩ ∧
      (gatedStatement.evaluate strayGraph false .empty).result =
        (gatedStatement.evaluate (strayGraph.declaring gatedStatement.markers) false
          .error).result ∧
      auditedGraph.DeclaresAll gatedStatement.markers ∧
      gatedStatement.evaluate auditedGraph true .empty =
        gatedStatement.evaluate auditedGraph true .error := by
  have hbuiltIn : gatedStatement.obligation.IsBuiltIn := by decide
  have hdeclared : auditedGraph.DeclaresAll gatedStatement.markers := by
    unfold Graph.DeclaresAll
    decide
  obtain ⟨hempty, -⟩ := evaluate_empty gatedStatement strayGraph false hbuiltIn
  obtain ⟨-, hsame⟩ := evaluate_empty gatedStatement auditedGraph true hbuiltIn
  exact ⟨hbuiltIn, rfl, rfl, hempty, hdeclared, hsame hdeclared⟩

end Statement

end InfoFlow
