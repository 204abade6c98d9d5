import InfoFlow.Proofs.Graph.Reachability
import Mathlib.Data.List.Perm.Subperm
/-!
# Searching around blocked nodes

The search around blocked nodes is here also a loop without a bound on its rounds. It marks nodes
when they are queued, and it stops at the first edge into its target, where the closure marks nodes
when they are visited and goes on to the end. Two invariants settle the loop. Its measure, the
nodes that have not been seen and the nodes in the queue, goes down by one in every round, so it
comes to an end. What has been seen is closed under free successors but for what is queued, so the
answer is right. It is also what the closure answers about the graph without the blocked nodes.
-/

namespace InfoFlow.Graph

open Relation

variable {g : Graph} {blocked : Node → Bool} {s t n : Node} {seen queue : List Node} {v : Bool}

/-! ## The graph without blocked nodes -/

/-- The graph that keeps, of all edges, the data edges with neither end blocked. -/
def around (g : Graph) (blocked : Node → Bool) : Graph :=
  { g with edges := g.edges.filter fun e =>
      e.kind = .data && !blocked e.source && !blocked e.target }

theorem mem_edges_around {a b : Node} :
    ⟨a, b, .data⟩ ∈ (g.around blocked).edges ↔
      ⟨a, b, .data⟩ ∈ g.edges ∧ blocked a = false ∧ blocked b = false := by
  simp [around]

/-- Its walks are the walks that meet no blocked node, their ends included. -/
theorem walk_around_iff {ms : List Node} :
    (g.around blocked).Walk .data s ms t ↔
      g.Walk .data s ms t ∧ ∀ m ∈ s :: (ms ++ [t]), blocked m = false := by
  constructor
  · intro w
    -- every edge of the walk was kept, so both its ends are free
    induction w with
    | edge h =>
      obtain ⟨h, hs, ht⟩ := mem_edges_around.1 h
      refine ⟨.edge h, ?_⟩
      simp [hs, ht]
    | step h _ ih =>
      obtain ⟨h, hs, -⟩ := mem_edges_around.1 h
      refine ⟨.step h ih.1, ?_⟩
      rw [List.forall_mem_cons]
      exact ⟨hs, ih.2⟩
  · rintro ⟨w, hfree⟩
    induction w with
    | edge h =>
      rw [List.nil_append, List.forall_mem_cons, List.forall_mem_singleton] at hfree
      exact .edge (mem_edges_around.2 ⟨h, hfree⟩)
    | step h _ ih =>
      rw [List.forall_mem_cons] at hfree
      have hnext := hfree.2 _ List.mem_cons_self
      exact .step (mem_edges_around.2 ⟨h, hfree.1, hnext⟩) (ih hfree.2)

theorem flowsAvoiding_iff_around :
    g.flowsAvoiding s t blocked = true ↔ (g.around blocked).flowsTo s t .data = true := by
  rw [flowsAvoiding_iff, flowsTo_iff_reaches]
  simp only [Reaches, walk_around_iff]

theorem reaches_around_none :
    (g.around fun _ => false).Reaches .data s t ↔ g.Reaches .data s t := by
  simp only [Reaches, walk_around_iff, implies_true, and_true]

/-! ## The loop -/

/-- The free successors of a node that have not been seen. -/
def fresh (g : Graph) (blocked : Node → Bool) (seen : List Node) (n : Node) : List Node :=
  (g.successors n .data).nodes.filter fun m => !blocked m && !decide (m ∈ seen)

theorem mem_fresh {m : Node} :
    m ∈ g.fresh blocked seen n ↔
      m ∈ g.successors n .data ∧ blocked m = false ∧ m ∉ seen := by
  simp [fresh, NodeSet.mem_nodes]

/-- A run of the search for a target from a queue on, and its answer. A round takes a node off the
queue: an edge from it into the target ends the run, and without one its fresh successors are
marked as seen and queued. -/
inductive Search (g : Graph) (blocked : Node → Bool) (t : Node) :
    List Node → List Node → Bool → Prop where
  | spent {seen : List Node} : Search g blocked t seen [] false
  | found {seen queue : List Node} {n : Node} (h : t ∈ g.successors n .data) :
    Search g blocked t seen (n :: queue) true
  | round {seen queue : List Node} {n : Node} {v : Bool} (h : t ∉ g.successors n .data)
    (next : Search g blocked t (seen ++ g.fresh blocked seen n)
      (queue ++ g.fresh blocked seen n) v) :
    Search g blocked t seen (n :: queue) v

/-! ## The loop comes to an end -/

/-- The nodes that a data edge leads to and that have not been seen. -/
def unseen (g : Graph) (seen : List Node) : List Node :=
  ((g.arrows .data).map (·.2)).filter fun m => !decide (m ∈ seen)

theorem mem_unseen {m : Node} :
    m ∈ g.unseen seen ↔ (∃ a, ⟨a, m, .data⟩ ∈ g.edges) ∧ m ∉ seen := by
  simp [unseen]

theorem length_unseen_fresh (g : Graph) (blocked : Node → Bool) (seen : List Node) (n : Node) :
    (g.unseen (seen ++ g.fresh blocked seen n)).length + (g.fresh blocked seen n).length ≤
      (g.unseen seen).length := by
  -- the nodes that were unseen are those that stay so and the fresh ones, none of which comes twice
  have hrest : g.unseen (seen ++ g.fresh blocked seen n) =
      (g.unseen seen).filter fun m => !decide (m ∈ g.fresh blocked seen n) := by
    unfold unseen
    rw [List.filter_filter]
    refine List.filter_congr fun m _ => ?_
    simp only [List.mem_append, Bool.decide_or, Bool.not_or, Bool.and_comm]
  have hnodup : (g.fresh blocked seen n).Nodup :=
    (g.successors n .data).nodup.sublist List.filter_sublist
  have hsubset : g.fresh blocked seen n ⊆
      (g.unseen seen).filter fun m => decide (m ∈ g.fresh blocked seen n) := by
    intro m hm
    obtain ⟨hnext, -, hseen⟩ := mem_fresh.1 hm
    have hunseen : m ∈ g.unseen seen := mem_unseen.2 ⟨⟨n, mem_successors.1 hnext⟩, hseen⟩
    exact List.mem_filter.2 ⟨hunseen, decide_eq_true hm⟩
  have hle := (List.subperm_of_subset hnodup hsubset).length_le
  have hsplit := List.length_eq_length_filter_add (l := g.unseen seen)
    fun m => decide (m ∈ g.fresh blocked seen n)
  rw [hrest]
  omega

theorem exists_search_of_le {rounds : Nat}
    (hrounds : (g.unseen seen).length + queue.length ≤ rounds) :
    ∃ v, Search g blocked t seen queue v := by
  -- the bound is carried along instead of the measure, which a round can lower by more than one
  induction rounds generalizing seen queue with
  | zero =>
    obtain rfl : queue = [] := List.length_eq_zero_iff.1 (by omega)
    exact ⟨false, .spent⟩
  | succ rounds ih =>
    cases queue with
    | nil => exact ⟨false, .spent⟩
    | cons n queue =>
      by_cases h : t ∈ g.successors n .data
      · exact ⟨true, .found h⟩
      · -- one node leaves the queue, and each that enters it was unseen
        have hmarked := length_unseen_fresh g blocked seen n
        have hle : (g.unseen (seen ++ g.fresh blocked seen n)).length +
            (queue ++ g.fresh blocked seen n).length ≤ rounds := by
          rw [List.length_cons] at hrounds
          rw [List.length_append]
          omega
        obtain ⟨v, hv⟩ := ih hle
        exact ⟨v, .round h hv⟩

theorem exists_search (g : Graph) (blocked : Node → Bool) (t : Node) (seen queue : List Node) :
    ∃ v, Search g blocked t seen queue v := exists_search_of_le (Nat.le_refl _)

/-! ## The loop answers rightly -/

/-- Between two rounds what is queued has been seen, and a node that has been seen and is not queued
any more has no edge into the target and no free successor that has not been seen. -/
structure Explored (g : Graph) (blocked : Node → Bool) (t : Node) (seen queue : List Node) :
    Prop where
  queued : ∀ m ∈ queue, m ∈ seen
  done : ∀ m ∈ seen, m ∉ queue → t ∉ g.successors m .data ∧
    ∀ b ∈ g.successors m .data, blocked b = false → b ∈ seen

theorem Explored.round (h : g.Explored blocked t seen (n :: queue))
    (hn : t ∉ g.successors n .data) :
    g.Explored blocked t (seen ++ g.fresh blocked seen n) (queue ++ g.fresh blocked seen n) := by
  constructor
  · intro m hm
    rcases List.mem_append.1 hm with hm | hm
    · exact List.mem_append_left _ (h.queued m (List.mem_cons_of_mem n hm))
    · exact List.mem_append_right _ hm
  · intro m hm hqueue
    rw [List.mem_append, not_or] at hqueue
    have hseen : m ∈ seen := (List.mem_append.1 hm).resolve_right hqueue.2
    by_cases hmn : m = n
    · -- the node that was taken off the queue is done now, as its fresh successors are marked
      subst hmn
      refine ⟨hn, fun b hb hfree => ?_⟩
      by_cases hmem : b ∈ seen
      · exact List.mem_append_left _ hmem
      · exact List.mem_append_right _ (mem_fresh.2 ⟨hb, hfree, hmem⟩)
    · have hbefore : m ∉ n :: queue := by
        rw [List.mem_cons, not_or]
        exact ⟨hmn, hqueue.1⟩
      obtain ⟨ht, hnext⟩ := h.done m hseen hbefore
      exact ⟨ht, fun b hb hfree => List.mem_append_left _ (hnext b hb hfree)⟩

theorem Explored.mem_of_leads (h : g.Explored blocked t seen []) {a b : Node} (ha : a ∈ seen)
    (hab : Leads blocked (g.arrows .data) a b) : b ∈ seen := by
  -- with nothing queued, no free edge leads out of what has been seen
  induction hab with
  | refl => exact ha
  | @tail c d _ hcd ih =>
    have hedge : d ∈ g.successors c .data := mem_successors.2 (mem_arrows.1 hcd.1)
    exact (h.done c ih List.not_mem_nil).2 d hedge hcd.2

theorem Search.eq_true_iff (hsearch : g.Search blocked t seen queue v)
    (h : g.Explored blocked t seen queue) :
    v = true ↔ ∃ a ∈ seen, ∃ p, Leads blocked (g.arrows .data) a p ∧ (p, t) ∈ g.arrows .data := by
  induction hsearch with
  | spent =>
    -- wherever free edges lead has been seen and is done, so it has no edge into the target
    refine iff_of_false Bool.false_ne_true ?_
    rintro ⟨a, ha, p, hap, hpt⟩
    have hp := h.mem_of_leads ha hap
    exact (h.done p hp List.not_mem_nil).1 (mem_successors.2 (mem_arrows.1 hpt))
  | @found seen queue n hn =>
    refine iff_of_true rfl ⟨n, h.queued n List.mem_cons_self, n, ReflTransGen.refl, ?_⟩
    exact mem_arrows.2 (mem_successors.1 hn)
  | @round seen queue n v hn _ ih =>
    rw [ih (h.round hn)]
    constructor
    · rintro ⟨a, ha, p, hap, hpt⟩
      rcases List.mem_append.1 ha with ha | ha
      · exact ⟨a, ha, p, hap, hpt⟩
      · -- a fresh node is one free edge away from the node that was taken off the queue
        obtain ⟨hedge, hfree, -⟩ := mem_fresh.1 ha
        have hna : (n, a) ∈ g.arrows .data := mem_arrows.2 (mem_successors.1 hedge)
        exact ⟨n, h.queued n List.mem_cons_self, p, ReflTransGen.head ⟨hna, hfree⟩ hap, hpt⟩
    · rintro ⟨a, ha, hp⟩
      exact ⟨a, List.mem_append_left _ ha, hp⟩

theorem search_start_iff :
    g.Search blocked t [s] [s] v ↔
      v = arrives blocked t ((g.arrows .data).length + 1) (g.arrows .data) [s] := by
  have hstart : g.Explored blocked t [s] [s] := ⟨fun _ hm => hm, fun _ hm hnot => absurd hm hnot⟩
  have heq {w : Bool} (hw : g.Search blocked t [s] [s] w) :
      w = arrives blocked t ((g.arrows .data).length + 1) (g.arrows .data) [s] := by
    rw [Bool.eq_iff_iff, hw.eq_true_iff hstart,
      arrives_iff (show _ + [s].length ≤ _ + 1 from Nat.le_refl _)]
    simp only [List.mem_singleton, exists_eq_left]
  -- some answer is given, and any answer is this one
  refine ⟨heq, fun hv => ?_⟩
  obtain ⟨w, hw⟩ := exists_search g blocked t [s] [s]
  rw [hv, ← heq hw]
  exact hw

/-- The loop ends with one answer, which is the answer about two nodes that are not blocked; data
flows around the blocked nodes exactly if neither end is blocked and data flows in the graph without
them; and if nothing is blocked, flowing around is flowing. -/
theorem flowsAvoiding_eq_flowsTo_around (g : Graph) (s t : Node) (blocked : Node → Bool) :
    (∃ v, (∀ w, g.Search blocked t [s] [s] w ↔ w = v) ∧
      g.flowsAvoiding s t blocked = (!blocked s && !blocked t && v)) ∧
    (g.flowsAvoiding s t blocked = true ↔
      blocked s = false ∧ blocked t = false ∧ (g.around blocked).flowsTo s t .data = true) ∧
    g.flowsAvoiding s t (fun _ => false) = g.flowsTo s t .data := by
  refine ⟨⟨_, fun w => search_start_iff, rfl⟩, ?_, ?_⟩
  · rw [flowsAvoiding_iff_around]
    constructor
    · intro h
      obtain ⟨ms, w⟩ := flowsTo_iff_reaches.1 h
      have hfree := (walk_around_iff.1 w).2
      have ht : t ∈ s :: (ms ++ [t]) := List.mem_cons_of_mem s (by simp)
      exact ⟨hfree s List.mem_cons_self, hfree t ht, h⟩
    · exact fun h => h.2.2
  · rw [Bool.eq_iff_iff, flowsAvoiding_iff_around, flowsTo_iff_reaches, flowsTo_iff_reaches,
      reaches_around_none]

end InfoFlow.Graph
