import InfoFlow.Proofs.Graph.Reachability
import InfoFlow.Proofs.Node.Quoted
import Mathlib.Data.List.Cycle
import Mathlib.Data.List.Perm.Subperm
/-!
# Collecting what a node reaches

The closure is here also a loop without a bound on its rounds and without an order in which the
successors of a node are queued. A node may wait in the queue many times, as it is looked up among
the seen ones only when it is taken off. What goes down in every round is the number of waiting
nodes and of the arrows that leave unseen nodes; and what has been seen or waits is reached, and
holds the successors of the start and of all that has been seen. So the loop comes to an end,
whatever the order, and always with the ends of the walks. A node is among them for itself exactly
if a cycle goes through it.
-/

namespace InfoFlow.Graph

open Relation

variable {g : Graph} {k : EdgeKind} {n m s t : Node} {ms ns : List Node}

/-! ## The loop -/

/-- Where the loop is: the nodes that have been seen, and those that wait in the queue. -/
structure Sweep where
  seen : List Node
  queue : List Node

/-- A round of the loop. The first waiting node is passed over if it has been seen. If not, it is
marked as seen, and its successors wait at the end of the queue, in any order. -/
inductive Round (g : Graph) (k : EdgeKind) : Sweep → Sweep → Prop where
  | pass {seen queue : List Node} {m : Node} (h : m ∈ seen) :
    Round g k ⟨seen, m :: queue⟩ ⟨seen, queue⟩
  | mark {seen queue row : List Node} {m : Node} (h : m ∉ seen)
    (hrow : row.Perm (g.successors m k).nodes) :
    Round g k ⟨seen, m :: queue⟩ ⟨m :: seen, queue ++ row⟩

/-- A run of the loop for a node, from its successors in any order on until no round is left, comes
to a set. -/
def Collects (g : Graph) (k : EdgeKind) (n : Node) (s : NodeSet) : Prop :=
  ∃ row last, row.Perm (g.successors n k).nodes ∧ ReflTransGen (g.Round k) ⟨[], row⟩ last ∧
    (∀ next, ¬g.Round k last next) ∧ s = NodeSet.ofList last.seen

variable {a b : Sweep}

theorem exists_round (h : a.queue ≠ []) : ∃ b, g.Round k a b := by
  obtain ⟨seen, queue⟩ := a
  cases queue with
  | nil => exact absurd rfl h
  | cons m queue =>
    by_cases hm : m ∈ seen
    · exact ⟨_, .pass hm⟩
    · exact ⟨_, .mark hm (.refl _)⟩

/-! ## The loop comes to an end -/

/-- The number of the arrows that leave unseen nodes and of the nodes that wait. -/
def left (g : Graph) (k : EdgeKind) (a : Sweep) : Nat :=
  ((g.arrows k).filter (·.1 ∉ a.seen)).length + a.queue.length

theorem length_successors_le (g : Graph) (n : Node) (k : EdgeKind) :
    (g.successors n k).nodes.length ≤ (heads (g.arrows k) n).length := by
  have hsubset : (g.successors n k).nodes ⊆ heads (g.arrows k) n :=
    fun _ ht => NodeSet.mem_ofList.1 ht
  exact (List.subperm_of_subset (g.successors n k).nodup hsubset).length_le

theorem left_lt_of_round (h : g.Round k a b) : g.left k b < g.left k a := by
  cases h with
  | pass => exact Nat.lt_succ_self _
  | @mark seen queue row m hm hrow =>
    -- the arrows of the marked node leave an unseen node no more, and its successors are no more
    have hunseen : (g.arrows k).filter (·.1 ∉ m :: seen) =
        ((g.arrows k).filter (·.1 ∉ seen)).filter (·.1 ≠ m) := by
      rw [List.filter_filter]
      refine List.filter_congr fun e _ => ?_
      simp only [List.mem_cons, not_or, Bool.decide_and]
    have hheads : heads ((g.arrows k).filter (·.1 ∉ seen)) m = heads (g.arrows k) m := by
      unfold heads
      rw [List.filter_filter]
      congr 1
      refine List.filter_congr fun e _ => ?_
      by_cases he : e.1 = m
      · simp [he, hm]
      · simp [he]
    have hsplit := length_without_add_length_heads ((g.arrows k).filter (·.1 ∉ seen)) m
    have hle := length_successors_le g m k
    have hlength := hrow.length_eq
    rw [hheads] at hsplit
    unfold left
    simp only [hunseen, List.length_append, List.length_cons]
    omega

/-- No run of the loop goes on for ever. -/
theorem wellFounded_round (g : Graph) (k : EdgeKind) : WellFounded fun b a => g.Round k a b :=
  Subrelation.wf left_lt_of_round (measure (g.left k)).wf

theorem exists_last (g : Graph) (k : EdgeKind) (a : Sweep) :
    ∃ last, ReflTransGen (g.Round k) a last ∧ ∀ next, ¬g.Round k last next := by
  induction a using (wellFounded_round g k).induction with
  | h a ih =>
    by_cases hround : ∃ b, g.Round k a b
    · obtain ⟨b, hb⟩ := hround
      obtain ⟨last, hlast, hend⟩ := ih b hb
      exact ⟨last, ReflTransGen.head hb hlast, hend⟩
    · exact ⟨a, ReflTransGen.refl, not_exists.1 hround⟩

/-! ## What the loop collects -/

/-- Between two rounds, the start reaches what has been seen and what waits, and the successors of
the start and of what has been seen are among these. -/
structure Swept (g : Graph) (k : EdgeKind) (n : Node) (a : Sweep) : Prop where
  reached : ∀ t ∈ a.seen ++ a.queue, g.Reaches k n t
  closed : ∀ m ∈ n :: a.seen, ∀ t ∈ g.successors m k, t ∈ a.seen ++ a.queue

theorem swept_start {row : List Node} (hrow : row.Perm (g.successors n k).nodes) :
    g.Swept k n ⟨[], row⟩ := by
  constructor
  · intro t ht
    exact ⟨[], .edge (mem_successors.1 (hrow.mem_iff.1 ht))⟩
  · intro m hm t ht
    obtain rfl := List.mem_singleton.1 hm
    exact hrow.mem_iff.2 ht

theorem Swept.round (h : g.Swept k n a) (hround : g.Round k a b) : g.Swept k n b := by
  obtain ⟨hreached, hclosed⟩ := h
  cases hround with
  | @pass seen queue m hm =>
    -- the node that is passed over is among the seen ones, so nothing is lost
    have hsame {t : Node} : t ∈ seen ++ m :: queue ↔ t ∈ seen ++ queue := by
      simp only [List.mem_append, List.mem_cons]
      constructor
      · rintro (ht | rfl | ht)
        · exact .inl ht
        · exact .inl hm
        · exact .inr ht
      · rintro (ht | ht)
        · exact .inl ht
        · exact .inr (.inr ht)
    exact ⟨fun t ht => hreached t (hsame.2 ht), fun u hu t ht => hsame.1 (hclosed u hu t ht)⟩
  | @mark seen queue row m _ hrow =>
    have hadded {t : Node} :
        t ∈ (m :: seen) ++ (queue ++ row) ↔ t ∈ seen ++ m :: queue ∨ t ∈ g.successors m k := by
      rw [← NodeSet.mem_nodes, ← hrow.mem_iff]
      simp only [List.mem_append, List.mem_cons]
      tauto
    constructor
    · intro t ht
      rcases hadded.1 ht with ht | ht
      · exact hreached t ht
      · have hnm : g.Reaches k n m := hreached m (List.mem_append_right seen List.mem_cons_self)
        exact hnm.trans ⟨[], .edge (mem_successors.1 ht)⟩
    · intro u hu t ht
      rw [hadded]
      by_cases hum : u = m
      · exact .inr (hum ▸ ht)
      · have hu : u ∈ n :: seen := by
          simp only [List.mem_cons, hum, false_or] at hu
          exact List.mem_cons.2 hu
        exact .inl (hclosed u hu t ht)

theorem Swept.run (h : g.Swept k n a) (hrun : ReflTransGen (g.Round k) a b) : g.Swept k n b := by
  induction hrun with
  | refl => exact h
  | tail _ hround ih => exact ih.round hround

theorem Swept.mem_seen_iff {seen : List Node} (h : g.Swept k n ⟨seen, []⟩) :
    t ∈ seen ↔ g.Reaches k n t := by
  obtain ⟨hreached, hclosed⟩ := h
  rw [List.append_nil] at hreached hclosed
  refine ⟨hreached t, fun ⟨ms, w⟩ => ?_⟩
  -- along a walk, each node is a successor of the start or of a node that has been seen
  have hall {u v : Node} {ls : List Node} (w : g.Walk k u ls v) (hu : u ∈ n :: seen) :
      v ∈ seen := by
    induction w with
    | edge h => exact hclosed _ hu _ (mem_successors.2 h)
    | step h _ ih => exact ih (List.mem_cons_of_mem n (hclosed _ hu _ (mem_successors.2 h)))
  exact hall w List.mem_cons_self

theorem collects_iff {s : NodeSet} : g.Collects k n s ↔ s = g.influencees n k := by
  have hends {row : List Node} {last : Sweep} (hrow : row.Perm (g.successors n k).nodes)
      (hrun : ReflTransGen (g.Round k) ⟨[], row⟩ last) (hend : ∀ next, ¬g.Round k last next) :
      NodeSet.ofList last.seen = g.influencees n k := by
    obtain ⟨seen, queue⟩ := last
    obtain rfl : queue = [] := by
      by_contra hqueue
      obtain ⟨next, hnext⟩ : ∃ next, g.Round k ⟨seen, queue⟩ next := exists_round hqueue
      exact hend next hnext
    refine NodeSet.ext fun t => ?_
    rw [NodeSet.mem_ofList, mem_influencees, ((swept_start hrow).run hrun).mem_seen_iff]
  constructor
  · rintro ⟨row, last, hrow, hrun, hend, rfl⟩
    exact hends hrow hrun hend
  · rintro rfl
    obtain ⟨last, hrun, hend⟩ := exists_last g k ⟨[], (g.successors n k).nodes⟩
    exact ⟨_, last, .refl _, hrun, hend, (hends (.refl _) hrun hend).symm⟩

/-! ## Cycles -/

/-- An edge of a kind leads from a node to a node. -/
def Joins (g : Graph) (k : EdgeKind) (s t : Node) : Prop := ⟨s, t, k⟩ ∈ g.edges

theorem walk_iff_isChain : g.Walk k s ms t ↔ List.IsChain (g.Joins k) (s :: (ms ++ [t])) := by
  constructor
  · intro w
    induction w with
    | edge h => exact List.isChain_pair.2 h
    | step h _ ih => exact List.isChain_cons_cons.2 ⟨h, ih⟩
  · intro h
    induction ms generalizing s with
    | nil => exact .edge (List.isChain_pair.1 h)
    | cons m ms ih =>
      obtain ⟨hedge, hrest⟩ := List.isChain_cons_cons.1 h
      exact .step hedge (ih hrest)

theorem Walk.after (w : g.Walk k s (ms ++ n :: ns) t) : g.Walk k n ns t := by
  rw [walk_iff_isChain] at w ⊢
  rw [List.append_assoc, ← List.cons_append] at w
  exact w.right_of_append

/-- A walk that comes back to a node may leave out what lies between. -/
theorem Walk.exists_nodup (w : g.Walk k s ms t) : ∃ ns, g.Walk k s ns t ∧ (s :: ns).Nodup := by
  induction w with
  | edge h => exact ⟨[], .edge h, List.nodup_singleton _⟩
  | @step s m t _ h _ ih =>
    obtain ⟨ns, w, hns⟩ := ih
    have hstep : g.Walk k s (m :: ns) t := .step h w
    by_cases hs : s ∈ m :: ns
    · -- the walk starts again where it is back
      obtain ⟨front, back, heq⟩ := List.append_of_mem hs
      rw [heq] at hstep hns
      exact ⟨back, hstep.after, (List.nodup_append.1 hns).2.1⟩
    · exact ⟨m :: ns, hstep, List.nodup_cons.2 ⟨hs, hns⟩⟩

theorem reaches_self_iff :
    g.Reaches k n n ↔ ∃ c : Cycle Node, c.Nodup ∧ c.Chain (g.Joins k) ∧ n ∈ c := by
  constructor
  · rintro ⟨_, w⟩
    obtain ⟨ns, w, hns⟩ := w.exists_nodup
    refine ⟨↑(n :: ns), Cycle.nodup_coe_iff.2 hns, ?_, Cycle.mem_coe_iff.2 List.mem_cons_self⟩
    rw [Cycle.chain_coe_cons]
    exact walk_iff_isChain.1 w
  · rintro ⟨c, -, hchain, hn⟩
    induction c using Quotient.inductionOn with
    | h l =>
      -- the cycle may be read from the node on
      obtain ⟨front, back, rfl⟩ := List.append_of_mem (Cycle.mem_coe_iff.1 hn)
      have hturn : ((front ++ n :: back : List Node) : Cycle Node) = ↑(n :: (back ++ front)) :=
        Cycle.coe_eq_coe.2 List.isRotated_append
      have hchain : Cycle.Chain (g.Joins k) ↑(front ++ n :: back) := hchain
      rw [hturn, Cycle.chain_coe_cons] at hchain
      exact ⟨back ++ front, walk_iff_isChain.2 hchain⟩

/-- The loop comes to an end, in whatever order nodes are queued, and always with one set; this is
the closure of the node and holds exactly the ends of its walks, the node itself exactly if a cycle
goes through it. -/
theorem influencees_collected (g : Graph) (n : Node) (k : EdgeKind) :
    (WellFounded fun b a => g.Round k a b) ∧
    (∀ s, g.Collects k n s ↔ s = g.influencees n k) ∧
    (∀ t, t ∈ g.influencees n k ↔ ∃ ms, g.Walk k n ms t) ∧
    (n ∈ g.influencees n k ↔ ∃ c : Cycle Node, c.Nodup ∧ c.Chain (g.Joins k) ∧ n ∈ c) := by
  refine ⟨wellFounded_round g k, fun _ => collects_iff, fun _ => mem_influencees, ?_⟩
  rw [mem_influencees, reaches_self_iff]

end InfoFlow.Graph
