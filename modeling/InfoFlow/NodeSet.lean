import InfoFlow.Node
/-!
# Sets of nodes

A set is listed without repetition and in the order of the quoted forms, so listing its nodes in
that order again changes nothing. Two sets are the same when each holds the nodes of the other.
-/

namespace InfoFlow

/-- A finite set of nodes. -/
structure NodeSet where
  nodes : List Node
  nodup : nodes.Nodup
  ascending : Ordered.Ascending Node.quoted nodes

namespace NodeSet

instance : Membership Node NodeSet := ⟨fun s n => n ∈ s.nodes⟩

theorem mem_nodes {s : NodeSet} {n : Node} : n ∈ s.nodes ↔ n ∈ s := Iff.rfl

@[simp] theorem ordered_nodes (s : NodeSet) : Node.ordered s.nodes = s.nodes :=
  Ordered.sortBy_eq_self s.ascending

instance (n : Node) (s : NodeSet) : Decidable (n ∈ s) := inferInstanceAs (Decidable (n ∈ s.nodes))

/-! ## Making sets -/

/-- The items of a list, each at its first place. -/
def distinct : List Node → List Node
  | [] => []
  | n :: ns => n :: (distinct ns).filter (· ≠ n)

theorem mem_distinct {n : Node} {ns : List Node} : n ∈ distinct ns ↔ n ∈ ns := by
  induction ns with
  | nil => rfl
  | cons m ns ih =>
    by_cases h : n = m <;> simp [distinct, h, ih]

theorem nodup_distinct (ns : List Node) : (distinct ns).Nodup := by
  induction ns with
  | nil => exact .nil
  | cons m ns ih =>
    rw [distinct, List.nodup_cons]
    exact ⟨by simp, ih.sublist List.filter_sublist⟩

/-- The set of the items of a list. -/
def ofList (ns : List Node) : NodeSet where
  nodes := Node.ordered (distinct ns)
  nodup := (Ordered.sortBy_perm _ _).nodup_iff.2 (nodup_distinct ns)
  ascending := Ordered.ascending_sortBy _ _

@[simp] theorem mem_ofList {n : Node} {ns : List Node} : n ∈ ofList ns ↔ n ∈ ns :=
  Ordered.mem_sortBy.trans mem_distinct

/-- The set without nodes. -/
def empty : NodeSet := ⟨[], .nil, .nil⟩

@[simp] theorem not_mem_empty (n : Node) : n ∉ empty := List.not_mem_nil

/-- The set of one node. -/
def singleton (n : Node) : NodeSet := ⟨[n], by simp, List.pairwise_singleton _ _⟩

@[simp] theorem mem_singleton {n m : Node} : n ∈ singleton m ↔ n = m := List.mem_singleton

/-- The nodes that pass a test. -/
def filter (p : Node → Bool) (s : NodeSet) : NodeSet :=
  ⟨s.nodes.filter p, s.nodup.sublist List.filter_sublist, List.Pairwise.filter p s.ascending⟩

@[simp] theorem mem_filter {n : Node} {p : Node → Bool} {s : NodeSet} :
    n ∈ s.filter p ↔ n ∈ s ∧ p n = true := List.mem_filter

/-! ## Asking sets -/

/-- Whether a set has no nodes. -/
def isEmpty (s : NodeSet) : Bool := s.nodes.isEmpty

/-- The number of nodes. -/
def size (s : NodeSet) : Nat := s.nodes.length

/-- Whether two sets have the same nodes. -/
def same (s t : NodeSet) : Bool :=
  s.nodes.all (t.nodes.contains ·) && t.nodes.all (s.nodes.contains ·)

theorem same_iff {s t : NodeSet} : s.same t = true ↔ ∀ n, n ∈ s ↔ n ∈ t := by
  simp only [same, Bool.and_eq_true, List.all_eq_true, List.contains_iff_mem, mem_nodes]
  constructor
  · exact fun ⟨h, k⟩ n => ⟨h n, k n⟩
  · exact fun h => ⟨fun n hn => (h n).1 hn, fun n hn => (h n).2 hn⟩

end NodeSet

end InfoFlow
