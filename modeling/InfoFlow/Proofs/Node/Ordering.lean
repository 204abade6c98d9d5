import InfoFlow.Proofs.Node.Quoted
/-!
# The order of nodes

Messages list nodes, and checks visit them, in the order of their quoted forms. As no two nodes have
one quoted form, nothing about this order is left to how the nodes were listed before: a row has one
ascending permutation, and whatever sorts it comes to that one.
-/

namespace InfoFlow.Node

variable {n m : Node} {ns ms : List Node}

theorem quoted_inj : n.quoted = m.quoted ↔ n = m :=
  ⟨quoted_injective, congrArg quoted⟩

theorem not_quoted_lt_iff : ¬m.quoted < n.quoted ↔ n.quoted < m.quoted ∨ n = m := by
  constructor
  · intro h
    by_cases hlt : n.quoted < m.quoted
    · exact .inl hlt
    · exact .inr (eq_of_not_lt h hlt)
  · rintro (h | rfl)
    · exact String.lt_asymm h
    · exact String.lt_irrefl _

theorem ascending_iff :
    Ordered.Ascending quoted ns ↔ ns.Pairwise fun n m => n.quoted < m.quoted ∨ n = m := by
  unfold Ordered.Ascending
  simp only [not_quoted_lt_iff]

theorem ordered_perm (ns : List Node) : (ordered ns).Perm ns := Ordered.sortBy_perm quoted ns

theorem ascending_ordered (ns : List Node) : Ordered.Ascending quoted (ordered ns) :=
  Ordered.ascending_sortBy quoted ns

/-- Any row that sorts some nodes is what sorting them gives. -/
theorem eq_ordered_iff : ms = ordered ns ↔ ms.Perm ns ∧ Ordered.Ascending quoted ms := by
  constructor
  · rintro rfl
    exact ⟨ordered_perm ns, ascending_ordered ns⟩
  · rintro ⟨hperm, hms⟩
    exact eq_of_perm_of_ascending (hperm.trans (ordered_perm ns).symm) hms (ascending_ordered ns)

theorem ordered_eq_iff_perm : ordered ms = ordered ns ↔ ms.Perm ns := by
  rw [eq_ordered_iff, and_iff_left (ascending_ordered ms)]
  exact ⟨(ordered_perm ms).symm.trans, (ordered_perm ms).trans⟩

theorem ordered_eq_nodes_iff {s : NodeSet} : ordered ns = s.nodes ↔ ns.Perm s.nodes := by
  have hs : s.nodes = ordered s.nodes := eq_ordered_iff.2 ⟨.refl _, s.ascending⟩
  rw [hs, ordered_eq_iff_perm, ← hs]

/-- A quoted form belongs to one node. So of all rows exactly one is a permutation of some nodes and
lists them by their quoted forms, where those that are not the same are never tied; listed in
another way, the nodes are brought into the same order; and this is the order in which a set holds
its nodes. -/
theorem ordered_unique :
    (∀ n m : Node, n.quoted = m.quoted ↔ n = m) ∧
    (∀ ns ms, ms = ordered ns ↔
      ms.Perm ns ∧ ms.Pairwise fun n m => n.quoted < m.quoted ∨ n = m) ∧
    (∀ ns ms, ordered ms = ordered ns ↔ ms.Perm ns) ∧
    ∀ (s : NodeSet) ns, ordered ns = s.nodes ↔ ns.Perm s.nodes := by
  refine ⟨fun _ _ => quoted_inj, fun ns ms => ?_, fun _ _ => ordered_eq_iff_perm,
    fun _ _ => ordered_eq_nodes_iff⟩
  rw [eq_ordered_iff, ascending_iff]

/-- A number, its numeral, and a text that looks like a tuple of them are three nodes. -/
example : ordered [.tuple [.int 1], .text "1", .text "(1,)", .int 1] =
    [.text "(1,)", .text "1", .tuple [.int 1], .int 1] := by decide +kernel

end InfoFlow.Node
