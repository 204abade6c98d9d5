/-!
# Sorting by a key

A list sorted by a text that each item shows. Items with equal keys keep their order; the sorted
list is a permutation of the list, and its keys do not descend.
-/

namespace InfoFlow.Ordered

variable {α : Type}

/-- Puts an item in front of the first one whose key is not less. -/
def insertBy (key : α → String) (a : α) : List α → List α
  | [] => [a]
  | b :: l => if key b < key a then b :: insertBy key a l else a :: b :: l

/-- Sorts by a key. -/
def sortBy (key : α → String) (l : List α) : List α := l.foldr (insertBy key) []

theorem insertBy_perm (key : α → String) (a : α) (l : List α) :
    (insertBy key a l).Perm (a :: l) := by
  induction l with
  | nil => exact .refl _
  | cons b l ih =>
    simp only [insertBy]
    split
    · exact (ih.cons b).trans (.swap a b l)
    · exact .refl _

/-- Nothing is lost and nothing added. -/
theorem sortBy_perm (key : α → String) (l : List α) : (sortBy key l).Perm l := by
  induction l with
  | nil => exact .refl _
  | cons a l ih => exact (insertBy_perm key a _).trans (ih.cons a)

@[simp] theorem mem_sortBy {key : α → String} {a : α} {l : List α} :
    a ∈ sortBy key l ↔ a ∈ l := (sortBy_perm key l).mem_iff

/-- The keys of a list do not descend. -/
def Ascending (key : α → String) (l : List α) : Prop := l.Pairwise fun a b => ¬key b < key a

theorem ascending_insertBy {key : α → String} {l : List α} (h : Ascending key l) (a : α) :
    Ascending key (insertBy key a l) := by
  induction l with
  | nil => exact List.pairwise_singleton _ _
  | cons b l ih =>
    obtain ⟨hb, hl⟩ := List.pairwise_cons.1 h
    simp only [insertBy]
    split
    · rename_i hlt
      refine List.pairwise_cons.2 ⟨fun c hc => ?_, ih hl⟩
      rcases List.mem_cons.1 ((insertBy_perm key a l).mem_iff.1 hc) with rfl | hc
      · exact String.lt_asymm hlt
      · exact hb c hc
    · rename_i hle
      refine List.pairwise_cons.2 ⟨fun c hc => ?_, h⟩
      rcases List.mem_cons.1 hc with rfl | hc
      · exact hle
      · exact String.not_lt.2 (String.le_trans (String.not_lt.1 hle) (String.not_lt.1 (hb c hc)))

/-- What is sorted stays as it is. -/
theorem sortBy_eq_self {key : α → String} {l : List α} (h : Ascending key l) :
    sortBy key l = l := by
  induction l with
  | nil => rfl
  | cons a l ih =>
    obtain ⟨ha, hl⟩ := List.pairwise_cons.1 h
    show insertBy key a (sortBy key l) = a :: l
    rw [ih hl]
    cases l with
    | nil => rfl
    | cons b l => exact if_neg (ha b List.mem_cons_self)

/-- The keys of a sorted list do not descend. -/
theorem ascending_sortBy (key : α → String) (l : List α) : Ascending key (sortBy key l) := by
  induction l with
  | nil => exact .nil
  | cons a l ih => exact ascending_insertBy ih a

end InfoFlow.Ordered
