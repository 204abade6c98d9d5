import InfoFlow.Statement
/-!
# Policies

A policy is a row of statements whose names are distinct.
-/

namespace InfoFlow

/-- Named statements that belong together. -/
structure Policy where
  name : Value
  statements : List Statement
  distinct : (statements.map Statement.name).Nodup

namespace Policy

/-- The first text that repeats one in front of it, or one that has been seen. -/
def firstRepeated? (seen : List String) : List String → Option String
  | [] => none
  | n :: ns => if n ∈ seen then some n else firstRepeated? (n :: seen) ns

theorem firstRepeated?_eq_none {seen ns : List String} :
    firstRepeated? seen ns = none ↔ ns.Nodup ∧ ∀ n ∈ ns, n ∉ seen := by
  induction ns generalizing seen with
  | nil => simp [firstRepeated?]
  | cons n ns ih =>
    by_cases h : n ∈ seen
    · simp [firstRepeated?, h]
    · simp only [firstRepeated?, h, if_false, ih, List.nodup_cons, List.mem_cons, not_or,
        forall_eq_or_imp, not_false_eq_true, true_and]
      constructor
      · exact fun ⟨hn, hs⟩ => ⟨⟨fun hm => (hs n hm).1 rfl, hn⟩, fun m hm => (hs m hm).2⟩
      · exact fun ⟨⟨hm, hn⟩, hs⟩ =>
          ⟨hn, fun m hm' => ⟨fun e => hm (e ▸ hm'), hs m hm'⟩⟩

/-- A policy from statements whose names have to be distinct. -/
def ofStatements (name : Value) (statements : List Statement) : Except Malformed Policy :=
  match h : firstRepeated? [] (statements.map Statement.name) with
  | some n => .error (.declaredTwice name n)
  | none => .ok ⟨name, statements, (firstRepeated?_eq_none.1 h).1⟩

end Policy

end InfoFlow
