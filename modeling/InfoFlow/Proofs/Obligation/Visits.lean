import InfoFlow.Formula
/-!
# What an evaluation comes to

A formula is evaluated from left to right. In a conjunction the evaluation goes on while the parts
hold, and in a disjunction while they do not; so it comes to an atom exactly if, on each level above
it, it went on past all parts in front. Atoms are told apart by the places where they stand, so that
equal atoms at two places are two.
-/

namespace InfoFlow

theorem Traced.ok_bind {α β : Type} (es : List Event) (a : α) (f : α → Traced β) :
    (⟨es, .ok a⟩ : Traced α) >>= f = (f a).after es := rfl

namespace Formula

variable {α β : Type}

/-- A place within a formula: at which part to go down, level by level. -/
abbrev Place := List Nat

/-- The atom at a place. -/
def atomAt? : Formula α → Place → Option α
  | .atom a, [] => some a
  | .atom _, _ :: _ | .allOf _, [] | .anyOf _, [] => none
  | .allOf ps, i :: place | .anyOf ps, i :: place => ps[i]?.bind fun p => atomAt? p place

/-! ## Atoms that an evaluation comes to -/

/-- With given values of the atoms, an evaluation comes to an atom at a place: it goes on past each
part in front that leaves the value of its conjunction or disjunction open. -/
inductive ComesTo (v : α → Bool) : Formula α → Place → α → Prop where
  | atom (a : α) : ComesTo v (.atom a) [] a
  | allOf {front back : List (Formula α)} {p : Formula α} {place : Place} {a : α}
    (hfront : ∀ q ∈ front, q.value v = true) (h : ComesTo v p place a) :
    ComesTo v (.allOf (front ++ p :: back)) (front.length :: place) a
  | anyOf {front back : List (Formula α)} {p : Formula α} {place : Place} {a : α}
    (hfront : ∀ q ∈ front, q.value v = false) (h : ComesTo v p place a) :
    ComesTo v (.anyOf (front ++ p :: back)) (front.length :: place) a

/-- What stands at a place of a part stands further down in the whole. -/
def down (i : Nat) (x : Place × α) : Place × α := (i :: x.1, x.2)

mutual

/-- The atoms that an evaluation comes to, with their places. -/
def visits (v : α → Bool) : Formula α → List (Place × α)
  | .atom a => [([], a)]
  | .allOf ps => visitsWhile true v 0 ps
  | .anyOf ps => visitsWhile false v 0 ps

/-- The atoms that an evaluation comes to that goes on while the parts have some value. The first
part stands at some index. -/
def visitsWhile (going : Bool) (v : α → Bool) : Nat → List (Formula α) → List (Place × α)
  | _, [] => []
  | i, p :: ps =>
    (visits v p).map (down i) ++ if p.value v = going then visitsWhile going v (i + 1) ps else []

end

variable {v : α → Bool} {going : Bool} {f : Formula α} {ps : List (Formula α)} {place : Place}
  {a : α} {i : Nat}

theorem mem_map_down {xs : List (Place × α)} :
    (place, a) ∈ xs.map (down i) ↔ ∃ rest, place = i :: rest ∧ (rest, a) ∈ xs := by
  unfold down
  simp only [List.mem_map, Prod.exists, Prod.mk.injEq]
  constructor
  · rintro ⟨rest, b, hmem, rfl, rfl⟩
    exact ⟨rest, rfl, hmem⟩
  · rintro ⟨rest, rfl, hmem⟩
    exact ⟨rest, a, hmem, rfl, rfl⟩

theorem mem_visitsWhile :
    (place, a) ∈ visitsWhile going v i ps ↔
      ∃ front p back rest, ps = front ++ p :: back ∧ (∀ q ∈ front, q.value v = going) ∧
        place = (i + front.length) :: rest ∧ (rest, a) ∈ p.visits v := by
  -- by the parts, each of which is in front of those that stand at greater indices
  induction ps generalizing i with
  | nil =>
    rw [visitsWhile]
    refine iff_of_false List.not_mem_nil ?_
    rintro ⟨front, p, back, rest, hps, -⟩
    exact List.append_ne_nil_of_right_ne_nil front (List.cons_ne_nil p back) hps.symm
  | cons q ps ih =>
    rw [visitsWhile, List.mem_append, mem_map_down]
    constructor
    · rintro (⟨rest, rfl, hmem⟩ | hmem)
      · exact ⟨[], q, ps, rest, rfl, List.forall_mem_nil _, rfl, hmem⟩
      · by_cases hq : q.value v = going
        · rw [if_pos hq] at hmem
          obtain ⟨front, p, back, rest, hps, hfront, rfl, hrest⟩ := ih.1 hmem
          rw [hps]
          refine ⟨q :: front, p, back, rest, rfl, List.forall_mem_cons.2 ⟨hq, hfront⟩, ?_, hrest⟩
          rw [List.length_cons, Nat.add_right_comm, Nat.add_assoc]
        · rw [if_neg hq] at hmem
          exact absurd hmem List.not_mem_nil
    · rintro ⟨_ | ⟨q', front⟩, p, back, rest, hps, hfront, rfl, hmem⟩
      · obtain ⟨rfl, rfl⟩ := List.cons.inj hps
        exact .inl ⟨rest, rfl, hmem⟩
      · obtain ⟨rfl, rfl⟩ := List.cons.inj hps
        obtain ⟨hq, hfront⟩ := List.forall_mem_cons.1 hfront
        rw [if_pos hq]
        refine .inr (ih.2 ⟨front, p, back, rest, rfl, hfront, ?_, hmem⟩)
        rw [List.length_cons, Nat.add_right_comm, Nat.add_assoc]

theorem comesTo_allOf_iff :
    ComesTo v (.allOf ps) place a ↔
      ∃ front p back rest, ps = front ++ p :: back ∧ (∀ q ∈ front, q.value v = true) ∧
        place = front.length :: rest ∧ p.ComesTo v rest a := by
  constructor
  · intro h
    cases h with
    | allOf hfront h => exact ⟨_, _, _, _, rfl, hfront, rfl, h⟩
  · rintro ⟨front, p, back, rest, rfl, hfront, rfl, h⟩
    exact .allOf hfront h

theorem comesTo_anyOf_iff :
    ComesTo v (.anyOf ps) place a ↔
      ∃ front p back rest, ps = front ++ p :: back ∧ (∀ q ∈ front, q.value v = false) ∧
        place = front.length :: rest ∧ p.ComesTo v rest a := by
  constructor
  · intro h
    cases h with
    | anyOf hfront h => exact ⟨_, _, _, _, rfl, hfront, rfl, h⟩
  · rintro ⟨front, p, back, rest, rfl, hfront, rfl, h⟩
    exact .anyOf hfront h

theorem comesTo_atom_iff {b : α} : ComesTo v (.atom b) place a ↔ place = [] ∧ a = b := by
  constructor
  · intro h
    cases h
    exact ⟨rfl, rfl⟩
  · rintro ⟨rfl, rfl⟩
    exact .atom a

theorem exists_part_congr {P Q : Formula α → Place → Prop}
    (h : ∀ i rest, place = i :: rest → ∀ p, P p rest ↔ Q p rest) :
    (∃ front p back rest, ps = front ++ p :: back ∧ (∀ q ∈ front, q.value v = going) ∧
        place = front.length :: rest ∧ P p rest) ↔
      ∃ front p back rest, ps = front ++ p :: back ∧ (∀ q ∈ front, q.value v = going) ∧
        place = front.length :: rest ∧ Q p rest := by
  refine exists_congr fun front => exists_congr fun p => exists_congr fun back =>
    exists_congr fun rest => and_congr_right fun _ => and_congr_right fun _ => ?_
  exact and_congr_right fun hplace => h front.length rest hplace p

theorem mem_visits_of_parts (h : ∀ i rest, place = i :: rest → ∀ p : Formula α,
    (rest, a) ∈ p.visits v ↔ p.ComesTo v rest a) :
    (place, a) ∈ f.visits v ↔ f.ComesTo v place a := by
  cases f with
  | atom b => rw [visits, List.mem_singleton, Prod.mk.injEq, comesTo_atom_iff]
  | allOf ps =>
    rw [visits, mem_visitsWhile, comesTo_allOf_iff]
    simp only [Nat.zero_add]
    exact exists_part_congr h
  | anyOf ps =>
    rw [visits, mem_visitsWhile, comesTo_anyOf_iff]
    simp only [Nat.zero_add]
    exact exists_part_congr h

/-- The visits are the atoms that an evaluation comes to. -/
theorem mem_visits : (place, a) ∈ f.visits v ↔ f.ComesTo v place a := by
  -- by the place, which is longer than what is left of it within a part
  induction place generalizing f with
  | nil => exact mem_visits_of_parts nofun
  | cons j place ih =>
    apply mem_visits_of_parts
    intro i rest hplace p
    rw [← (List.cons.inj hplace).2]
    exact ih

mutual

/-- The places of the visits ascend, so that no atom is visited twice. -/
theorem pairwise_visits (v : α → Bool) : ∀ f : Formula α,
    (f.visits v).Pairwise fun x y => x.1 < y.1
  | .atom a => by
    rw [visits]
    exact List.pairwise_singleton _ _
  | .allOf ps => by
    rw [visits]
    exact pairwise_visitsWhile true v 0 ps
  | .anyOf ps => by
    rw [visits]
    exact pairwise_visitsWhile false v 0 ps

theorem pairwise_visitsWhile (going : Bool) (v : α → Bool) : ∀ (i : Nat) (ps : List (Formula α)),
    (visitsWhile going v i ps).Pairwise fun x y => x.1 < y.1
  | _, [] => by
    rw [visitsWhile]
    exact .nil
  | i, p :: ps => by
    have hfirst : ((p.visits v).map (down i)).Pairwise fun x y => x.1 < y.1 := by
      apply (pairwise_visits v p).map
      exact fun x y hlt => List.cons_lt_cons_iff.2 (.inr ⟨rfl, hlt⟩)
    rw [visitsWhile]
    by_cases hp : p.value v = going
    · rw [if_pos hp, List.pairwise_append]
      refine ⟨hfirst, pairwise_visitsWhile going v (i + 1) ps, ?_⟩
      -- what comes later stands at a greater index
      rintro ⟨place, a⟩ hx ⟨place', b⟩ hy
      obtain ⟨rest, rfl, -⟩ := mem_map_down.1 hx
      obtain ⟨front, _, _, rest', -, -, rfl, -⟩ := mem_visitsWhile.1 hy
      exact List.cons_lt_cons_iff.2 (.inl (by omega))
    · rw [if_neg hp, List.append_nil]
      exact hfirst

end

/-! ## Values of conjunctions and disjunctions -/

/-- The value of some parts of which the evaluation goes on while they have some value. -/
def valueWhile (going : Bool) (v : α → Bool) : List (Formula α) → Bool
  | [] => going
  | p :: ps => if p.value v = going then valueWhile going v ps else !going

theorem valueAll_eq_valueWhile (v : α → Bool) (ps : List (Formula α)) :
    valueAll v ps = valueWhile true v ps := by
  induction ps with
  | nil => rfl
  | cons p ps ih =>
    rw [valueAll, valueWhile, ih]
    cases p.value v <;> rfl

theorem valueAny_eq_valueWhile (v : α → Bool) (ps : List (Formula α)) :
    valueAny v ps = valueWhile false v ps := by
  induction ps with
  | nil => rfl
  | cons p ps ih =>
    rw [valueAny, valueWhile, ih]
    cases p.value v <;> rfl

/-! ## Evaluations that are watched from places -/

mutual

/-- Evaluates a formula, with a watch around each part that is told where the part stands and is
handed its answer. -/
def evaluatePlaced (watch : Place → Traced Bool → Traced Bool) (test : α → Traced Bool) :
    Formula α → Traced Bool
  | .atom a => watch [] (test a)
  | .allOf ps => watch [] (evaluateWhile true watch test 0 ps)
  | .anyOf ps => watch [] (evaluateWhile false watch test 0 ps)

/-- Evaluates parts while they have some value. The first one stands at some index. -/
def evaluateWhile (going : Bool) (watch : Place → Traced Bool → Traced Bool)
    (test : α → Traced Bool) : Nat → List (Formula α) → Traced Bool
  | _, [] => pure going
  | i, p :: ps => do
    let b ← evaluatePlaced (fun place => watch (i :: place)) test p
    if b = going then evaluateWhile going watch test (i + 1) ps else pure !going

end

section

variable {watch : Place → Traced Bool → Traced Bool} {test : α → Traced Bool}

mutual

/-- A watch that leaves the answers of all inner parts as they are sees the answer that the formula
gives. -/
theorem evaluatePlaced_eq : ∀ (f : Formula α) (watch : Place → Traced Bool → Traced Bool),
    (∀ i place x, watch (i :: place) x = x) →
    f.evaluatePlaced watch test = watch [] (f.evaluate test)
  | .atom a, watch, _ => by rw [evaluatePlaced, evaluate]
  | .allOf ps, watch, h => by
    rw [evaluatePlaced, evaluate, (evaluateWhile_eq ps watch h 0).1]
  | .anyOf ps, watch, h => by
    rw [evaluatePlaced, evaluate, (evaluateWhile_eq ps watch h 0).2]

theorem evaluateWhile_eq : ∀ (ps : List (Formula α)) (watch : Place → Traced Bool → Traced Bool),
    (∀ i place x, watch (i :: place) x = x) → ∀ i,
    evaluateWhile true watch test i ps = evaluateAll test ps ∧
      evaluateWhile false watch test i ps = evaluateAny test ps
  | [], _, _, _ => by
    rw [evaluateWhile, evaluateWhile, evaluateAll, evaluateAny]
    exact ⟨rfl, rfl⟩
  | p :: ps, watch, h, i => by
    -- the first part is an inner one, so the watch leaves its answer as it is
    have hp := evaluatePlaced_eq p (fun place => watch (i :: place)) fun j place => h i (j :: place)
    rw [h] at hp
    obtain ⟨hall, hany⟩ := evaluateWhile_eq ps watch h (i + 1)
    rw [evaluateWhile, evaluateWhile, evaluateAll, evaluateAny, hp, hall, hany]
    constructor
    · rfl
    · refine bind_congr fun b => ?_
      cases b <;> rfl

end

end

/-! ## Formulas in the place of atoms -/

mutual

/-- Puts a formula in the place of each atom. -/
def subst (k : α → Formula β) : Formula α → Formula β
  | .atom a => k a
  | .allOf ps => .allOf (substParts k ps)
  | .anyOf ps => .anyOf (substParts k ps)

/-- Puts a formula in the place of each atom of some parts. -/
def substParts (k : α → Formula β) : List (Formula α) → List (Formula β)
  | [] => []
  | p :: ps => subst k p :: substParts k ps

end

mutual

theorem atoms_subst (k : α → Formula β) : ∀ f : Formula α,
    (f.subst k).atoms = f.atoms.flatMap fun a => (k a).atoms
  | .atom a => by rw [subst, atoms, List.flatMap_singleton]
  | .allOf ps => by rw [subst, atoms, atoms, atomsOf_substParts k ps]
  | .anyOf ps => by rw [subst, atoms, atoms, atomsOf_substParts k ps]

theorem atomsOf_substParts (k : α → Formula β) : ∀ ps : List (Formula α),
    atomsOf (substParts k ps) = (atomsOf ps).flatMap fun a => (k a).atoms
  | [] => by
    rw [substParts, atomsOf, atomsOf]
    rfl
  | p :: ps => by
    rw [substParts, atomsOf, atomsOf, List.flatMap_append, atoms_subst k p,
      atomsOf_substParts k ps]

end

/-- A watch looks at a formula from the places of some atoms: it sees what each of these comes to,
and leaves the answers of the parts that they are joined to as they are. -/
structure SeenBy (watch : Place → Traced Bool → Traced Bool) (test : β → Traced Bool)
    (k : α → Formula β) (events : Place → α → List Event) (v : α → Bool) (f : Formula α) :
    Prop where
  joins : ∀ place, f.atomAt? place = none → ∀ x, watch place x = x
  atoms : ∀ place a, f.atomAt? place = some a →
    (k a).evaluatePlaced (fun rest => watch (place ++ rest)) test = ⟨events place a, .ok (v a)⟩

section

variable {watch : Place → Traced Bool → Traced Bool} {test : β → Traced Bool} {k : α → Formula β}
  {events : Place → α → List Event} {v : α → Bool} {ps : List (Formula α)} {p : Formula α} {i : Nat}

theorem atomAt?_allOf (hp : ps[i]? = some p) (place : Place) :
    (allOf ps).atomAt? (i :: place) = p.atomAt? place := by
  rw [atomAt?, hp]
  rfl

theorem atomAt?_anyOf (hp : ps[i]? = some p) (place : Place) :
    (anyOf ps).atomAt? (i :: place) = p.atomAt? place := by
  rw [atomAt?, hp]
  rfl

theorem SeenBy.allOf (h : (allOf ps).SeenBy watch test k events v) (hp : ps[i]? = some p) :
    p.SeenBy (fun place => watch (i :: place)) test k (fun place => events (i :: place)) v where
  joins place hnone := h.joins (i :: place) ((atomAt?_allOf hp place).trans hnone)
  atoms place a hat := h.atoms (i :: place) a ((atomAt?_allOf hp place).trans hat)

theorem SeenBy.anyOf (h : (anyOf ps).SeenBy watch test k events v) (hp : ps[i]? = some p) :
    p.SeenBy (fun place => watch (i :: place)) test k (fun place => events (i :: place)) v where
  joins place hnone := h.joins (i :: place) ((atomAt?_anyOf hp place).trans hnone)
  atoms place a hat := h.atoms (i :: place) a ((atomAt?_anyOf hp place).trans hat)

mutual

/-- What is seen from the places of atoms happens in the order of the visits, and the answer is the
value of the formula. -/
theorem evaluatePlaced_subst : ∀ (f : Formula α) (watch : Place → Traced Bool → Traced Bool)
    (events : Place → α → List Event), f.SeenBy watch test k events v →
    (f.subst k).evaluatePlaced watch test =
      ⟨(f.visits v).flatMap fun x => events x.1 x.2, .ok (f.value v)⟩
  | .atom a, watch, events, h => by
    rw [subst, visits, value, List.flatMap_singleton]
    exact h.atoms [] a rfl
  | .allOf ps, watch, events, h => by
    rw [subst, evaluatePlaced, visits, value, valueAll_eq_valueWhile, h.joins [] rfl]
    apply evaluateWhile_substParts
    intro j p hp
    rw [Nat.zero_add]
    exact h.allOf hp
  | .anyOf ps, watch, events, h => by
    rw [subst, evaluatePlaced, visits, value, valueAny_eq_valueWhile, h.joins [] rfl]
    apply evaluateWhile_substParts
    intro j p hp
    rw [Nat.zero_add]
    exact h.anyOf hp

theorem evaluateWhile_substParts (going : Bool) : ∀ (ps : List (Formula α))
    (watch : Place → Traced Bool → Traced Bool) (events : Place → α → List Event) (i : Nat),
    (∀ (j : Nat) (p : Formula α), ps[j]? = some p →
      p.SeenBy (fun place => watch ((i + j) :: place)) test k
        (fun place => events ((i + j) :: place)) v) →
    evaluateWhile going watch test i (substParts k ps) =
      ⟨(visitsWhile going v i ps).flatMap fun x => events x.1 x.2, .ok (valueWhile going v ps)⟩
  | [], watch, events, i, _ => by
    rw [substParts, evaluateWhile, visitsWhile, valueWhile]
    rfl
  | p :: ps, watch, events, i, h => by
    have hfirst := evaluatePlaced_subst p (fun place => watch (i :: place))
      (fun place => events (i :: place)) (h 0 p rfl)
    have hrest := evaluateWhile_substParts going ps watch events (i + 1) fun j q hq => by
      have hnext := h (j + 1) q hq
      rwa [Nat.add_left_comm, Nat.add_comm j] at hnext
    -- the first part was seen from its own places, which stand below the index in the whole
    have hmap : ((p.visits v).map (down i)).flatMap (fun x => events x.1 x.2) =
        (p.visits v).flatMap fun x => events (i :: x.1) x.2 := List.flatMap_map _ _ _
    rw [substParts, evaluateWhile, hfirst, Traced.ok_bind, visitsWhile, valueWhile,
      List.flatMap_append, hmap]
    by_cases hp : p.value v = going
    · rw [if_pos hp, if_pos hp, if_pos hp, hrest]
      rfl
    · rw [if_neg hp, if_neg hp, if_neg hp]
      rfl

end

end

end Formula

end InfoFlow
