import InfoFlow.Proofs.Evaluation.Calls
import InfoFlow.Proofs.Evaluation.DataFlow
import InfoFlow.Proofs.Grammar.Making
import InfoFlow.Proofs.Keyed
import InfoFlow.Proofs.Obligation.Visits
/-!
# Trees of obligations

Obligations that are joined may be joined again, and so on. What a tree of joins comes to is an
obligation exactly if no join in it is empty and all leaves have one shape. It asks its leaves from
left to right what it is asked itself, and no further than its value needs.
-/

namespace InfoFlow

/-! ## Trees without an empty join -/

namespace Formula

variable {α : Type} {f : Formula α} {place : Place} {a : α}

mutual

/-- What holds of atoms, and of joins if it holds of all their parts, holds of every formula. -/
@[elab_as_elim]
theorem byParts {motive : Formula α → Prop} (atom : ∀ a, motive (.atom a))
    (allOf : ∀ ps, (∀ p ∈ ps, motive p) → motive (.allOf ps))
    (anyOf : ∀ ps, (∀ p ∈ ps, motive p) → motive (.anyOf ps)) : ∀ f, motive f
  | .atom a => atom a
  | .allOf ps => allOf ps (byPartsOf atom allOf anyOf ps)
  | .anyOf ps => anyOf ps (byPartsOf atom allOf anyOf ps)

theorem byPartsOf {motive : Formula α → Prop} (atom : ∀ a, motive (.atom a))
    (allOf : ∀ ps, (∀ p ∈ ps, motive p) → motive (.allOf ps))
    (anyOf : ∀ ps, (∀ p ∈ ps, motive p) → motive (.anyOf ps)) :
    ∀ ps : List (Formula α), ∀ p ∈ ps, motive p
  | [] => List.forall_mem_nil _
  | p :: ps =>
    List.forall_mem_cons.2 ⟨byParts atom allOf anyOf p, byPartsOf atom allOf anyOf ps⟩

end

/-- No conjunction or disjunction is empty. -/
inductive IsFull : Formula α → Prop where
  | atom (a : α) : IsFull (.atom a)
  | allOf {ps : List (Formula α)} (hne : ps ≠ []) (h : ∀ p ∈ ps, IsFull p) : IsFull (.allOf ps)
  | anyOf {ps : List (Formula α)} (hne : ps ≠ []) (h : ∀ p ∈ ps, IsFull p) : IsFull (.anyOf ps)

theorem exists_atomAt?_of_parts {ps : List (Formula α)} (hne : ps ≠ [])
    (h : ∀ p ∈ ps, ∃ place a, p.atomAt? place = some a) :
    ∃ place a, (ps[0]?.bind fun p => p.atomAt? place) = some a := by
  cases ps with
  | nil => exact absurd rfl hne
  | cons p ps => exact h p List.mem_cons_self

/-- There is an atom in a formula without an empty join. -/
theorem IsFull.exists_atomAt? (h : f.IsFull) : ∃ place a, f.atomAt? place = some a := by
  induction h with
  | atom a => exact ⟨[], a, rfl⟩
  | allOf hne _ ih | anyOf hne _ ih =>
    obtain ⟨place, a, hat⟩ := exists_atomAt?_of_parts hne ih
    exact ⟨0 :: place, a, hat⟩

theorem mem_atoms_of_atomAt? (h : f.atomAt? place = some a) : a ∈ f.atoms := by
  induction place generalizing f with
  | nil =>
    cases f with
    | atom b => exact List.mem_singleton.2 (Option.some.inj h).symm
    | allOf ps | anyOf ps => exact nomatch h
  | cons i place ih =>
    cases f with
    | atom b => exact nomatch h
    | allOf ps | anyOf ps =>
      obtain ⟨p, hp, hat⟩ := Option.bind_eq_some_iff.1 h
      exact mem_atomsOf.2 ⟨p, List.mem_of_getElem? hp, ih hat⟩

/-- Nothing stands below an atom. -/
theorem atomAt?_below (h : f.atomAt? place = some a) (i : Nat) (rest : Place) :
    f.atomAt? (place ++ i :: rest) = none := by
  induction place generalizing f with
  | nil =>
    cases f with
    | atom b => rfl
    | allOf ps | anyOf ps => exact nomatch h
  | cons j place ih =>
    cases f with
    | atom b => rfl
    | allOf ps | anyOf ps =>
      obtain ⟨p, hp, hat⟩ := Option.bind_eq_some_iff.1 h
      rw [List.cons_append, atomAt?, hp]
      exact ih hat

/-- The watch that tells of each atom by a call of its own. -/
def telling (f : Formula α) (call : Place → Call) (place : Place) (x : Traced Bool) :
    Traced Bool :=
  if (f.atomAt? place).isSome then x.toldAs (call place) else x

theorem telling_of_none (h : f.atomAt? place = none) (call : Place → Call) (x : Traced Bool) :
    f.telling call place x = x := by
  unfold telling
  rw [h]
  rfl

theorem telling_of_some (h : f.atomAt? place = some a) (call : Place → Call) (x : Traced Bool) :
    f.telling call place x = x.toldAs (call place) := by
  unfold telling
  rw [h]
  rfl

end Formula

namespace Obligation

open Formula

/-! ## Making obligations from trees -/

mutual

/-- What a tree of joins over obligations comes to. The parts of a join are made first. -/
def ofTree : Formula Obligation → Except Malformed Obligation
  | .atom o => .ok o
  | .allOf ts => do
    let os ← ofTrees ts
    allOf os
  | .anyOf ts => do
    let os ← ofTrees ts
    anyOf os

/-- What some trees come to. -/
def ofTrees : List (Formula Obligation) → Except Malformed (List Obligation)
  | [] => .ok []
  | t :: ts => do
    let o ← ofTree t
    let os ← ofTrees ts
    return o :: os

end

/-- The formula of an obligation about pairs. -/
def pairFormula : Obligation → Formula PairAtom
  | .pair f => f
  | .set _ => .allOf []

/-- The formula of an obligation about sets. -/
def setFormula : Obligation → Formula SetAtom
  | .set f => f
  | .pair _ => .allOf []

/-- The obligation of a shape that has the formulas of the leaves in their places. -/
def joined (k : Shape) (t : Formula Obligation) : Obligation :=
  match k with
  | .pair => .pair (t.subst pairFormula)
  | .set => .set (t.subst setFormula)

variable {t : Formula Obligation} {ts : List (Formula Obligation)} {o : Obligation}
  {os : List Obligation} {k : Shape}

theorem joined_atom (h : o.shape = k) : joined k (.atom o) = o := by
  subst h
  cases o <;> rfl

theorem substParts_eq_map {α β : Type} (j : α → Formula β) (ps : List (Formula α)) :
    substParts j ps = ps.map (subst j) := by
  induction ps with
  | nil => rfl
  | cons p ps ih => rw [substParts, ih, List.map_cons]

theorem sets?_map (fs : List (Formula SetAtom)) : sets? (fs.map .set) = some fs := by
  induction fs with
  | nil => rfl
  | cons f fs ih =>
    rw [List.map_cons, sets?, ih]
    rfl

/-- Obligations about sets can be joined if there are any. -/
theorem combine_map_set {joiner : String} {pairs : List (Formula PairAtom) → Formula PairAtom}
    {sets : List (Formula SetAtom) → Formula SetAtom} {fs : List (Formula SetAtom)}
    (hfs : fs ≠ []) : combine joiner pairs sets (fs.map .set) = .ok (.set (sets fs)) := by
  cases fs with
  | nil => exact absurd rfl hfs
  | cons f fs =>
    unfold combine
    rw [sets?_map]
    rfl

theorem combine_map_joined {joiner : String} {pairs : List (Formula PairAtom) → Formula PairAtom}
    {sets : List (Formula SetAtom) → Formula SetAtom} (hts : ts ≠ [])
    (hpairs : joined .pair t = .pair (pairs (substParts pairFormula ts)))
    (hsets : joined .set t = .set (sets (substParts setFormula ts))) (k : Shape) :
    combine joiner pairs sets (ts.map (joined k)) = .ok (joined k t) := by
  -- the parts have become formulas of one shape, which is the case that a join takes
  have hne {α : Type} (j : Obligation → Formula α) : substParts j ts ≠ [] := by
    rw [substParts_eq_map]
    exact fun h => hts (List.map_eq_nil_iff.1 h)
  cases k with
  | pair =>
    have hmap : ts.map (joined .pair) = (substParts pairFormula ts).map .pair := by
      rw [substParts_eq_map, List.map_map]
      rfl
    rw [hmap, combine_map_pair (hne _), hpairs]
  | set =>
    have hmap : ts.map (joined .set) = (substParts setFormula ts).map .set := by
      rw [substParts_eq_map, List.map_map]
      rfl
    rw [hmap, combine_map_set (hne _), hsets]

theorem ofTrees_of_parts (h : ∀ t ∈ ts, ofTree t = .ok (joined k t)) :
    ofTrees ts = .ok (ts.map (joined k)) := by
  induction ts with
  | nil => rfl
  | cons t ts ih =>
    obtain ⟨ht, hts⟩ := List.forall_mem_cons.1 h
    rw [ofTrees, ht, ih hts]
    rfl

/-- Leaves of one shape can be joined by a tree without an empty join. -/
theorem ofTree_of_isFull (h : t.IsFull) (hshape : ∀ l ∈ t.atoms, l.shape = k) :
    ofTree t = .ok (joined k t) := by
  induction h with
  | atom l => rw [ofTree, joined_atom (hshape l (List.mem_singleton_self l))]
  | allOf hne _ ih =>
    have hparts := ofTrees_of_parts fun t ht =>
      ih t ht fun l hl => hshape l (mem_atomsOf.2 ⟨t, ht, hl⟩)
    rw [ofTree, hparts]
    exact combine_map_joined hne rfl rfl k
  | anyOf hne _ ih =>
    have hparts := ofTrees_of_parts fun t ht =>
      ih t ht fun l hl => hshape l (mem_atomsOf.2 ⟨t, ht, hl⟩)
    rw [ofTree, hparts]
    exact combine_map_joined hne rfl rfl k

theorem shape_of_combine {joiner : String} {pairs : List (Formula PairAtom) → Formula PairAtom}
    {sets : List (Formula SetAtom) → Formula SetAtom} (h : combine joiner pairs sets os = .ok o) :
    os ≠ [] ∧ ∀ p ∈ os, p.shape = o.shape := by
  constructor
  · rintro rfl
    exact nomatch h
  · intro p hp
    rcases combine_eq_ok h with ⟨fs, rfl, rfl⟩ | ⟨fs, rfl, rfl⟩
    · obtain ⟨f, -, rfl⟩ := List.mem_map.1 hp
      rfl
    · obtain ⟨f, -, rfl⟩ := List.mem_map.1 hp
      rfl

theorem ofTrees_eq_mapM (ts : List (Formula Obligation)) : ofTrees ts = ts.mapM ofTree := by
  induction ts with
  | nil => rfl
  | cons t ts ih =>
    rw [ofTrees, List.mapM_cons, ih]

theorem isFull_of_parts (hts : ofTrees ts = .ok os) (hos : os ≠ [] ∧ ∀ p ∈ os, p.shape = k)
    (h : ∀ t ∈ ts, ∀ {p}, ofTree t = .ok p → t.IsFull ∧ ∀ l ∈ t.atoms, l.shape = p.shape) :
    ts ≠ [] ∧ (∀ t ∈ ts, t.IsFull) ∧ ∀ l ∈ atomsOf ts, l.shape = k := by
  rw [ofTrees_eq_mapM] at hts
  -- every part was made, and what it was made into has the shape of the others
  have hmade (t : Formula Obligation) (ht : t ∈ ts) : ∃ p ∈ os, ofTree t = .ok p := by
    obtain ⟨p, hp⟩ := exists_mapM_eq_ok.1 ⟨os, hts⟩ t ht
    exact ⟨p, (mem_of_mapM_eq_ok hts p).2 ⟨t, ht, hp⟩, hp⟩
  refine ⟨?_, fun t ht => ?_, fun l hl => ?_⟩
  · rintro rfl
    exact hos.1 (Except.ok.inj hts).symm
  · obtain ⟨p, -, hp⟩ := hmade t ht
    exact (h t ht hp).1
  · obtain ⟨t, ht, hl⟩ := mem_atomsOf.1 hl
    obtain ⟨p, hmem, hp⟩ := hmade t ht
    rw [(h t ht hp).2 l hl, hos.2 p hmem]

/-- What can be made from a tree has no empty join in it, and leaves of its own shape. -/
theorem isFull_of_ofTree (h : ofTree t = .ok o) :
    t.IsFull ∧ ∀ l ∈ t.atoms, l.shape = o.shape := by
  induction t using Formula.byParts generalizing o with
  | atom l =>
    obtain rfl := Except.ok.inj h
    refine ⟨.atom l, fun l' hl' => ?_⟩
    rw [List.mem_singleton.1 hl']
  | allOf ts ih =>
    obtain ⟨os, hos, hjoin⟩ := except_bind_eq_ok.1 h
    obtain ⟨hne, hfull, hshape⟩ := isFull_of_parts hos (shape_of_combine hjoin) ih
    exact ⟨.allOf hne hfull, hshape⟩
  | anyOf ts ih =>
    obtain ⟨os, hos, hjoin⟩ := except_bind_eq_ok.1 h
    obtain ⟨hne, hfull, hshape⟩ := isFull_of_parts hos (shape_of_combine hjoin) ih
    exact ⟨.anyOf hne hfull, hshape⟩

theorem ofTree_eq_ok_iff :
    ofTree t = .ok o ↔ t.IsFull ∧ (∀ l ∈ t.atoms, l.shape = o.shape) ∧ o = joined o.shape t := by
  constructor
  · intro h
    obtain ⟨hfull, hshape⟩ := isFull_of_ofTree h
    exact ⟨hfull, hshape, Except.ok.inj (h.symm.trans (ofTree_of_isFull hfull hshape))⟩
  · rintro ⟨hfull, hshape, ho⟩
    rw [ofTree_of_isFull hfull hshape, ← ho]

theorem exists_ofTree_iff :
    (∃ o, ofTree t = .ok o) ↔ t.IsFull ∧ ∃ k, ∀ l ∈ t.atoms, l.shape = k := by
  constructor
  · rintro ⟨o, ho⟩
    obtain ⟨hfull, hshape⟩ := isFull_of_ofTree ho
    exact ⟨hfull, o.shape, hshape⟩
  · rintro ⟨hfull, k, hshape⟩
    exact ⟨_, ofTree_of_isFull hfull hshape⟩

theorem markers_joined (hshape : ∀ l ∈ t.atoms, l.shape = k) :
    (joined k t).markers = t.atoms.flatMap markers := by
  cases k with
  | pair =>
    show (t.subst pairFormula).atoms.flatMap PairAtom.markers = _
    rw [atoms_subst, List.flatMap_assoc]
    apply List.flatMap_congr
    intro l hl
    cases l with
    | pair f => rfl
    | set f => exact nomatch hshape _ hl
  | set =>
    show (t.subst setFormula).atoms.flatMap SetAtom.markers = _
    rw [atoms_subst, List.flatMap_assoc]
    apply List.flatMap_congr
    intro l hl
    cases l with
    | set f => rfl
    | pair f => exact nomatch hshape _ hl

/-! ## Asking what was made -/

/-- What an obligation answers about a source and a target, if the target is of its shape. -/
def ask? : Obligation → Graph → Node → Target → Option (Traced Bool)
  | .pair f, g, a, .node b => some (f.holdsOfPair g a b)
  | .set f, g, a, .nodes p => some (f.holdsOfSet g a p)
  | .pair _, _, _, .nodes _ | .set _, _, _, .node _ => none

/-- What an obligation answers with a watch around each of its parts. -/
def askPlaced? (watch : Place → Traced Bool → Traced Bool) :
    Obligation → Graph → Node → Target → Option (Traced Bool)
  | .pair f, g, a, .node b => some (f.evaluatePlaced watch (PairAtom.test g a b))
  | .set f, g, a, .nodes p => some (f.evaluatePlaced watch (SetAtom.test g a p))
  | .pair _, _, _, .nodes _ | .set _, _, _, .node _ => none

variable {watch : Place → Traced Bool → Traced Bool} {g : Graph} {a : Node} {x : Target}
  {l : Obligation} {v : Obligation → Bool}

theorem askPlaced?_eq (h : ∀ i place y, watch (i :: place) y = y) (o : Obligation) :
    o.askPlaced? watch g a x = (o.ask? g a x).map (watch []) := by
  cases o with
  | pair f =>
    cases x with
    | node b => exact congrArg some (f.evaluatePlaced_eq watch h)
    | nodes p => rfl
  | set f =>
    cases x with
    | node b => rfl
    | nodes p => exact congrArg some (f.evaluatePlaced_eq watch h)

/-- If the leaves of a tree answer what it is asked, then what is seen of them comes in the order of
the visits. -/
theorem askPlaced?_joined (events : Place → Obligation → List Event) (hfull : t.IsFull)
    (hshape : ∀ l ∈ t.atoms, l.shape = k)
    (hjoins : ∀ place, t.atomAt? place = none → ∀ y, watch place y = y)
    (hleaves : ∀ place l, t.atomAt? place = some l →
      l.askPlaced? (fun rest => watch (place ++ rest)) g a x = some ⟨events place l, .ok (v l)⟩) :
    (joined k t).askPlaced? watch g a x =
      some ⟨(t.visits v).flatMap fun y => events y.1 y.2, .ok (t.value v)⟩ := by
  -- some leaf answers, so the target is of the leaves' shape
  obtain ⟨place, l, hat⟩ := hfull.exists_atomAt?
  have hanswer := hleaves place l hat
  have hl := hshape l (mem_atoms_of_atomAt? hat)
  cases k with
  | pair =>
    cases x with
    | nodes p =>
      cases l with
      | pair f => exact nomatch hanswer
      | set f => exact nomatch hl
    | node b =>
      refine congrArg some (evaluatePlaced_subst t watch events ⟨hjoins, fun place l hat => ?_⟩)
      have hl := hshape l (mem_atoms_of_atomAt? hat)
      cases l with
      | pair f => exact Option.some.inj (hleaves place (.pair f) hat)
      | set f => exact nomatch hl
  | set =>
    cases x with
    | node b =>
      cases l with
      | pair f => exact nomatch hl
      | set f => exact nomatch hanswer
    | nodes p =>
      refine congrArg some (evaluatePlaced_subst t watch events ⟨hjoins, fun place l hat => ?_⟩)
      have hl := hshape l (mem_atoms_of_atomAt? hat)
      cases l with
      | pair f => exact nomatch hl
      | set f => exact Option.some.inj (hleaves place (.set f) hat)

section

variable {es : Obligation → List Event}

theorem ask?_joined (hfull : t.IsFull) (hshape : ∀ l ∈ t.atoms, l.shape = k)
    (hpure : ∀ l ∈ t.atoms, l.ask? g a x = some ⟨es l, .ok (v l)⟩) :
    (joined k t).ask? g a x =
      some ⟨(t.visits v).flatMap fun y => es y.2, .ok (t.value v)⟩ := by
  have hplain (o : Obligation) : o.askPlaced? (fun _ y => y) g a x = o.ask? g a x := by
    rw [askPlaced?_eq fun _ _ _ => rfl]
    exact Option.map_id'
  rw [← hplain]
  apply askPlaced?_joined (fun _ l => es l) hfull hshape
  · exact fun _ _ _ => rfl
  · intro place l hat
    rw [hplain, hpure l (mem_atoms_of_atomAt? hat)]

theorem askPlaced?_joined_telling (hfull : t.IsFull) (hshape : ∀ l ∈ t.atoms, l.shape = k)
    (hpure : ∀ l ∈ t.atoms, l.ask? g a x = some ⟨es l, .ok (v l)⟩) (call : Place → Call) :
    (joined k t).askPlaced? (t.telling call) g a x =
      some ⟨(t.visits v).map fun y => .called (call y.1), .ok (t.value v)⟩ := by
  rw [List.map_eq_flatMap]
  apply askPlaced?_joined (fun place _ => [.called (call place)]) hfull hshape
  · exact fun place hnone => telling_of_none hnone call
  · intro place l hat
    -- nothing stands below a leaf, so the watch sees the answer of the leaf as a whole
    rw [askPlaced?_eq fun i rest => telling_of_none (atomAt?_below hat i rest) call,
      hpure l (mem_atoms_of_atomAt? hat), List.append_nil, Option.map_some,
      telling_of_some hat]
    rfl

end

/-- A tree of joins over obligations can be made into one exactly if no join is empty and all leaves
have one shape. What is made has that shape and the markers of the leaves. If the leaves answer what
it is asked, it puts the same question to each leaf that an evaluation of the formula from left to
right comes to, once each and in order, and answers with the value of the formula; a watch that
tells of the leaves by their places sees exactly these. -/
theorem ofTree_shortCircuits (t : Formula Obligation) :
    ((∃ o, ofTree t = .ok o) ↔ t.IsFull ∧ ∃ k, ∀ l ∈ t.atoms, l.shape = k) ∧
      ∀ o, ofTree t = .ok o → (∀ l ∈ t.atoms, l.shape = o.shape) ∧
        (∀ m, m ∈ o.markers ↔ ∃ l ∈ t.atoms, m ∈ l.markers) ∧
        ∀ g a x (es : Obligation → List Event) (v : Obligation → Bool),
          (∀ l ∈ t.atoms, l.ask? g a x = some ⟨es l, .ok (v l)⟩) →
          ∃ visits : List (Place × Obligation),
            (∀ place l, (place, l) ∈ visits ↔ t.ComesTo v place l) ∧
            visits.Pairwise (fun y z => y.1 < z.1) ∧
            o.ask? g a x = some ⟨visits.flatMap fun y => es y.2, .ok (t.value v)⟩ ∧
            ∀ tag : Place → String,
              o.askPlaced? (t.telling fun place => ⟨tag place, a, x⟩) g a x =
                some ⟨visits.map fun y => .called ⟨tag y.1, a, x⟩, .ok (t.value v)⟩ := by
  refine ⟨exists_ofTree_iff, fun o ho => ?_⟩
  obtain ⟨hfull, hshape, hjoined⟩ := ofTree_eq_ok_iff.1 ho
  refine ⟨hshape, fun m => ?_, fun g a x es v hpure => ?_⟩
  · rw [hjoined, markers_joined hshape]
    exact List.mem_flatMap
  · refine ⟨t.visits v, fun place l => mem_visits, t.pairwise_visits v, ?_, fun tag => ?_⟩
    · rw [hjoined]
      exact ask?_joined hfull hshape hpure
    · rw [hjoined]
      exact askPlaced?_joined_telling hfull hshape hpure _

/-- A predicate that tells of its calls under its name. -/
def told (name : String) (answer : Bool) : Obligation :=
  .custom .pair { name, tag := some name, holds := fun _ _ _ => answer }

/-- Whoever has the key or the code may enter if the alarm is off and the guard agrees. -/
def doorTree : Formula Obligation :=
  .allOf [.anyOf [.atom (told "key" false), .atom (told "code" true)],
    .atom (told "alarm" false), .atom (told "guard" true)]

/-- What a leaf of this tree tells when it is asked whether a node may go on to another. -/
def toldOf (name : String) : Event := .called ⟨name, .int 0, .node (.int 1)⟩

/-- The guard is not asked. -/
theorem doorTree_shortCircuits :
    ∃ o, ofTree doorTree = .ok o ∧
      (∀ l ∈ doorTree.atoms, l.ask? ringGraph (.int 0) (.node (.int 1)) =
        some ⟨[toldOf l.label], .ok (["code", "guard"].contains l.label)⟩) ∧
      o.ask? ringGraph (.int 0) (.node (.int 1)) =
        some ⟨[toldOf "key", toldOf "code", toldOf "alarm"], .ok false⟩ ∧
      ∃ visits : List (Place × Obligation),
        (∀ place l, (place, l) ∈ visits ↔
          doorTree.ComesTo (fun l => ["code", "guard"].contains l.label) place l) ∧
        visits.flatMap (fun y => [toldOf y.2.label]) =
          [toldOf "key", toldOf "code", toldOf "alarm"] := by
  have hpure : ∀ l ∈ doorTree.atoms, l.ask? ringGraph (.int 0) (.node (.int 1)) =
      some ⟨[toldOf l.label], .ok (["code", "guard"].contains l.label)⟩ := by
    show ∀ l ∈ [told "key" false, told "code" true, told "alarm" false, told "guard" true], _
    simp only [List.forall_mem_cons]
    exact ⟨rfl, rfl, rfl, rfl, List.forall_mem_nil _⟩
  obtain ⟨-, hmade⟩ := ofTree_shortCircuits doorTree
  obtain ⟨-, -, hasked⟩ := hmade _ rfl
  obtain ⟨visits, hvisits, -, hanswer, -⟩ := hasked _ _ _ _ _ hpure
  refine ⟨_, rfl, hpure, rfl, visits, hvisits, ?_⟩
  exact (Traced.mk.inj (Option.some.inj hanswer)).1.symm

end Obligation

end InfoFlow
