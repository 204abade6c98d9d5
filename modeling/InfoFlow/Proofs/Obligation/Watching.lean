import InfoFlow.Obligation.Evaluate
/-!
# Watching obligations

An obligation has parts within parts, and only the predicates of a caller that have a tag tell when
they are asked. A watch is put around an obligation and all its parts: whenever one of them has been
asked, the watch is handed its answer, and what it makes of it is the answer that counts. A watch
that leaves the answers of all inner parts as they are only sees the answer of the whole.
-/

namespace InfoFlow

/-- What is made of an answer: how deep within the obligation a part stands, the part, the source
and the target that it is asked about, and its answer. -/
abbrev Watch := Nat → Obligation → Node → Target → Traced Bool → Traced Bool

namespace Formula

variable {α : Type}

mutual

/-- Evaluates a formula with a watch around each of its parts. -/
def evaluateWatched (watch : Nat → Formula α → Traced Bool → Traced Bool)
    (test : α → Traced Bool) (depth : Nat) : Formula α → Traced Bool
  | .atom a => watch depth (.atom a) (test a)
  | .allOf ps => watch depth (.allOf ps) (evaluateAllWatched watch test (depth + 1) ps)
  | .anyOf ps => watch depth (.anyOf ps) (evaluateAnyWatched watch test (depth + 1) ps)

/-- Evaluates the parts of a conjunction, with a watch around each. -/
def evaluateAllWatched (watch : Nat → Formula α → Traced Bool → Traced Bool)
    (test : α → Traced Bool) (depth : Nat) : List (Formula α) → Traced Bool
  | [] => pure true
  | p :: ps => do
    if ← evaluateWatched watch test depth p then evaluateAllWatched watch test depth ps
    else pure false

/-- Evaluates the parts of a disjunction, with a watch around each. -/
def evaluateAnyWatched (watch : Nat → Formula α → Traced Bool → Traced Bool)
    (test : α → Traced Bool) (depth : Nat) : List (Formula α) → Traced Bool
  | [] => pure false
  | p :: ps => do
    if ← evaluateWatched watch test depth p then pure true
    else evaluateAnyWatched watch test depth ps

end

variable {watch : Nat → Formula α → Traced Bool → Traced Bool} {test : α → Traced Bool}

mutual

/-- The watch sees the answer that the formula gives if it leaves the answers of all deeper parts as
they are. -/
theorem evaluateWatched_eq : ∀ (f : Formula α) (depth : Nat),
    (∀ d p, depth < d → watch d p (p.evaluate test) = p.evaluate test) →
    f.evaluateWatched watch test depth = watch depth f (f.evaluate test)
  | .atom _, _, _ => rfl
  | .allOf ps, depth, h => by rw [evaluateWatched, evaluateAllWatched_eq ps depth h, evaluate]
  | .anyOf ps, depth, h => by rw [evaluateWatched, evaluateAnyWatched_eq ps depth h, evaluate]

theorem evaluateAllWatched_eq : ∀ (ps : List (Formula α)) (depth : Nat),
    (∀ d p, depth < d → watch d p (p.evaluate test) = p.evaluate test) →
    evaluateAllWatched watch test (depth + 1) ps = evaluateAll test ps
  | [], _, _ => rfl
  | p :: ps, depth, h => by
    have hfirst := evaluateWatched_eq p (depth + 1) fun d q hd => h d q (Nat.lt_of_succ_lt hd)
    rw [h (depth + 1) p (Nat.lt_succ_self depth)] at hfirst
    rw [evaluateAllWatched, evaluateAll, hfirst, evaluateAllWatched_eq ps depth h]

theorem evaluateAnyWatched_eq : ∀ (ps : List (Formula α)) (depth : Nat),
    (∀ d p, depth < d → watch d p (p.evaluate test) = p.evaluate test) →
    evaluateAnyWatched watch test (depth + 1) ps = evaluateAny test ps
  | [], _, _ => rfl
  | p :: ps, depth, h => by
    have hfirst := evaluateWatched_eq p (depth + 1) fun d q hd => h d q (Nat.lt_of_succ_lt hd)
    rw [h (depth + 1) p (Nat.lt_succ_self depth)] at hfirst
    rw [evaluateAnyWatched, evaluateAny, hfirst, evaluateAnyWatched_eq ps depth h]

end

/-- Whether a formula holds of a matched pair, under a watch. -/
def holdsOfPairWatched (watch : Watch) (g : Graph) (f : Formula PairAtom) (s d : Node) :
    Traced Bool :=
  f.evaluateWatched (fun depth part => watch depth (.pair part) s (.node d))
    (PairAtom.test g s d) 0

/-- Whether a formula holds of a source and its matched destinations, under a watch. -/
def holdsOfSetWatched (watch : Watch) (g : Graph) (f : Formula SetAtom) (s : Node)
    (premise : NodeSet) : Traced Bool :=
  f.evaluateWatched (fun depth part => watch depth (.set part) s (.nodes premise))
    (SetAtom.test g s premise) 0

end Formula

end InfoFlow
