import InfoFlow.Marker
import InfoFlow.NodeSet
/-!
# Traced evaluation

An evaluation gives a result or stops with a fault, and tells in either case what happened on the
way, in order. Composition goes on with the result of the first part and puts the two rows of
events one after the other; after a fault nothing happens any more.
-/

namespace InfoFlow

/-- What an obligation is asked about, besides the source. -/
inductive Target where
  | node (n : Node)
  | nodes (s : NodeSet)

/-- A call of a predicate that is given by the caller. -/
structure Call where
  tag : String
  source : Node
  target : Target

/-- What happens during an evaluation. -/
inductive Event where
  /-- The plan for a statement was chosen. -/
  | planned (statement : String) (source destination : Quantifier)
  /-- The two ends of a statement were looked up. -/
  | resolved (statement : String) (sources destinations : Nat) (source destination : Quantifier)
  /-- A marker that the graph does not declare was taken for no node. -/
  | undeclared (m : Marker)
  /-- A predicate given by the caller was called. -/
  | called (c : Call)
  /-- An obligation did not hold. -/
  | unmet (statement label : String) (source : Node) (destination : Option Node)
  /-- The obligation of a statement was evaluated for the last time. -/
  | finished (statement : String) (evaluations violations : Nat)

/-- Why an evaluation stops. -/
inductive Fault where
  /-- The graph does not declare a marker. -/
  | unknownMarker (m : Marker)
  /-- A state that no well-formed statement leads to, with what is known about it. -/
  | unreachable (reason : String) (env : Keyed String Value)
  /-- There is no graph to ask. -/
  | noGraph

namespace Fault

/-- The reason given for an unreachable state that states none. -/
def defaultReason : String := "never() invariant reached"

/-- The fault of a state that no well-formed statement leads to. -/
def never (reason : String) (env : Keyed String Value) : Fault :=
  .unreachable (if reason = "" then defaultReason else reason) env

/-- The wording of each fault. -/
def message : Fault → String
  | unknownMarker m => "marker " ++ Text.quoted m.text ++ " is not declared by the graph"
  | unreachable reason _ => reason
  | noGraph => "no graph"

end Fault

/-- What happened, and the result or the fault that ended it. -/
structure Traced (α : Type) where
  events : List Event
  result : Except Fault α

namespace Traced

variable {α β γ : Type}

/-- A result of which nothing is told. -/
protected def pure (a : α) : Traced α := ⟨[], .ok a⟩

/-- Goes on with a result. -/
protected def bind (x : Traced α) (f : α → Traced β) : Traced β :=
  match x.result with
  | .ok a => ⟨x.events ++ (f a).events, (f a).result⟩
  | .error e => ⟨x.events, .error e⟩

instance : Monad Traced where
  pure := Traced.pure
  bind := Traced.bind

/-- Tells of an event. -/
def tell (e : Event) : Traced Unit := ⟨[e], .ok ()⟩

/-- Stops with a fault. -/
def fault (e : Fault) : Traced α := ⟨[], .error e⟩

/-- Puts events in front. -/
def after (x : Traced α) (es : List Event) : Traced α := { x with events := es ++ x.events }

@[simp] theorem events_pure (a : α) : (pure a : Traced α).events = [] := rfl

@[simp] theorem result_pure (a : α) : (pure a : Traced α).result = .ok a := rfl

theorem result_bind (x : Traced α) (f : α → Traced β) :
    (x >>= f).result = x.result.bind fun a => (f a).result := by
  cases x with
  | mk es r => cases r <;> rfl

/-- The calls among the events, in order. -/
def calls (es : List Event) : List Call :=
  es.filterMap fun
    | .called c => some c
    | _ => none

@[simp] theorem calls_append (es fs : List Event) : calls (es ++ fs) = calls es ++ calls fs :=
  List.filterMap_append

end Traced

theorem Traced.id_map' {α : Type} (x : Traced α) : id <$> x = x := by
  obtain ⟨es, r⟩ := x
  cases r <;> simp [Functor.map, Traced.bind, Traced.pure]

theorem Traced.bind_assoc' {α β γ : Type} (x : Traced α) (f : α → Traced β) (g : β → Traced γ) :
    x >>= f >>= g = x >>= fun a => f a >>= g := by
  obtain ⟨es, r⟩ := x
  cases r with
  | error e => rfl
  | ok a =>
    simp only [bind, Traced.bind]
    cases (f a).result <;> simp

theorem Traced.pure_bind' {α β : Type} (a : α) (f : α → Traced β) : pure a >>= f = f a := by
  simp [bind, pure, Traced.bind, Traced.pure]

instance : LawfulMonad Traced :=
  .mk' Traced Traced.id_map' Traced.pure_bind' Traced.bind_assoc'

end InfoFlow
