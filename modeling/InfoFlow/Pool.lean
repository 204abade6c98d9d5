import InfoFlow.Trace
/-!
# Pools of workers

Jobs that do not depend on each other may be done by several workers at a time. The workers start
and finish jobs in any order, while the results are read in the order of the jobs; reading ends with
the last job, with a fault, or with a result that asks for no more. Jobs that have not been started
by then may be cancelled. The results that are read one after the other without workers are those of
`inOrder`.
-/

namespace InfoFlow

/-- How far a job has got. -/
inductive JobState where
  | waiting
  | running
  | finished
  | cancelled
deriving DecidableEq, Repr

/-- What happens in a pool. -/
inductive PoolAction where
  /-- A worker starts a job. -/
  | start (job : Nat)
  /-- A worker finishes a job. -/
  | finish (job : Nat)
  /-- A job that has not been started is cancelled. -/
  | cancel (job : Nat)
  /-- The result of the next job is read. -/
  | read

/-- A pool, and what has been read from it. -/
structure Pool (α : Type) where
  states : List JobState
  results : List α := []
  /-- How the reading ended, once it has. -/
  ended : Option (Except Fault Unit) := none

namespace Pool

variable {α : Type}

/-- A pool in which nothing has happened. -/
def initial (jobs : List (Except Fault α)) : Pool α :=
  ⟨jobs.map fun _ => .waiting, [], if jobs.isEmpty then some (.ok ()) else none⟩

/-- The number of workers at work. -/
def busy (p : Pool α) : Nat := p.states.count .running

/-- The pool after a job has got from one state to another, if it was in the first. -/
def move (p : Pool α) (job : Nat) (before after : JobState) : Option (Pool α) :=
  if p.states[job]? = some before then some { p with states := p.states.set job after } else none

/-- The pool after the result of the next job has been read. -/
def readNext (jobs : List (Except Fault α)) (last : α → Bool) (p : Pool α) : Option (Pool α) :=
  let job := p.results.length
  if p.ended.isSome || p.states[job]? ≠ some .finished then none
  else
    match jobs[job]? with
    | none => none
    | some (.error e) => some { p with ended := some (.error e) }
    | some (.ok a) => some { p with
        results := p.results ++ [a]
        ended := if last a || job + 1 = jobs.length then some (.ok ()) else none }

/-- The pool after an action, if it can happen. -/
def step (jobs : List (Except Fault α)) (workers : Nat) (last : α → Bool) (p : Pool α) :
    PoolAction → Option (Pool α)
  | .start job => if p.busy < workers then p.move job .waiting .running else none
  | .finish job => p.move job .running .finished
  | .cancel job => if p.ended.isSome then p.move job .waiting .cancelled else none
  | .read => p.readNext jobs last

/-- The pool after a row of actions, if they can happen one after the other. -/
def run (jobs : List (Except Fault α)) (workers : Nat) (last : α → Bool) :
    Pool α → List PoolAction → Option (Pool α)
  | p, [] => some p
  | p, a :: as => (p.step jobs workers last a).bind fun p => run jobs workers last p as

/-- What has been read from a pool once the reading has ended. -/
def outcome? (p : Pool α) : Option (Except Fault (List α)) :=
  p.ended.map fun e => e.map fun _ => p.results

/-- What has been read from a pool, in order: results, and the fault that ended the reading if one
did. -/
def observed (p : Pool α) : List (Except Fault α) :=
  p.results.map .ok ++
    match p.ended with
    | some (.error e) => [.error e]
    | _ => []

/-- Whether a pool can be left: the reading has ended, and every job is finished or cancelled. -/
def isQuiet (p : Pool α) : Bool :=
  p.ended.isSome && p.states.all fun s => s = .finished || s = .cancelled

end Pool

/-- The results of jobs that are done one after the other, up to a fault or to a result that asks
for no more. -/
def inOrder {α : Type} (last : α → Bool) :
    List (Except Fault α) → Except Fault (List α)
  | [] => .ok []
  | .error e :: _ => .error e
  | .ok a :: jobs => if last a then .ok [a] else (inOrder last jobs).map (a :: ·)

end InfoFlow
