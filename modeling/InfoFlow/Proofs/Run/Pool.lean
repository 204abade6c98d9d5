import InfoFlow.Pool
import Mathlib.Tactic.ByContra
/-!
# What is read from a pool

Whatever the workers do, the results are read in the order of the jobs, so a pool is read as the
jobs are without workers: what has been read is always the front of the jobs, it never goes past one
that ends the reading, and when the reading has ended it has given `inOrder`. Every action leaves
less to do, and a pool in which something is left to do always has an action that can happen.
-/

namespace InfoFlow

variable {α : Type} {jobs : List (Except Fault α)} {last : α → Bool} {workers : Nat}

/-! ## How far the reading has got -/

theorem inOrder_append {as : List α} (js : List (Except Fault α))
    (hmore : ∀ a ∈ as, last a = false) :
    inOrder last (as.map .ok ++ js) = (inOrder last js).map (as ++ ·) := by
  induction as with
  | nil =>
    show inOrder last js = _
    cases inOrder last js <;> rfl
  | cons a as ih =>
    have ha : last a = false := hmore a List.mem_cons_self
    have hrest := ih fun b hb => hmore b (List.mem_cons_of_mem a hb)
    rw [List.map_cons, List.cons_append, inOrder, ha, if_neg Bool.false_ne_true, hrest]
    cases inOrder last js <;> rfl

/-- The first job gives a result, and the others are read only if it asks for more. -/
theorem inOrder_cons_eq_ok {job : Except Fault α} {as : List α} :
    inOrder last (job :: jobs) = .ok as ↔
      ∃ a, job = .ok a ∧ (last a = true ∧ as = [a] ∨
        last a = false ∧ ∃ bs, inOrder last jobs = .ok bs ∧ as = a :: bs) := by
  cases job with
  | error e => exact iff_of_false nofun fun ⟨_, h, _⟩ => nomatch h
  | ok a =>
    simp only [Except.ok.injEq, exists_eq_left']
    cases ha : last a with
    | true =>
      rw [inOrder, if_pos ha, Except.ok.injEq, eq_comm]
      simp only [true_and, Bool.true_eq_false, false_and, or_false]
    | false =>
      rw [inOrder, ha, if_neg Bool.false_ne_true]
      simp only [Bool.false_eq_true, false_and, true_and, false_or]
      cases inOrder last jobs with
      | error e => exact iff_of_false nofun fun ⟨_, h, _⟩ => nomatch h
      | ok bs =>
        show Except.ok (a :: bs) = .ok as ↔ _
        rw [Except.ok.injEq, eq_comm]
        simp only [Except.ok.injEq, exists_eq_left']

theorem inOrder_cons_eq_error {job : Except Fault α} {f : Fault} :
    inOrder last (job :: jobs) = .error f ↔
      job = .error f ∨ ∃ a, job = .ok a ∧ last a = false ∧ inOrder last jobs = .error f := by
  cases job with
  | error e =>
    rw [inOrder, Except.error.injEq, Except.error.injEq]
    exact ⟨.inl, fun h => h.elim id fun ⟨_, h, _⟩ => nomatch h⟩
  | ok a =>
    simp only [reduceCtorEq, false_or, Except.ok.injEq, exists_eq_left']
    cases ha : last a with
    | true =>
      rw [inOrder, if_pos ha]
      exact iff_of_false nofun fun h => nomatch h.1
    | false =>
      rw [inOrder, ha, if_neg Bool.false_ne_true]
      cases inOrder last jobs with
      | error e =>
        show Except.error e = .error f ↔ _
        rw [and_iff_right rfl]
      | ok bs => exact iff_of_false nofun fun h => nomatch h.2

/-- What is read is the result of some job. -/
theorem mem_of_inOrder_eq_ok {as : List α} (h : inOrder last jobs = .ok as) {a : α} (ha : a ∈ as) :
    .ok a ∈ jobs := by
  induction jobs generalizing as with
  | nil =>
    obtain rfl : [] = as := Except.ok.inj h
    exact nomatch ha
  | cons job jobs ih =>
    obtain ⟨b, rfl, ⟨-, rfl⟩ | ⟨-, bs, hbs, rfl⟩⟩ := inOrder_cons_eq_ok.1 h
    · rw [List.mem_singleton.1 ha]
      exact List.mem_cons_self
    · rcases List.mem_cons.1 ha with rfl | ha
      · exact List.mem_cons_self
      · exact List.mem_cons_of_mem _ (ih hbs ha)

/-- What stops a reading is the fault of some job. -/
theorem mem_of_inOrder_eq_error {f : Fault} (h : inOrder last jobs = .error f) :
    .error f ∈ jobs := by
  induction jobs with
  | nil => exact nomatch h
  | cons job jobs ih =>
    obtain rfl | ⟨a, -, -, hrest⟩ := inOrder_cons_eq_error.1 h
    · exact List.mem_cons_self
    · exact List.mem_cons_of_mem _ (ih hrest)

namespace Pool

/-- The results that have been read, and how the reading has ended if it has. In front of what ends
it, every result asks for more. -/
inductive Reading (jobs : List (Except Fault α)) (last : α → Bool) :
    List α → Option (Except Fault Unit) → Prop where
  | going {as : List α} {job : Except Fault α} {js : List (Except Fault α)}
    (hjobs : jobs = as.map .ok ++ job :: js) (hmore : ∀ a ∈ as, last a = false) :
    Reading jobs last as none
  | through {as : List α} (hjobs : jobs = as.map .ok) (hmore : ∀ a ∈ as, last a = false) :
    Reading jobs last as (some (.ok ()))
  | stopped {as : List α} {a : α} {js : List (Except Fault α)}
    (hjobs : jobs = as.map .ok ++ .ok a :: js) (hmore : ∀ a ∈ as, last a = false)
    (hlast : last a = true) : Reading jobs last (as ++ [a]) (some (.ok ()))
  | failed {as : List α} {e : Fault} {js : List (Except Fault α)}
    (hjobs : jobs = as.map .ok ++ .error e :: js) (hmore : ∀ a ∈ as, last a = false) :
    Reading jobs last as (some (.error e))

variable {p q : Pool α}

/-- A reading that has ended has given what reading in order gives. -/
theorem Reading.outcome {as : List α} {e : Except Fault Unit}
    (h : Reading jobs last as (some e)) : (e.map fun _ => as) = inOrder last jobs := by
  cases h with
  | through hjobs hmore =>
    have hall := inOrder_append [] hmore
    rw [List.append_nil, ← hjobs] at hall
    rw [hall]
    show Except.ok as = .ok (as ++ [])
    rw [List.append_nil]
  | stopped hjobs hmore hlast =>
    rw [hjobs, inOrder_append _ hmore, inOrder, if_pos hlast]
    rfl
  | failed hjobs hmore =>
    rw [hjobs, inOrder_append _ hmore]
    rfl

/-- A job that ends the reading does not stand in front of one that asks for more. -/
theorem length_le_of_last {as : List α} (js : List (Except Fault α)) {i : Nat} {v : α}
    (hmore : ∀ a ∈ as, last a = false) (hv : last v = true)
    (hi : (as.map Except.ok ++ js)[i]? = some (.ok v)) : as.length ≤ i := by
  by_contra hlt
  have hlength : i < (as.map (Except.ok (ε := Fault))).length := by
    rw [List.length_map]
    omega
  rw [List.getElem?_append_left hlength, List.getElem?_map] at hi
  obtain ⟨a, ha, hav⟩ := Option.map_eq_some_iff.1 hi
  have hasks := hmore a (List.mem_of_getElem? ha)
  rw [Except.ok.inj hav, hv] at hasks
  exact Bool.false_ne_true hasks.symm

/-- Nothing after a job that ends the reading is ever observed. -/
theorem observed_isPrefix (h : Reading jobs last p.results p.ended) {i : Nat} {v : α}
    (hi : jobs[i]? = some (.ok v)) (hv : last v = true) : p.observed <+: jobs.take (i + 1) := by
  obtain ⟨states, as, ended⟩ := p
  rw [List.prefix_take_iff]
  cases h with
  | @going _ job js hjobs hmore =>
    have hle : as.length ≤ i := length_le_of_last _ hmore hv (hjobs ▸ hi)
    show as.map .ok ++ [] <+: jobs ∧ (as.map Except.ok ++ []).length ≤ i + 1
    rw [List.append_nil, List.length_map, hjobs]
    exact ⟨⟨job :: js, rfl⟩, by omega⟩
  | through hjobs hmore =>
    have hle : as.length ≤ i := by
      apply length_le_of_last [] hmore hv
      rw [List.append_nil, ← hjobs]
      exact hi
    show as.map .ok ++ [] <+: jobs ∧ (as.map Except.ok ++ []).length ≤ i + 1
    rw [List.append_nil, List.length_map, hjobs]
    exact ⟨List.prefix_refl _, by omega⟩
  | @stopped as a js hjobs hmore hlast =>
    have hle : as.length ≤ i := length_le_of_last _ hmore hv (hjobs ▸ hi)
    show (as ++ [a]).map .ok ++ [] <+: jobs ∧ ((as ++ [a]).map Except.ok ++ []).length ≤ i + 1
    rw [List.append_nil, List.length_map, List.length_append, List.length_singleton, hjobs]
    exact ⟨⟨js, by rw [List.map_append, List.append_assoc]; rfl⟩, by omega⟩
  | @failed _ e js hjobs hmore =>
    have hle : as.length ≤ i := length_le_of_last _ hmore hv (hjobs ▸ hi)
    show as.map .ok ++ [.error e] <+: jobs ∧ (as.map Except.ok ++ [Except.error e]).length ≤ i + 1
    rw [List.length_append, List.length_map, List.length_singleton, hjobs]
    exact ⟨⟨js, by rw [List.append_assoc]; rfl⟩, by omega⟩

/-- While the reading goes on there is a next job, and everything in front of it asks for more. -/
theorem Reading.next_job {as : List α} (h : Reading jobs last as none) :
    ∃ job js, jobs = as.map .ok ++ job :: js ∧ jobs[as.length]? = some job ∧
      ∀ a ∈ as, last a = false := by
  cases h with
  | @going _ job js hjobs hmore =>
    have hfront : (as.map (Except.ok (ε := Fault))).length ≤ as.length :=
      Nat.le_of_eq (List.length_map _)
    refine ⟨job, js, hjobs, ?_, hmore⟩
    rw [hjobs, List.getElem?_append_right hfront, List.length_map, Nat.sub_self]
    rfl

/-! ## What an action does -/

theorem move_eq_some {job : Nat} {before after : JobState} :
    p.move job before after = some q ↔
      p.states[job]? = some before ∧ { p with states := p.states.set job after } = q := by
  unfold move
  by_cases h : p.states[job]? = some before
  · rw [if_pos h, Option.some.injEq]
    exact (and_iff_right h).symm
  · rw [if_neg h]
    exact iff_of_false nofun fun hq => h hq.1

/-- A result is read from a job that is finished, as long as the reading goes on. -/
theorem readNext_eq_some (h : p.readNext jobs last = some q) :
    p.ended = none ∧ p.states[p.results.length]? = some .finished ∧
      ((∃ e, jobs[p.results.length]? = some (.error e) ∧ { p with ended := some (.error e) } = q) ∨
        ∃ a, jobs[p.results.length]? = some (.ok a) ∧
          { p with
            results := p.results ++ [a]
            ended := if last a || p.results.length + 1 = jobs.length then some (.ok ())
              else none } = q) := by
  unfold readNext at h
  simp only [Option.ite_none_left_eq_some] at h
  obtain ⟨hready, hread⟩ := h
  simp only [Bool.or_eq_true, not_or, Bool.not_eq_true, decide_eq_true_eq, ne_eq,
    Decidable.not_not, Option.isSome_eq_false_iff, Option.isNone_iff_eq_none] at hready
  refine ⟨hready.1, hready.2, ?_⟩
  cases hjob : jobs[p.results.length]? with
  | none =>
    rw [hjob] at hread
    exact nomatch hread
  | some job =>
    rw [hjob] at hread
    cases job with
    | error e => exact .inl ⟨e, rfl, Option.some.inj hread⟩
    | ok a => exact .inr ⟨a, rfl, Option.some.inj hread⟩

/-- The reading stays one of the jobs in order when the next result is read. -/
theorem Reading.next (h : Reading jobs last p.results p.ended)
    (hq : p.readNext jobs last = some q) : Reading jobs last q.results q.ended := by
  obtain ⟨hopen, -, hread⟩ := readNext_eq_some hq
  obtain ⟨states, as, ended⟩ := p
  obtain rfl : ended = none := hopen
  obtain ⟨job, js, hjobs, hnext, hmore⟩ := h.next_job
  dsimp only at hjobs hmore hnext hread
  simp only [hnext, Option.some.injEq] at hread
  rcases hread with ⟨e, rfl, rfl⟩ | ⟨a, rfl, rfl⟩
  · exact .failed hjobs hmore
  · cases ha : last a with
    | true => exact .stopped hjobs hmore ha
    | false =>
      have hmore' : ∀ b ∈ as ++ [a], last b = false := by
        intro b hb
        rcases List.mem_append.1 hb with hb | hb
        · exact hmore b hb
        · rw [List.mem_singleton.1 hb]
          exact ha
      have hjobs' : jobs = (as ++ [a]).map .ok ++ js := by
        rw [hjobs, List.map_append, List.append_assoc]
        rfl
      have hlength : jobs.length = as.length + 1 + js.length := by
        rw [hjobs', List.length_append, List.length_map, List.length_append,
          List.length_singleton]
      cases js with
      | nil =>
        have hend : as.length + 1 = jobs.length := hlength.symm
        simp only [hend, decide_true, Bool.or_true, if_true]
        rw [List.append_nil] at hjobs'
        exact .through hjobs' hmore'
      | cons j js =>
        have hgo : ¬as.length + 1 = jobs.length := by
          rw [hlength, List.length_cons]
          omega
        simp only [hgo, decide_false, Bool.or_false, if_neg Bool.false_ne_true]
        exact .going hjobs' hmore'

/-! ## What every schedule keeps -/

/-- The reading is one of the jobs in order, every job has a state, and none is cancelled before the
reading has ended. -/
structure Sound (jobs : List (Except Fault α)) (last : α → Bool) (p : Pool α) : Prop where
  reading : Reading jobs last p.results p.ended
  length_states : p.states.length = jobs.length
  not_cancelled : p.ended = none → JobState.cancelled ∉ p.states

theorem initial_sound (jobs : List (Except Fault α)) (last : α → Bool) :
    (initial jobs).Sound jobs last := by
  refine ⟨?_, by simp [initial], ?_⟩
  · cases jobs with
    | nil => exact .through rfl nofun
    | cons job js => exact .going rfl nofun
  · intro _ hmem
    obtain ⟨_, -, hstate⟩ := List.mem_map.1 hmem
    exact nomatch hstate

theorem Sound.of_move (h : p.Sound jobs last) {job : Nat} {before after : JobState}
    (hafter : p.ended = none → after ≠ .cancelled) (hq : p.move job before after = some q) :
    q.Sound jobs last := by
  obtain ⟨-, rfl⟩ := move_eq_some.1 hq
  refine ⟨h.reading, ?_, fun hopen hmem => ?_⟩
  · rw [List.length_set]
    exact h.length_states
  · rcases List.mem_or_eq_of_mem_set hmem with hold | hnew
    · exact h.not_cancelled hopen hold
    · exact hafter hopen hnew.symm

theorem Sound.of_step (h : p.Sound jobs last) {a : PoolAction}
    (hq : p.step jobs workers last a = some q) : q.Sound jobs last := by
  cases a with
  | start job =>
    obtain ⟨-, hmove⟩ := Option.ite_none_right_eq_some.1 hq
    exact h.of_move (fun _ => by decide) hmove
  | finish job => exact h.of_move (fun _ => by decide) hq
  | cancel job =>
    obtain ⟨hended, hmove⟩ := Option.ite_none_right_eq_some.1 hq
    refine h.of_move (fun hopen => ?_) hmove
    rw [hopen] at hended
    exact nomatch hended
  | read =>
    obtain ⟨hopen, -, hread⟩ := readNext_eq_some hq
    have hreading := h.reading.next hq
    -- reading changes no state of a job
    have hstates : q.states = p.states := by
      rcases hread with ⟨_, _, rfl⟩ | ⟨_, _, rfl⟩ <;> rfl
    refine ⟨hreading, ?_, fun _ => ?_⟩
    · rw [hstates]
      exact h.length_states
    · rw [hstates]
      exact h.not_cancelled hopen

/-! ## Every schedule comes to an end -/

/-- How often a job can still change its state. -/
def movesLeft : JobState → Nat
  | .waiting => 2
  | .running => 1
  | .finished | .cancelled => 0

/-- How often some jobs can still change their states. -/
def movesOf : List JobState → Nat
  | [] => 0
  | s :: states => movesLeft s + movesOf states

/-- How many results can still be read. -/
def unread (p : Pool α) : Nat :=
  match p.ended with
  | none => p.states.length - p.results.length
  | some _ => 0

theorem unread_le (p : Pool α) : p.unread ≤ p.states.length - p.results.length := by
  unfold unread
  cases p.ended with
  | none => exact Nat.le_refl _
  | some e => exact Nat.zero_le _

/-- How much can still happen in a pool: changes of states, and readings. -/
def left (p : Pool α) : Nat := movesOf p.states + p.unread

theorem movesOf_waiting (n : Nat) : movesOf (List.replicate n .waiting) = 2 * n := by
  induction n with
  | zero => rfl
  | succ n ih =>
    rw [List.replicate_succ, movesOf, ih, movesLeft]
    omega

theorem left_initial (jobs : List (Except Fault α)) : (initial jobs).left ≤ 3 * jobs.length := by
  have hstates : (initial jobs).states = List.replicate jobs.length .waiting := List.map_const' ..
  have hunread := unread_le (initial jobs)
  rw [hstates, List.length_replicate] at hunread
  unfold left
  rw [hstates, movesOf_waiting]
  omega

theorem movesOf_set {states : List JobState} {job : Nat} {before : JobState}
    (h : states[job]? = some before) (after : JobState) :
    movesOf (states.set job after) + movesLeft before = movesOf states + movesLeft after := by
  induction states generalizing job with
  | nil => exact nomatch h
  | cons s states ih =>
    cases job with
    | zero =>
      obtain rfl : s = before := Option.some.inj h
      simp only [List.set_cons_zero, movesOf]
      omega
    | succ job =>
      have hrest := ih h
      simp only [List.set_cons_succ, movesOf]
      omega

theorem left_of_move {job : Nat} {before after : JobState}
    (hless : movesLeft after < movesLeft before) (hq : p.move job before after = some q) :
    q.left < p.left := by
  obtain ⟨hjob, rfl⟩ := move_eq_some.1 hq
  have hsum := movesOf_set hjob after
  have hunread : unread { p with states := p.states.set job after } = p.unread := by
    unfold unread
    rw [List.length_set]
  unfold left
  rw [hunread]
  show movesOf (p.states.set job after) + p.unread < _
  omega

/-- Every action leaves less to happen. -/
theorem left_of_step {a : PoolAction} (hq : p.step jobs workers last a = some q) :
    q.left < p.left := by
  cases a with
  | start job =>
    obtain ⟨-, hmove⟩ := Option.ite_none_right_eq_some.1 hq
    exact left_of_move (by decide) hmove
  | finish job => exact left_of_move (by decide) hq
  | cancel job =>
    obtain ⟨-, hmove⟩ := Option.ite_none_right_eq_some.1 hq
    exact left_of_move (by decide) hmove
  | read =>
    obtain ⟨hopen, hfinished, hread⟩ := readNext_eq_some hq
    have hlt : p.results.length < p.states.length := (List.getElem?_eq_some_iff.1 hfinished).1
    have hunread : p.unread = p.states.length - p.results.length := by
      unfold unread
      rw [hopen]
    unfold left
    rcases hread with ⟨e, -, rfl⟩ | ⟨a, -, rfl⟩
    · show movesOf p.states + 0 < _
      omega
    · have hnext := unread_le { p with
        results := p.results ++ [a]
        ended := if last a || p.results.length + 1 = jobs.length then some (.ok ()) else none }
      rw [List.length_append, List.length_singleton] at hnext
      dsimp only at hnext ⊢
      omega

/-- A schedule that can be followed keeps a pool sound and is no longer than what could happen. -/
theorem Sound.of_run (h : p.Sound jobs last) {schedule : List PoolAction}
    (hq : run jobs workers last p schedule = some q) :
    q.Sound jobs last ∧ schedule.length + q.left ≤ p.left := by
  induction schedule generalizing p with
  | nil =>
    obtain rfl := Option.some.inj hq
    exact ⟨h, Nat.le_of_eq (Nat.zero_add _)⟩
  | cons a schedule ih =>
    obtain ⟨m, hm, hrest⟩ := Option.bind_eq_some_iff.1 hq
    obtain ⟨hsound, hle⟩ := ih (h.of_step hm) hrest
    have hlt := left_of_step hm
    refine ⟨hsound, ?_⟩
    rw [List.length_cons]
    omega

theorem run_append {schedule more : List PoolAction} :
    run jobs workers last p (schedule ++ more) =
      (run jobs workers last p schedule).bind fun p => run jobs workers last p more := by
  induction schedule generalizing p with
  | nil => rfl
  | cons a schedule ih =>
    show (p.step jobs workers last a).bind (fun p => run jobs workers last p (schedule ++ more)) = _
    simp only [ih, run, Option.bind_assoc]

/-! ## No schedule gets stuck -/

theorem exists_running (h : 0 < p.busy) : ∃ job : Nat, p.states[job]? = some .running := by
  have hmem : JobState.running ∈ p.states := List.count_pos_iff.1 h
  exact List.mem_iff_getElem?.1 hmem

/-- A job that is running can be finished, and one that is waiting can be started unless another
one is running. -/
theorem exists_step_of_pending (hworkers : 0 < workers) {job : Nat} {state : JobState}
    (hjob : p.states[job]? = some state) (hpending : state = .waiting ∨ state = .running) :
    ∃ a q, p.step jobs workers last a = some q := by
  by_cases hbusy : p.busy < workers ∧ state = .waiting
  · obtain ⟨hbusy, rfl⟩ := hbusy
    have hmove : p.move job .waiting .running = some _ := move_eq_some.2 ⟨hjob, rfl⟩
    exact ⟨.start job, _, (if_pos hbusy).trans hmove⟩
  · -- some job is running: this one, or one that keeps a worker busy
    have hrunning : ∃ job : Nat, p.states[job]? = some .running := by
      rcases hpending with rfl | rfl
      · exact exists_running (by simp only [and_true] at hbusy; omega)
      · exact ⟨job, hjob⟩
    obtain ⟨other, hother⟩ := hrunning
    exact ⟨.finish other, _, move_eq_some.2 ⟨hother, rfl⟩⟩

/-- In a pool that cannot be left yet something can happen. -/
theorem Sound.exists_step (h : p.Sound jobs last) (hworkers : 0 < workers)
    (hquiet : p.isQuiet = false) : ∃ a q, p.step jobs workers last a = some q := by
  cases hended : p.ended with
  | none =>
    -- the next job to read is still on its way, or it can be read
    have hreading := h.reading
    rw [hended] at hreading
    obtain ⟨job, js, hjobs, hjob, -⟩ := hreading.next_job
    have hlt : p.results.length < p.states.length := by
      rw [h.length_states]
      exact (List.getElem?_eq_some_iff.1 hjob).1
    have hstate := List.getElem?_eq_getElem hlt
    cases hs : p.states[p.results.length] with
    | waiting => exact exists_step_of_pending hworkers hstate (.inl hs)
    | running => exact exists_step_of_pending hworkers hstate (.inr hs)
    | cancelled => exact absurd (hs ▸ List.getElem_mem hlt) (h.not_cancelled hended)
    | finished =>
      rw [hs] at hstate
      refine ⟨.read, ?_⟩
      show ∃ q, p.readNext jobs last = some q
      unfold readNext
      simp only [hended, hstate, hjob]
      cases job <;> exact ⟨_, rfl⟩
  | some e =>
    unfold isQuiet at hquiet
    rw [hended] at hquiet
    simp only [Option.isSome_some, Bool.true_and, List.all_eq_false, Bool.or_eq_true,
      decide_eq_true_eq, not_or] at hquiet
    obtain ⟨state, hmem, hfinished, hcancelled⟩ := hquiet
    obtain ⟨job, hjob⟩ := List.mem_iff_getElem?.1 hmem
    apply exists_step_of_pending hworkers hjob
    cases state with
    | waiting => exact .inl rfl
    | running => exact .inr rfl
    | finished => exact absurd rfl hfinished
    | cancelled => exact absurd rfl hcancelled

/-- Every pool can be followed up to where it can be left. -/
theorem Sound.exists_quiet {p : Pool α} (hworkers : 0 < workers) (h : p.Sound jobs last) :
    ∃ more q, run jobs workers last p more = some q ∧ q.isQuiet = true := by
  cases hquiet : p.isQuiet with
  | true => exact ⟨[], p, rfl, hquiet⟩
  | false =>
    obtain ⟨a, m, hm⟩ := h.exists_step hworkers hquiet
    have hlt : m.left < p.left := left_of_step hm
    obtain ⟨more, q, hq, hdone⟩ := (h.of_step hm).exists_quiet hworkers
    exact ⟨a :: more, q, Option.bind_eq_some_iff.2 ⟨m, hm, hq⟩, hdone⟩
termination_by p.left

/-- A pool that can be left has given what reading in order gives. -/
theorem Sound.outcome (h : p.Sound jobs last) (hquiet : p.isQuiet = true) :
    p.outcome? = some (inOrder last jobs) := by
  have hreading := h.reading
  unfold isQuiet at hquiet
  rw [Bool.and_eq_true] at hquiet
  unfold outcome?
  cases hended : p.ended with
  | none =>
    rw [hended] at hquiet
    exact nomatch hquiet.1
  | some e =>
    rw [hended] at hreading
    rw [Option.map_some, hreading.outcome]

end Pool

end InfoFlow
