import Mathlib.Data.List.Forall2
import InfoFlow.Proofs.Evaluation.Kinds
import InfoFlow.Proofs.Run.Modes
/-!
# Which statements a report is about

A report holds the verdicts on the statements of a policy in the order in which they are declared.
It stops short of the last statement only after a failure, and only if not every failure is asked
for.
-/

namespace InfoFlow

/-- The results of jobs up to a point: each is that of its job, all but the last ask for more, and
the last does not if there are jobs left. -/
structure ResultsUpTo {α : Type} (last : α → Bool) (jobs : List (Except Fault α)) (as : List α) :
    Prop where
  each : List.Forall₂ (fun job a => job = .ok a) (jobs.take as.length) as
  more : ∀ a ∈ as.dropLast, last a = false
  complete : as.length = jobs.length ∨ ∃ a ∈ as, last a = true

theorem ResultsUpTo.cons {α : Type} {last : α → Bool} {jobs : List (Except Fault α)} {as : List α}
    (h : ResultsUpTo last jobs as) {a : α} (ha : last a = false) :
    ResultsUpTo last (.ok a :: jobs) (a :: as) where
  each := .cons rfl h.each
  more b hb := by
    cases as with
    | nil => exact nomatch hb
    | cons c as =>
      rcases List.mem_cons.1 hb with rfl | hb
      · exact ha
      · exact h.more b hb
  complete := by
    rcases h.complete with hlength | ⟨b, hb, hlast⟩
    · exact .inl (congrArg Nat.succ hlength)
    · exact .inr ⟨b, List.mem_cons_of_mem a hb, hlast⟩

theorem resultsUpTo_of_inOrder {α : Type} {last : α → Bool} {jobs : List (Except Fault α)}
    {as : List α} (h : inOrder last jobs = .ok as) : ResultsUpTo last jobs as := by
  induction jobs generalizing as with
  | nil =>
    obtain rfl : [] = as := Except.ok.inj h
    exact ⟨.nil, nofun, .inl rfl⟩
  | cons job jobs ih =>
    obtain ⟨a, rfl, ⟨hlast, rfl⟩ | ⟨hmore, bs, hbs, rfl⟩⟩ := inOrder_cons_eq_ok.1 h
    · exact ⟨.cons rfl .nil, nofun, .inr ⟨a, List.mem_cons_self, hlast⟩⟩
    · exact (ih hbs).cons hmore

/-- The verdicts on the statements of a policy as settings ask for them: each is on its statement,
all but the last pass unless every failure is asked for, and no statement is left out if it is or if
none fails. -/
structure Settings.VerdictsOf (settings : Settings) (g : Graph) (ss : List Statement)
    (vs : List Verdict) : Prop where
  each : List.Forall₂ (fun s v => v.statement = s.name ∧
    (s.evaluate g settings.exhaustive settings.unknownMarkers).result = .ok v)
    (ss.take vs.length) vs
  passed : settings.exhaustive = false → ∀ v ∈ vs.dropLast, v.passed = true
  complete : settings.exhaustive = true ∨ (∀ v ∈ vs, v.passed = true) → vs.length = ss.length

/-- A report holds the verdicts on the statements of its policy. -/
theorem Session.report_verdictsOf {s : Session} {g : Graph} (hg : s.graph = some g) {p : Policy}
    {r : Report} (h : (s.report p).result = .ok r) :
    s.settings.VerdictsOf g p.statements r.verdicts := by
  obtain ⟨-, hverdicts⟩ := report_eq_ok.1 h
  have hresults := resultsUpTo_of_inOrder hverdicts
  have hends (v : Verdict) :
      s.settings.endsAt v = true ↔ v.passed = false ∧ s.settings.exhaustive = false := by
    unfold Settings.endsAt
    rw [Bool.not_eq_true', Bool.or_eq_false_iff]
  constructor
  · have heach := hresults.each
    unfold jobs at heach
    rw [← List.map_take, List.forall₂_map_left_iff] at heach
    apply heach.imp
    intro st v hv
    unfold verdictOn at hv
    rw [hg] at hv
    exact ⟨(Statement.kind?_eq_noFlow_iff hv).1, hv⟩
  · intro hfast v hv
    have hmore := Bool.eq_false_iff.1 (hresults.more v hv)
    rw [ne_eq, hends, not_and, hfast] at hmore
    cases hpassed : v.passed with
    | true => rfl
    | false => exact absurd rfl (hmore hpassed)
  · intro hall
    -- a run that ends early ends with a failure, and only if not every failure is asked for
    rcases hresults.complete with hlength | ⟨v, hv, hlast⟩
    · rw [hlength]
      exact List.length_map _
    · obtain ⟨hfailed, hfast⟩ := (hends v).1 hlast
      rcases hall with hexhaustive | hpassed
      · rw [hfast] at hexhaustive
        exact nomatch hexhaustive
      · rw [hpassed v hv] at hfailed
        exact nomatch hfailed

end InfoFlow
