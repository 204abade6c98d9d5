import InfoFlow.Proofs.Evaluation.Unknown
import InfoFlow.Proofs.Evaluation.Violations
/-!
# The kinds of failures

A statement that fails does so in one way only: its violations are all missing flows or all unmet
obligations. They are missing flows exactly if some source misses a flow, in either mode.
-/

namespace InfoFlow

/-- Only unmet obligations were recorded. -/
def Tally.OnlyUnmet (t : Tally) : Prop := ∀ v ∈ t.violations, v.kind = .obligationUnmet

/-- A check adds to the violations of a tally, even if a fault ends it, and what it adds is among
some violations. -/
def Checked.AddsOnly (c : Checked) (t : Tally) (vs : List Violation) : Prop :=
  ∃ new, c.tally.violations = t.violations ++ new ∧ new ⊆ vs

namespace Checked.AddsOnly

variable {c d : Checked} {t : Tally} {v : Violation} {vs ws : List Violation}

theorem of_eq (h : c.tally.violations = t.violations) : c.AddsOnly t vs :=
  ⟨[], by rw [h, List.append_nil], List.nil_subset vs⟩

theorem mono (h : c.AddsOnly t vs) (hvs : vs ⊆ ws) : c.AddsOnly t ws := by
  obtain ⟨new, hnew, hsub⟩ := h
  exact ⟨new, hnew, List.Subset.trans hsub hvs⟩

theorem trans (hc : c.AddsOnly t vs) (hd : d.AddsOnly c.tally vs) : d.AddsOnly t vs := by
  obtain ⟨new, hnew, hsub⟩ := hc
  obtain ⟨new', hnew', hsub'⟩ := hd
  refine ⟨new ++ new', ?_, List.append_subset.2 ⟨hsub, hsub'⟩⟩
  rw [hnew', hnew, List.append_assoc]

/-- A check that goes on from a tally in which a violation was recorded. -/
theorem of_record (hv : v ∈ vs) (hc : c.AddsOnly (t.record v) vs) : c.AddsOnly t vs := by
  have hrecord : Checked.AddsOnly ⟨t.record v, [], .ok false⟩ t vs :=
    ⟨[v], rfl, List.cons_subset.2 ⟨hv, List.nil_subset vs⟩⟩
  exact hrecord.trans hc

end Checked.AddsOnly

namespace Statement

variable {s : Statement} {g : Graph} {exhaustive : Bool} {unknown : UnknownMarkers} {v : Verdict}
  {vs : List Violation}

/-! ## The check of the obligation -/

theorem checkOnce_addsOnly (s : Statement) (exhaustive : Bool) {source : Node}
    {destination : Option Node} {test : Traced Bool} {next : Tally → Checked}
    (hno : test.isNo = true → s.unmet source destination ∈ vs)
    (hnext : ∀ t, (next t).AddsOnly t vs) (t : Tally) :
    (s.checkOnce exhaustive source destination test next t).AddsOnly t vs := by
  unfold Traced.isNo at hno
  unfold checkOnce
  cases hresult : test.result with
  | error e => exact .of_eq rfl
  | ok b =>
    rw [hresult] at hno
    cases b with
    | true => exact hnext t.count
    | false =>
      have hrecord {c : Checked}
          (hc : c.AddsOnly (t.count.record (s.unmet source destination)) vs) : c.AddsOnly t vs :=
        Checked.AddsOnly.of_record (t := t.count) (hno rfl) hc
      cases exhaustive with
      | true => exact hrecord (hnext _)
      | false => exact hrecord (.of_eq rfl)

theorem checkPairs_addsOnly (s : Statement) (exhaustive : Bool) {source : Node}
    {test : Node → Traced Bool} {ds : List Node}
    (hno : ∀ d ∈ ds, (test d).isNo = true → s.unmet source (some d) ∈ vs) (t : Tally) :
    (s.checkPairs exhaustive source test ds t).AddsOnly t vs := by
  induction ds generalizing t with
  | nil => exact .of_eq rfl
  | cons d ds ih =>
    obtain ⟨hd, hds⟩ := List.forall_mem_cons.1 hno
    exact s.checkOnce_addsOnly exhaustive hd (ih hds) t

/-- Whatever its obligation comes to, the check of a source adds failures of that source only. -/
theorem checkSource_addsOnly (s : Statement) (g : Graph) (exhaustive : Bool) (source : Node)
    (premise : NodeSet) (t : Tally) :
    (s.checkSource g exhaustive source premise t).AddsOnly t (s.failures g source premise) := by
  rw [checkSource_eq]
  unfold failures
  cases s.obligation with
  | pair f =>
    apply s.checkPairs_addsOnly exhaustive
    intro d hd hno
    exact List.mem_map.2 ⟨d, List.mem_filter.2 ⟨hd, hno⟩, rfl⟩
  | set f =>
    apply s.checkOnce_addsOnly exhaustive
    · exact fun hno => List.mem_ite_nil_right.2 ⟨hno, List.mem_singleton_self _⟩
    · exact fun t => .of_eq rfl

theorem goOn_addsOnly {c : Checked} {next : Tally → Checked} {t : Tally} (hc : c.AddsOnly t vs)
    (hnext : ∀ t, (next t).AddsOnly t vs) (exhaustive : Bool) :
    (goOn exhaustive c next).AddsOnly t vs := by
  have hboth : (next c.tally).AddsOnly t vs := hc.trans (hnext c.tally)
  unfold goOn
  cases c.passed with
  | error e => exact hc
  | ok b =>
    cases b with
    | true => exact hboth
    | false =>
      cases exhaustive with
      | true => exact hboth
      | false => exact hc

theorem checkSources_addsOnly (s : Statement) (g : Graph) (exhaustive : Bool)
    (destinations : NodeSet) (sources : List Node) (t : Tally) :
    (s.checkSources g exhaustive destinations sources t).AddsOnly t
      (s.unmets g destinations sources) := by
  induction sources generalizing t with
  | nil => exact .of_eq rfl
  | cons a sources ih =>
    unfold unmets at ih ⊢
    rw [checkSources_cons_eq_goOn, List.filter_cons]
    cases s.plan.trigger.passes (s.premise g a destinations) destinations with
    | false => exact ih t
    | true =>
      have hsource := s.checkSource_addsOnly g exhaustive a (s.premise g a destinations) t
      rw [if_pos rfl, List.flatMap_cons]
      exact goOn_addsOnly (hsource.mono (List.subset_append_left _ _))
        (fun t => (ih t).mono (List.subset_append_right _ _)) exhaustive

theorem kind_of_mem_unmets {destinations : NodeSet} {sources : List Node} {w : Violation}
    (h : w ∈ s.unmets g destinations sources) : w.kind = .obligationUnmet := by
  obtain ⟨a, -, hw⟩ := List.mem_flatMap.1 h
  unfold failures at hw
  cases ho : s.obligation with
  | pair f =>
    rw [ho] at hw
    obtain ⟨d, -, rfl⟩ := List.mem_map.1 hw
    rfl
  | set f =>
    rw [ho] at hw
    obtain ⟨-, hw⟩ := List.mem_ite_nil_right.1 hw
    rw [List.mem_singleton.1 hw]
    rfl

theorem checkSources_onlyUnmet (s : Statement) (g : Graph) (exhaustive : Bool)
    (destinations : NodeSet) (sources : List Node) {t : Tally} (ht : t.OnlyUnmet) :
    (s.checkSources g exhaustive destinations sources t).tally.OnlyUnmet := by
  obtain ⟨new, hnew, hsub⟩ := s.checkSources_addsOnly g exhaustive destinations sources t
  intro w hw
  rw [hnew] at hw
  rcases List.mem_append.1 hw with hw | hw
  · exact ht w hw
  · exact kind_of_mem_unmets (hsub hw)

theorem checkAll_eq_ok {destinations : NodeSet} {sources : List Node}
    (h : (s.checkAll g exhaustive destinations sources).result = .ok v) :
    v = ⟨s.name, (s.checkSources g exhaustive destinations sources {}).tally.violations⟩ := by
  rw [checkAll_eq] at h
  simp only at h
  cases hpassed : (s.checkSources g exhaustive destinations sources {}).passed with
  | error e =>
    rw [hpassed] at h
    exact nomatch h
  | ok b =>
    rw [hpassed] at h
    exact (Except.ok.inj h).symm

theorem kind?_of_onlyUnmet {t : Tally} (ht : t.OnlyUnmet) (name : String) :
    Verdict.kind? ⟨name, t.violations⟩ ≠ some .noFlow := by
  unfold Verdict.kind?
  cases hvs : t.violations with
  | nil => nofun
  | cons w ws =>
    have hw : w.kind = .obligationUnmet := ht w (by rw [hvs]; exact List.mem_cons_self)
    show some w.kind ≠ some .noFlow
    rw [hw]
    nofun

/-! ## The condition on every source -/

theorem exists_misses_iff (exhaustive : Bool) :
    s.noFlows g exhaustive (g.marked s.destination) (g.marked s.source).nodes ≠ [] ↔
      ∃ a, g.Marked s.source a ∧ s.Misses g a := by
  rw [noFlows_eq_recorded, ne_eq, recorded_eq_nil_iff, noFlows_eq_nil_iff]
  simp only [Classical.not_forall, misses_iff, exists_prop]

theorem kind_of_mem_noFlows {w : Violation} {destinations : NodeSet} {sources : List Node}
    (h : w ∈ s.noFlows g exhaustive destinations sources) : w.kind = .noFlow := by
  unfold noFlows at h
  cases hentry : s.plan.entry with
  | none =>
    rw [hentry] at h
    exact nomatch h
  | some entry =>
    rw [hentry] at h
    obtain ⟨a, -, rfl⟩ := List.mem_map.1 h
    rfl

theorem kind?_of_noFlows {w : Violation} {ws : List Violation} {destinations : NodeSet}
    {sources : List Node} (h : s.noFlows g exhaustive destinations sources = w :: ws) :
    w.kind = .noFlow := by
  apply kind_of_mem_noFlows
  rw [h]
  exact List.mem_cons_self

/-- A verdict tells of a missing flow exactly if some source misses a flow. -/
theorem kind?_eq_noFlow_iff (h : (s.evaluate g exhaustive unknown).result = .ok v) :
    v.statement = s.name ∧
      (v.kind? = some .noFlow ↔ ∃ a, g.Marked s.source a ∧ s.Misses g a) := by
  rw [evaluate_result] at h
  cases hknown : firstUnknown g unknown s.lookups with
  | some m =>
    rw [hknown] at h
    exact nomatch h
  | none =>
    rw [hknown] at h
    change (s.judge g exhaustive).result = .ok v at h
    rw [← exists_misses_iff exhaustive]
    unfold judge at h
    cases hflows : s.noFlows g exhaustive (g.marked s.destination) (g.marked s.source).nodes with
    | nil =>
      rw [hflows] at h
      obtain rfl := checkAll_eq_ok h
      have hunmet := s.checkSources_onlyUnmet g exhaustive (g.marked s.destination)
        (g.marked s.source).nodes (t := {}) fun _ hw => nomatch hw
      exact ⟨rfl, iff_of_false (kind?_of_onlyUnmet hunmet s.name) fun hne => hne rfl⟩
    | cons w ws =>
      rw [hflows] at h
      obtain rfl := Except.ok.inj h
      refine ⟨rfl, iff_of_true ?_ (List.cons_ne_nil w ws)⟩
      show some w.kind = some .noFlow
      rw [kind?_of_noFlows hflows]

end Statement

end InfoFlow
