import InfoFlow.Proofs.Evaluation.Unknown
import InfoFlow.Proofs.Grammar.Meaning
import InfoFlow.Proofs.Run.Schedule
/-!
# What stops the evaluation of a policy text

There is a plan for every statement, a plan is asked for what it has, and an obligation that is
written has an answer, whatever it is asked about. So the only thing that can stop the evaluation of
a policy that is read from a text is a marker that the graph does not declare, and not even that if
such markers stand for no node.
-/

namespace InfoFlow

namespace Statement

variable {s : Statement} {g : Graph} {unknown : UnknownMarkers} {f : Fault}

/-- A fault tells of the first marker of a statement that the graph does not declare, where that is
an error. -/
def TellsUndeclared (s : Statement) (g : Graph) (unknown : UnknownMarkers) (f : Fault) : Prop :=
  unknown = .error ∧ ∃ m, s.FirstUndeclared g m ∧ f = .unknownMarker m

theorem tellsUndeclared_iff :
    s.TellsUndeclared g unknown f ↔
      ∃ m, firstUnknown g unknown s.lookups = some m ∧ f = .unknownMarker m := by
  unfold TellsUndeclared
  cases unknown with
  | error => simp only [firstUnknown_lookups_iff, true_and]
  | empty =>
    simp only [firstUnknown_empty]
    exact iff_of_false (fun h => nomatch h.1) fun ⟨_, h, _⟩ => nomatch h

/-- A statement whose obligation is pure stops at an undeclared marker and at nothing else. -/
theorem evaluate_fault_iff (hpure : s.obligation.Answers g) (exhaustive : Bool) :
    (s.evaluate g exhaustive unknown).result = .error f ↔ s.TellsUndeclared g unknown f := by
  rw [evaluate_result, tellsUndeclared_iff]
  cases firstUnknown g unknown s.lookups with
  | some m =>
    show Except.error (.unknownMarker m) = .error f ↔ _
    simp only [Except.error.injEq, Option.some.injEq, exists_eq_left', eq_comm]
  | none =>
    show (s.judge g exhaustive).result = .error f ↔ _
    rw [judge_result (answered_of_answers hpure)]
    exact iff_of_false nofun fun ⟨_, h, _⟩ => nomatch h

end Statement

/-- A report is not given because of a fault of one of the statements. -/
theorem Session.exists_fault {s : Session} {g : Graph} (hg : s.graph = some g) {p : Policy}
    {f : Fault} (h : (s.report p).result = .error f) :
    ∃ st ∈ p.statements,
      (st.evaluate g s.settings.exhaustive s.settings.unknownMarkers).result = .error f := by
  rw [report_result] at h
  cases hjobs : inOrder s.settings.endsAt (s.jobs p) with
  | ok vs =>
    rw [hjobs] at h
    exact nomatch h
  | error e =>
    rw [hjobs] at h
    obtain rfl : e = f := Except.error.inj h
    have hjob := mem_of_inOrder_eq_error hjobs
    obtain ⟨st, hst, hfault⟩ := List.mem_map.1 hjob
    refine ⟨st, hst, ?_⟩
    unfold verdictOn at hfault
    rw [hg] at hfault
    exact hfault

/-! ## Policies that are read -/

namespace Grammar.Sentence

theorem obligation_of_mem_denotedFrom {index : Nat} {ds : List Sentence} {s : Statement}
    (h : s ∈ denotedFrom index ds) : ∃ d : Sentence, s.obligation = .pair d.body.formula := by
  induction ds generalizing index with
  | nil => exact nomatch h
  | cons d ds ih =>
    rcases List.mem_cons.1 h with rfl | h
    · exact ⟨d, rfl⟩
    · exact ih h

end Grammar.Sentence

namespace Policy

/-- An obligation that is written has an answer, whatever it is asked about. -/
theorem parse_answers {text : String} {name : Value} {p : Policy} (h : parse text name = .ok p)
    {s : Statement} (hs : s ∈ p.statements) (g : Graph) : s.obligation.Answers g := by
  obtain ⟨-, ds, -, -, -, hstatements⟩ := parse_eq_ok.1 h
  rw [hstatements] at hs
  obtain ⟨d, hobligation⟩ := Grammar.Sentence.obligation_of_mem_denotedFrom hs
  rw [hobligation]
  exact fun a b => (d.body.holdsOfPair_formula g a b).answers

/-- In either mode, the fault of a statement that is read from a text is the first marker of it that
the graph does not declare, if that is an error, and there is no other. So whatever the workers of a
session do, the evaluation of a policy that is read comes to an end, it stops at such a fault of one
of the statements if it stops, and it gives a report if undeclared markers stand for no node. -/
theorem parse_faults {text : String} {name : Value} {p : Policy} (h : parse text name = .ok p)
    (g : Graph) :
    (∀ st ∈ p.statements, ∀ exhaustive unknown f,
      (do st.tellPlan; st.evaluate g exhaustive unknown : Traced Verdict).result = .error f ↔
        st.TellsUndeclared g unknown f) ∧
      ∀ s : Session, s.graph = some g →
        (∃ r, s.Evaluates p r) ∧
          ∀ r, s.Evaluates p r →
            (∀ f, r.2 = .error f →
              ∃ st ∈ p.statements, st.TellsUndeclared g s.settings.unknownMarkers f) ∧
            (s.settings.unknownMarkers = .empty → ∃ R, r = (s.enter R, .ok R)) := by
  constructor
  · intro st hst exhaustive unknown f
    rw [Statement.tellPlan_eq, Traced.result_bind]
    exact Statement.evaluate_fault_iff (parse_answers h hst g) exhaustive
  · intro s hg
    refine ⟨⟨s.evaluate p, Session.evaluates_iff.2 rfl⟩, fun r hr => ?_⟩
    obtain rfl := Session.evaluates_iff.1 hr
    have htells {f : Fault} (hf : (s.report p).result = .error f) :
        ∃ st ∈ p.statements, st.TellsUndeclared g s.settings.unknownMarkers f := by
      obtain ⟨st, hst, hfault⟩ := Session.exists_fault hg hf
      exact ⟨st, hst, (Statement.evaluate_fault_iff (parse_answers h hst g) _).1 hfault⟩
    unfold Session.evaluate
    cases hreport : (s.report p).result with
    | ok R => exact ⟨nofun, fun _ => ⟨R, rfl⟩⟩
    | error e =>
      constructor
      · intro f hf
        obtain rfl : e = f := Except.error.inj hf
        exact htells hreport
      · intro hempty
        obtain ⟨st, -, herror, -⟩ := htells hreport
        rw [hempty] at herror
        exact nomatch herror

/-- The last statement has a marker that the audited graph does not declare. -/
def strangeText : String :=
  "all review flows to some peer then peer is authorized by some audit or peer flows to review. " ++
  "some peer flows to all stranger through some audit."

/-- Two workers on the audited graph, who are told what an undeclared marker means. -/
def strangeSession (unknownMarkers : UnknownMarkers) : Session where
  graph := some Statement.auditedGraph
  settings := { Session.crossedSession.settings with unknownMarkers }

theorem strangeText_faults :
    ∃ p f R, parse strangeText .null = .ok p ∧
      (strangeSession .error).Evaluates p (strangeSession .error, .error f) ∧
      (∃ st ∈ p.statements, st.TellsUndeclared Statement.auditedGraph .error f) ∧
      (strangeSession .empty).Evaluates p ((strangeSession .empty).enter R, .ok R) := by
  have hrun : (parse strangeText .null).toOption.map (fun p =>
      ((strangeSession .error).report p).result.toOption.isNone) = some true := by decide +kernel
  obtain ⟨p, hp, hstranger⟩ := toOption_map_eq_some.1 hrun
  obtain ⟨-, hsessions⟩ := parse_faults hp Statement.auditedGraph
  obtain ⟨-, hstrict⟩ := hsessions (strangeSession .error) rfl
  obtain ⟨⟨r, hr⟩, hlenient⟩ := hsessions (strangeSession .empty) rfl
  obtain ⟨R, rfl⟩ := (hlenient r hr).2 rfl
  cases hreport : ((strangeSession .error).report p).result with
  | ok R' =>
    rw [hreport] at hstranger
    exact nomatch hstranger
  | error f =>
    have hevaluates : (strangeSession .error).Evaluates p (strangeSession .error, .error f) := by
      rw [Session.evaluates_iff]
      unfold Session.evaluate
      rw [hreport]
      rfl
    exact ⟨p, f, R, hp, hevaluates, (hstrict _ hevaluates).1 f rfl, hr⟩

end Policy

end InfoFlow
