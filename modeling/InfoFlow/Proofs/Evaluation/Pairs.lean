import InfoFlow.Proofs.Evaluation.Kinds
/-!
# Reports of pairs

A statement whose obligation is about pairs records what is unmet pair by pair. The text of such a
violation and its data name both nodes, unless the destination is the null node: that one reads as
no destination, so that the violation reads as one by a source alone.
-/

namespace InfoFlow

/-! ## What is shown of a violation -/

namespace Violation

variable {v w : Violation} {a b : Node}

/-- A field of a violation's data. -/
def field? (v : Violation) (key : String) : Option Value :=
  v.toValue.entries?.bind fun es => Keyed.get? es key

/-- A violation is shown as one by two nodes: its text and its data name both, and neither is like
those of a violation without a destination. -/
structure ShowsPair (v : Violation) (a b : Node) : Prop where
  text : v.render = "pair (" ++ a.quoted ++ ", " ++ b.quoted ++ "): " ++ v.detail
  source : v.field? "source" = some (.text a.quoted)
  destination : v.field? "destination" = some (.text b.quoted)
  apart : ∀ w : Violation, w.destination = none → v.render ≠ w.render ∧ v.toValue ≠ w.toValue

/-- Neither the text nor the data of two violations tells them apart. -/
def ShownLike (v w : Violation) : Prop := v.render = w.render ∧ v.toValue = w.toValue

theorem ShowsPair.not_shownLike (h : v.ShowsPair a b) (hw : w.destination = none) :
    ¬v.ShownLike w := fun hlike => (h.apart w hw).1 hlike.1

theorem field?_destination (v : Violation) :
    v.field? "destination" =
      some ((v.shownDestination.map fun d => Value.text d.quoted).getD .null) := rfl

theorem shownDestination_some (hb : b ≠ .null) (h : v.destination = some b) :
    v.shownDestination = some b := by
  unfold shownDestination
  rw [h]
  cases b with
  | null => exact absurd rfl hb
  | int | text | tuple => rfl

theorem place_of_pair (hkind : v.kind = .obligationUnmet) (h : v.shownDestination = some b) :
    v.place = "pair (" ++ v.source.quoted ++ ", " ++ b.quoted ++ ")" := by
  unfold place
  rw [hkind, h]

theorem place_of_none (h : w.destination = none) : w.place = "source " ++ w.source.quoted := by
  have hshown : w.shownDestination = none := by
    unfold shownDestination
    rw [h]
  unfold place
  rw [hshown]
  cases w.kind <;> rfl

theorem showsPair_of_ne_null (hkind : v.kind = .obligationUnmet) (hdetail : v.detail ≠ "")
    (hb : b ≠ .null) (h : v.destination = some b) : v.ShowsPair v.source b := by
  have hshown := shownDestination_some hb h
  have htext : v.render = "pair (" ++ v.source.quoted ++ ", " ++ b.quoted ++ "): " ++ v.detail := by
    unfold render shownDetail
    rw [place_of_pair hkind hshown, if_neg hdetail]
    simp only [String.append_assoc]
    rfl
  have hdestination : v.field? "destination" = some (.text b.quoted) := by
    rw [field?_destination, hshown]
    rfl
  refine ⟨htext, rfl, hdestination, fun w hw => ⟨fun hsame => ?_, fun hsame => ?_⟩⟩
  · -- a text about a source begins with another letter
    rw [htext, render, place_of_none hw] at hsame
    have hfirst := congrArg (fun s => s.toList.head?) hsame
    simp only [String.toList_append] at hfirst
    exact nomatch hfirst
  · have hnone : w.field? "destination" = some .null := by
      rw [field?_destination, shownDestination, hw]
      rfl
    have hentry : v.field? "destination" = w.field? "destination" := by
      rw [field?, field?, hsame]
    rw [hdestination, hnone] at hentry
    exact nomatch hentry

end Violation

/-! ## What a verdict says of its violations -/

theorem Text.exists_intercalate (sep : String) {s : String} {l : List String} (h : s ∈ l) :
    ∃ front back, String.intercalate sep l = front ++ s ++ back := by
  induction l with
  | nil => exact absurd h List.not_mem_nil
  | cons t l ih =>
    cases l with
    | nil =>
      rw [List.mem_singleton.1 h]
      exact ⟨"", "", by rw [String.intercalate_singleton, String.empty_append, String.append_empty]⟩
    | cons u l =>
      rw [String.intercalate_cons_cons]
      rcases List.mem_cons.1 h with rfl | h
      · refine ⟨"", sep ++ String.intercalate sep (u :: l), ?_⟩
        rw [String.empty_append, String.append_assoc]
      · obtain ⟨front, back, hrest⟩ := ih h
        refine ⟨t ++ sep ++ front, back, ?_⟩
        rw [hrest]
        simp only [String.append_assoc]

/-- The message of a verdict has the text of each of its violations in it. -/
theorem Verdict.message_of_mem {v : Verdict} {w : Violation} (h : w ∈ v.violations) :
    ∃ front back, v.message = front ++ w.render ++ back := by
  have hrender : w.render ∈ v.violations.map Violation.render := List.mem_map_of_mem h
  obtain ⟨front, back, htexts⟩ := Text.exists_intercalate "; " hrender
  have hkind : v.kind? ≠ none := by
    unfold kind?
    cases hvs : v.violations with
    | nil => exact absurd (hvs ▸ h) List.not_mem_nil
    | cons u us => nofun
  obtain ⟨k, hk⟩ := Option.ne_none_iff_exists'.1 hkind
  unfold message
  rw [hk]
  simp only
  rw [htexts]
  refine ⟨"statement " ++ Text.quoted v.statement ++ " failed (" ++ k.word ++ "): " ++ front,
    back, ?_⟩
  simp only [String.append_assoc]

namespace Statement

variable {s : Statement} {g : Graph} {exhaustive : Bool} {unknown : UnknownMarkers}
  {f : Formula PairAtom} {a b : Node}

/-! ## What is recorded of pairs -/

theorem mem_unmets_of_evaluate {v : Verdict} {w : Violation}
    (h : (s.evaluate g exhaustive unknown).result = .ok v) (hw : w ∈ v.violations)
    (hkind : w.kind = .obligationUnmet) :
    w ∈ s.unmets g (g.marked s.destination) (g.marked s.source).nodes := by
  rw [evaluate_result] at h
  cases hknown : firstUnknown g unknown s.lookups with
  | some m =>
    rw [hknown] at h
    exact nomatch h
  | none =>
    rw [hknown] at h
    change (s.judge g exhaustive).result = .ok v at h
    -- a verdict has missing flows or what the checks record, never both
    unfold judge at h
    cases hflows : s.noFlows g exhaustive (g.marked s.destination) (g.marked s.source).nodes with
    | nil =>
      rw [hflows] at h
      rw [checkAll_eq_ok h] at hw
      obtain ⟨new, hnew, hsub⟩ := s.checkSources_addsOnly g exhaustive (g.marked s.destination)
        (g.marked s.source).nodes {}
      change w ∈ Tally.violations _ at hw
      rw [hnew] at hw
      exact hsub hw
    | cons u us =>
      rw [hflows] at h
      rw [← Except.ok.inj h] at hw
      have hflow := kind_of_mem_noFlows (hflows ▸ hw)
      rw [hkind] at hflow
      exact nomatch hflow

theorem unmetDetail_ne_empty (s : Statement) : s.unmetDetail ≠ "" := by
  intro h
  -- it begins with a word of its own, whatever the label
  have hfirst := congrArg (fun s => s.toList.head?) h
  simp only [unmetDetail, String.toList_append] at hfirst
  exact nomatch hfirst

theorem unmet_showsPair_iff (s : Statement) (a b : Node) :
    (s.unmet a (some b)).ShowsPair a b ↔ b ≠ .null := by
  constructor
  · rintro h rfl
    exact h.not_shownLike (w := s.unmet a none) rfl ⟨rfl, rfl⟩
  · exact fun hb => Violation.showsPair_of_ne_null rfl s.unmetDetail_ne_empty hb rfl

theorem unmet_shownLike_iff (s : Statement) (a b : Node) :
    (s.unmet a (some b)).ShownLike (s.unmet a none) ↔ b = .null := by
  constructor
  · intro hlike
    by_contra hb
    exact ((unmet_showsPair_iff s a b).2 hb).not_shownLike rfl hlike
  · rintro rfl
    exact ⟨rfl, rfl⟩

/-- An obligation about pairs is recorded as unmet by pairs only, in each check of a source and in a
verdict, whose message has each record in it. A record is shown as one by both nodes exactly if its
destination is not the null node; else it is shown like one by the source alone. -/
theorem unmet_pairs_shown (hpair : s.obligation = .pair f) (g : Graph) (exhaustive : Bool)
    (unknown : UnknownMarkers) :
    (∀ a p t, ∃ new, (s.checkSource g exhaustive a p t).tally.violations = t.violations ++ new ∧
      ∀ w ∈ new, ∃ b ∈ p, (f.holdsOfPair g a b).result = .ok false ∧ w = s.unmet a (some b)) ∧
    (∀ v, (s.evaluate g exhaustive unknown).result = .ok v → ∀ w ∈ v.violations,
      w.kind = .obligationUnmet → (∃ front back, v.message = front ++ w.render ++ back) ∧
        ∃ a b, g.Marked s.source a ∧ s.Matches g a b ∧
          (f.holdsOfPair g a b).result = .ok false ∧ w = s.unmet a (some b)) ∧
    ∀ a b, ((s.unmet a (some b)).ShowsPair a b ↔ b ≠ .null) ∧
      ((s.unmet a (some b)).ShownLike (s.unmet a none) ↔ b = .null) := by
  refine ⟨fun a p t => ?_, fun v hv w hw hkind => ⟨v.message_of_mem hw, ?_⟩,
    fun a b => ⟨s.unmet_showsPair_iff a b, s.unmet_shownLike_iff a b⟩⟩
  · obtain ⟨new, hnew, hsub⟩ := s.checkSource_addsOnly g exhaustive a p t
    refine ⟨new, hnew, fun w hw => ?_⟩
    have hfailure := hsub hw
    unfold failures at hfailure
    rw [hpair] at hfailure
    obtain ⟨b, hb, rfl⟩ := List.mem_map.1 hfailure
    obtain ⟨hb, hno⟩ := List.mem_filter.1 hb
    exact ⟨b, NodeSet.mem_nodes.1 hb, Traced.isNo_iff.1 hno, rfl⟩
  · obtain ⟨a, ha, -, hviolates⟩ := mem_unmets.1 (mem_unmets_of_evaluate hv hw hkind)
    unfold Violates at hviolates
    simp only [← unmet_eq] at hviolates
    rw [hpair] at hviolates
    obtain ⟨b, hb, hno, hw⟩ := hviolates
    exact ⟨a, b, ha, hb, hno, hw⟩

def gate : Marker := ⟨"gate", by decide⟩

def room : Marker := ⟨"room", by decide⟩

/-- A gate that feeds a room and the null node, which is a room as well. -/
def nullGraph : Graph where
  controllers := [("main", [.int 0, .int 1, .null])]
  labels := [(.int 0, [gate]), (.int 1, [room]), (.null, [room])]
  edges := [⟨.int 0, .int 1, .data⟩, ⟨.int 0, .null, .data⟩]
  declared := [gate, room]

/-- No room may be entered. -/
def doorStatement : Statement where
  name := "door"
  source := gate
  destination := room
  kind := .data
  sourceQuantifier := .some
  destinationQuantifier := .some
  obligation := .custom .pair { name := "table", holds := fun _ _ _ => false }
  name_ne_blank := by decide
  all_of_set := nofun

theorem doorStatement_pairs_shown :
    ∃ f, doorStatement.obligation = .pair f ∧
      ∃ u w, (doorStatement.evaluate nullGraph true .error).result = .ok ⟨"door", [u, w]⟩ ∧
        u.ShowsPair (.int 0) (.int 1) ∧ w.ShownLike (doorStatement.unmet (.int 0) none) := by
  refine ⟨_, rfl, doorStatement.unmet (.int 0) (some (.int 1)),
    doorStatement.unmet (.int 0) (some .null), rfl, ?_⟩
  obtain ⟨-, -, hshown⟩ := unmet_pairs_shown (s := doorStatement) rfl nullGraph true .error
  exact ⟨(hshown _ _).1.2 nofun, (hshown _ _).2.2 rfl⟩

/-- The record of a pair whose destination is the null node names the source alone. -/
theorem doorStatement_null_not_shown :
    ∃ u w, (doorStatement.evaluate nullGraph true .error).result = .ok ⟨"door", [u, w]⟩ ∧
      w.kind = .obligationUnmet ∧ w.source = .int 0 ∧ w.destination = some .null ∧
      w.render = "source 0: obligation 'table' unmet" ∧ ¬w.ShowsPair (.int 0) .null := by
  refine ⟨doorStatement.unmet (.int 0) (some (.int 1)), doorStatement.unmet (.int 0) (some .null),
    rfl, rfl, rfl, rfl, rfl, ?_⟩
  exact fun h => (doorStatement.unmet_showsPair_iff _ _).1 h rfl

end Statement

end InfoFlow
