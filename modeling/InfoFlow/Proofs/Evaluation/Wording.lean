import InfoFlow.Proofs.Node.Quoted
import InfoFlow.Proofs.Run.Faults
import InfoFlow.Proofs.Text.Printable
/-!
# The words of a verdict print

A verdict on a statement that is read from a text speaks of the statement's name and of its
destination marker, which are words, and of labels and nodes, which are quoted. So whatever the
graph calls its nodes, every character of the verdict prints.
-/

namespace InfoFlow

/-! ## Nodes -/

namespace Node

theorem prints_toString_int (i : Int) : Text.Prints (toString i) := by
  intro c hc
  rcases isNumeral_of_mem_toString hc with rfl | hdigit
  · decide
  · exact Text.isPrintable_of_isDigit hdigit

theorem isPrintable_of_mem_closing {c : Char} (ps : List Node) (h : c ∈ closing ps) :
    Text.isPrintable c = true := by
  have hmarks : c ∈ [',', ')'] := by
    unfold closing at h
    split at h
    · exact h
    · exact List.mem_cons_of_mem _ h
  rcases List.mem_pair.1 hmarks with rfl | rfl
  · decide
  · decide

mutual

theorem isPrintable_of_mem_quotedChars {c : Char} : ∀ n : Node, c ∈ n.quotedChars →
    Text.isPrintable c = true
  | .null, h => by
    rw [quotedChars] at h
    have hprint : Text.Prints "None" := by decide
    exact hprint c h
  | .int i, h => by
    rw [quotedChars] at h
    exact prints_toString_int i c h
  | .text s, h => by
    rw [quotedChars, ← Text.toList_quoted] at h
    exact Text.prints_quoted s c h
  | .tuple ps, h => by
    rw [quotedChars_tuple] at h
    rcases List.mem_cons.1 h with rfl | h
    · decide
    rcases List.mem_append.1 h with h | h
    · exact isPrintable_of_mem_quotedParts ps h
    · exact isPrintable_of_mem_closing ps h

theorem isPrintable_of_mem_quotedParts {c : Char} : ∀ ps : List Node, c ∈ quotedParts ps →
    Text.isPrintable c = true
  | [], h => nomatch h
  | [p], h => isPrintable_of_mem_quotedChars p h
  | p :: q :: ps, h => by
    rw [quotedParts_cons_cons] at h
    rcases List.mem_append.1 h with h | h
    · exact isPrintable_of_mem_quotedChars p h
    rcases List.mem_cons.1 h with rfl | h
    · decide
    rcases List.mem_cons.1 h with rfl | h
    · decide
    · exact isPrintable_of_mem_quotedParts (q :: ps) h

end

theorem prints_quoted (n : Node) : Text.Prints n.quoted := by
  intro c hc
  unfold quoted at hc
  rw [String.toList_ofList] at hc
  exact n.isPrintable_of_mem_quotedChars hc

end Node

/-! ## Violations -/

theorem Violation.prints_place (v : Violation) : Text.Prints v.place := by
  unfold place
  split
  · next d _ _ =>
    have hpair : Text.Prints ("pair (" ++ v.source.quoted ++ ", ") :=
      (Text.Prints.append (by decide) v.source.prints_quoted).append (by decide)
    exact (hpair.append d.prints_quoted).append (by decide)
  · exact Text.Prints.append (by decide) v.source.prints_quoted

theorem Violation.prints_render {v : Violation} (h : Text.Prints v.detail) :
    Text.Prints v.render := by
  have hdetail : Text.Prints v.shownDetail := by
    unfold shownDetail FailureKind.defaultDetail
    split
    · cases v.kind <;> decide
    · exact h
  exact (v.prints_place.append (by decide)).append hdetail

theorem Verdict.prints_message {v : Verdict} (h : ∀ w ∈ v.violations, Text.Prints w.detail) :
    Text.Prints v.message := by
  -- the name of the statement is quoted, so it does not matter what it holds
  have hname : Text.Prints ("statement " ++ Text.quoted v.statement) :=
    Text.Prints.append (by decide) (Text.prints_quoted v.statement)
  have hviolations : Text.Prints (String.intercalate "; " (v.violations.map Violation.render)) := by
    apply Text.Prints.intercalate (by decide)
    intro s hs
    obtain ⟨w, hw, rfl⟩ := List.mem_map.1 hs
    exact Violation.prints_render (h w hw)
  unfold message
  cases v.kind? with
  | none => exact hname.append (by decide)
  | some k =>
    have hkind : Text.Prints k.word := by cases k <;> decide
    exact (((hname.append (by decide)).append hkind).append (by decide)).append hviolations

/-! ## Statements -/

namespace Statement

variable {s : Statement} {g : Graph}

theorem prints_detail (hdestination : Text.Prints s.destination.text) {v : Violation}
    (hv : s.Reports g v) : Text.Prints v.detail := by
  have hunmet : Text.Prints s.unmetDetail :=
    (Text.Prints.append (by decide) (Text.prints_quoted _)).append (by decide)
  -- a missing flow speaks of the destination marker, and anything else of the label
  rcases hv with ⟨a, -, -, rfl⟩ | ⟨-, a, -, -, hviolates⟩
  · have hreason : Text.Prints s.missReason := by
      unfold missReason
      cases s.destinationQuantifier <;> decide
    exact (hreason.append (by decide)).append hdestination
  · unfold Violates at hviolates
    split at hviolates
    · obtain ⟨b, -, -, rfl⟩ := hviolates
      exact hunmet
    · obtain ⟨p, -, -, rfl⟩ := hviolates
      exact hunmet

/-- A verdict names its statement, and has no violations but those that are reported. -/
theorem evaluate_reports (hpure : s.obligation.Answers g) {exhaustive : Bool}
    {unknown : UnknownMarkers} {v : Verdict}
    (h : (s.evaluate g exhaustive unknown).result = .ok v) :
    v.statement = s.name ∧ ∀ w ∈ v.violations, s.Reports g w := by
  have hknown (m : Marker) :
      (s.evaluate g exhaustive unknown).result ≠ .error (.unknownMarker m) := by
    rw [h]
    exact nofun
  have hresult : (s.evaluate g exhaustive unknown).result =
      .ok ⟨s.name, recorded exhaustive (s.found g)⟩ := evaluate_ok hpure hknown
  rw [h] at hresult
  obtain rfl := Except.ok.inj hresult
  refine ⟨rfl, fun w hw => mem_found.1 ?_⟩
  unfold recorded at hw
  cases exhaustive with
  | true => exact hw
  | false => exact List.mem_of_mem_take hw

end Statement

/-! ## Policies that are read -/

namespace Grammar

theorem isPrintable_of_isWordStart {c : Char} (h : isWordStart c = true) :
    Text.isPrintable c = true := by
  rcases Bool.or_eq_true_iff.1 h with hletter | hlow
  · exact Text.isPrintable_of_isAlpha hletter
  · rw [of_decide_eq_true hlow]
    decide

theorem isPrintable_of_isWordPart {c : Char} (h : isWordPart c = true) :
    Text.isPrintable c = true := by
  rcases Bool.or_eq_true_iff.1 h with hstart | hdigit
  · exact isPrintable_of_isWordStart hstart
  · exact Text.isPrintable_of_isDigit hdigit

theorem Name.prints_text (n : Name) : Text.Prints n.text := by
  intro c hc
  have hformed := n.formed
  cases hcs : n.text.toList with
  | nil =>
    rw [hcs] at hformed
    exact nomatch hformed
  | cons d ds =>
    rw [hcs] at hc hformed
    rw [TokenKind.admits_word_cons, Bool.and_eq_true, List.all_eq_true] at hformed
    rcases List.mem_cons.1 hc with rfl | hc
    · exact isPrintable_of_isWordStart hformed.1
    · exact isPrintable_of_isWordPart (hformed.2 c hc)

theorem Sentence.prints_statementName (d : Sentence) (index : Nat) :
    Text.Prints (d.statementName index) := by
  unfold statementName
  cases d.name with
  | none => exact Text.Prints.append (by decide) (Text.prints_toString_nat index)
  | some n => exact n.prints_text

theorem Sentence.prints_of_mem_denotedFrom {index : Nat} {ds : List Sentence} {s : Statement}
    (h : s ∈ denotedFrom index ds) : Text.Prints s.name ∧ Text.Prints s.destination.text := by
  induction ds generalizing index with
  | nil => exact nomatch h
  | cons d ds ih =>
    rcases List.mem_cons.1 h with rfl | h
    · exact ⟨d.prints_statementName index, d.body.premise.destination.prints_text⟩
    · exact ih h

end Grammar

/-- Whatever a graph holds, the verdict on a statement that is read from a text names the statement,
and its name and its message print. -/
theorem Policy.prints_of_parse {text : String} {name : Value} {p : Policy}
    (hparse : parse text name = .ok p) {s : Statement} (hs : s ∈ p.statements) {g : Graph}
    {exhaustive : Bool} {unknown : UnknownMarkers} {v : Verdict}
    (hv : (s.evaluate g exhaustive unknown).result = .ok v) :
    v.statement = s.name ∧ Text.Prints v.statement ∧ Text.Prints v.message := by
  obtain ⟨-, ds, -, -, -, hstatements⟩ := parse_eq_ok.1 hparse
  have hmem : s ∈ Grammar.Sentence.denotedFrom 1 ds := hstatements ▸ hs
  obtain ⟨hname, hdestination⟩ := Grammar.Sentence.prints_of_mem_denotedFrom hmem
  obtain ⟨hsame, hreports⟩ := Statement.evaluate_reports (parse_answers hparse hs g) hv
  refine ⟨hsame, ?_, Verdict.prints_message fun w hw => ?_⟩
  · rw [hsame]
    exact hname
  · exact Statement.prints_detail hdestination (hreports w hw)

end InfoFlow
