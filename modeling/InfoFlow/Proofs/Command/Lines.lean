import InfoFlow.Proofs.Command.Report
import InfoFlow.Proofs.Text.Lines
/-!
# The lines of a check

A check writes one line for each verdict. The names and markers of a statement are words, and labels
and nodes are quoted, so none of these lines holds a character at which it could be cut: who cuts
the output into lines finds the lines about the verdicts, whatever the nodes of the graph are
called.
-/

namespace InfoFlow.CommandLine

variable {host : Host} {fs : Files} {o : CheckOptions} {r : Report}

/-- The lines of an output are those about some verdicts, each of them one line wherever it is cut,
and at most one more about the outcome. -/
structure LinesTell (host : Host) (r : Report) (x : Output) : Prop where
  statements : x.statementLines = r.verdicts.map verdictLine
  oneLine : ∀ line ∈ x.statementLines, Text.IsOneLine line
  cut : ∃ last, (last = [] ∨ last = [host.out (outcomeLine r)]) ∧
    Text.cutLines (Text.lines x.out) = r.verdicts.map verdictLine ++ Text.cutLines (Text.lines last)

theorem Worded.isOneLine (h : Worded r) : ∀ line ∈ r.verdicts.map verdictLine,
    Text.IsOneLine line := by
  intro line hline
  obtain ⟨v, hv, rfl⟩ := List.mem_map.1 hline
  exact (h.prints_verdictLine hv).isOneLine

theorem linesTell_of_out (hplain : WritesPlain host) (h : Worded r) {x : Output}
    {last : List String} (hout : x.out = entryLines host r ++ last)
    (hlast : last = [] ∨ last = [host.out (outcomeLine r)]) : LinesTell host r x := by
  have hlines := statementLines_eq hplain h hout hlast
  refine ⟨hlines, ?_, last, hlast, ?_⟩
  · rw [hlines]
    exact h.isOneLine
  · rw [hout, entryLines_eq hplain h, Text.cutLines_lines_append h.isOneLine]

/-- A completed check writes the lines about its verdicts, whether or not its report is written. -/
theorem runCheck_out (h : (checked host fs o).report = .ok r) :
    ∃ last, (runCheck host fs o).out = entryLines host r ++ last ∧
      (last = [] ∨ last = [host.out (outcomeLine r)]) := by
  by_cases hwrite : Unwritable fs o r
  · obtain ⟨f, hout⟩ := runCheck_of_unwritable h hwrite
    rw [hout]
    exact ⟨[], (List.append_nil _).symm, .inl rfl⟩
  · obtain ⟨after, -, hout⟩ := runCheck_of_report h hwrite
    rw [hout]
    exact concluded_out host after _ r

theorem stopped_out (host : Host) (fs : Files) (log : List String) (e : Stop) :
    (stopped host fs log e).out = [] := by
  cases e <;> rfl

/-- The lines of a completed check are those about its verdicts, with nothing in them at which a
line is cut; a check that is not completed writes no line. -/
theorem runCheck_linesTell (hplain : WritesPlain host) (fs : Files) (o : CheckOptions) :
    (∀ r, Completes host fs o r → LinesTell host r (runCheck host fs o)) ∧
      (Graph.IsSpelled host.graphRoom o.graph (fs.read o.graph) →
        (¬∃ r, Completes host fs o r) → (runCheck host fs o).out = []) := by
  constructor
  · intro r hr
    obtain ⟨last, hout, hlast⟩ := runCheck_out (checked_report_eq_ok.2 hr)
    exact linesTell_of_out hplain hr.worded hout hlast
  · -- nothing is to be said of a document that is set apart, so the graph is asked to be spelled
    intro _ hnone
    cases hreport : (checked host fs o).report with
    | ok r => exact absurd ⟨r, checked_report_eq_ok.1 hreport⟩ hnone
    | error e =>
      rw [runCheck_of_stop hreport]
      exact stopped_out host fs _ e

/-- The nodes of `partedText`, with line breaks in their names, of which one would tell that the
second statement holds. -/
def forgingText : String :=
  "\x7b\"controllers\": \x7b\"c\": [\"x\\nPASS broken\", \"y\\u2028\"]\x7d, " ++
    "\"markers\": \x7b\"x\\nPASS broken\": [\"a\"], \"y\\u2028\": [\"b\"]\x7d\x7d"

def forgingNodes : List Node := [.text "x\nPASS broken", .text "y\u2028"]

def forgingGraph : Graph := { partedGraph with
  controllers := [("c", forgingNodes)]
  labels := forgingNodes.zip (partedGraph.labels.map (·.2)) }

def forgingLines : List String :=
  ["PASS held", "FAIL broken: statement 'broken' failed (no_flow_from_source): " ++
    "source 'x\\nPASS broken': reaches no destination marked b"]

set_option maxRecDepth 1500 in
theorem forgingFiles_graph (policy : String) :
    ReadsGraph usualHost (filesOf policy forgingText) reportOptions forgingGraph := by
  have hdocument : Json.read 900 forgingText.toList = .ok (.table [
      ("controllers", .table [("c", .list [.text "x\nPASS broken", .text "y\u2028"])]),
      ("markers", .table [("x\nPASS broken", .list [.text "a"]),
        ("y\u2028", .list [.text "b"])])]) := rfl
  exact filesOf_graph (by decide +kernel) hdocument rfl policy

theorem forgingFiles_completes :
    ∃ r, Completes usualHost (filesOf brokenText forgingText) reportOptions r ∧
      r.verdicts.map verdictLine = forgingLines := by
  have hrun : (Policy.parse brokenText (.text "p")).toOption.map (fun p =>
      (({ graph := some forgingGraph } : Session).report p).result.toOption.map fun r =>
        r.verdicts.map verdictLine) = some (some forgingLines) := by decide +kernel
  obtain ⟨p, hp, hreport⟩ := Policy.toOption_map_eq_some.1 hrun
  obtain ⟨r, hr, hlines⟩ := Policy.toOption_map_eq_some.1 hreport
  exact ⟨r, filesOf_completes (by decide +kernel) hp (forgingFiles_graph brokenText) hr, hlines⟩

/-- A node whose name would begin a line of its own is told of within the line of its verdict. -/
theorem forgingFiles_linesTell :
    WritesPlain usualHost ∧
      ∃ r, Completes usualHost (filesOf brokenText forgingText) reportOptions r ∧
        (runCheck usualHost (filesOf brokenText forgingText) reportOptions).statementLines =
          forgingLines ∧
        LinesTell usualHost r
          (runCheck usualHost (filesOf brokenText forgingText) reportOptions) := by
  have hplain : WritesPlain usualHost := withRoom_writesPlain 900
  obtain ⟨htells, -⟩ := runCheck_linesTell hplain (filesOf brokenText forgingText) reportOptions
  obtain ⟨r, hcompletes, hlines⟩ := forgingFiles_completes
  have htold := htells r hcompletes
  exact ⟨hplain, r, hcompletes, htold.statements.trans hlines, htold⟩

end InfoFlow.CommandLine
