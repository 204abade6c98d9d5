import InfoFlow.Proofs.Command.Completion
import InfoFlow.Proofs.Evaluation.Wording
import InfoFlow.Proofs.Files
import InfoFlow.Proofs.Loading
import InfoFlow.Proofs.Run.Journal
import InfoFlow.Proofs.Run.Verdicts
/-!
# What a check tells

A completed check tells of its verdicts three times: by the lines that it writes, by the file of its
report and by its status. All three are made from one report, the lines are written as they are
because every character of them prints, and the file is read back as what was written.
-/

namespace InfoFlow

/-! ## Reports as documents -/

/-- An item of a document is about a verdict: it names the statement and tells whether it holds. -/
def ItemTells (item : Value) (v : Verdict) : Prop :=
  ∃ table passed, item = .table table ∧
    Keyed.get? table "statement" = some (.text v.statement) ∧
    Keyed.get? table "passed" = some (.bool passed) ∧ (passed = true ↔ v.violations = [])

/-- A document is about some verdicts, in order, and tells whether all is well. -/
def DocumentTells (document : Value) (well : Prop) (vs : List Verdict) : Prop :=
  ∃ table passed results, document = .table table ∧
    Keyed.get? table "passed" = some (.bool passed) ∧ (passed = true ↔ well) ∧
    Keyed.get? table "results" = some (.list results) ∧ List.Forall₂ ItemTells results vs

theorem Violation.legible_toValue (v : Violation) (room : Nat) :
    Json.Legible (room + 1) v.toValue := by
  have hdistinct : ["kind", "source", "destination", "detail"].Nodup := by decide
  refine .table hdistinct ?_
  simp only [List.forall_mem_cons, List.not_mem_nil, false_implies, implies_true, and_true]
  refine ⟨.text _, .text _, ?_, .text _⟩
  cases v.shownDestination with
  | none => exact .null
  | some d => exact .text _

namespace Verdict

variable {v : Verdict}

theorem distinct_keys : ["statement", "passed", "violations"].Nodup := by decide

theorem passed_iff : v.passed = true ↔ v.violations = [] := List.isEmpty_iff

theorem legible_toValue (v : Verdict) (room : Nat) : Json.Legible (room + 3) v.toValue := by
  refine .table distinct_keys ?_
  simp only [List.forall_mem_cons, List.not_mem_nil, false_implies, implies_true, and_true]
  refine ⟨.text _, .bool _, .list fun w hw => ?_⟩
  obtain ⟨violation, -, rfl⟩ := List.mem_map.1 hw
  exact violation.legible_toValue room

theorem itemTells (v : Verdict) : ItemTells (Json.ordered v.toValue) v := by
  obtain ⟨table, htable, hget⟩ := Json.ordered_table_get? [("statement", .text v.statement),
    ("passed", .bool v.passed), ("violations", .list (v.violations.map Violation.toValue))]
    distinct_keys
  exact ⟨table, v.passed, htable, hget "statement", hget "passed", passed_iff⟩

end Verdict

namespace Report

variable {r : Report}

theorem distinct_keys : ["policy", "passed", "results"].Nodup := by decide

theorem legible_toValue {name : String} (hname : r.policy = .text name) (room : Nat) :
    Json.Legible (room + 5) r.toValue := by
  refine .table distinct_keys ?_
  simp only [List.forall_mem_cons, List.not_mem_nil, false_implies, implies_true, and_true]
  refine ⟨?_, .bool _, .list fun w hw => ?_⟩
  · rw [hname]
    exact .text name
  · obtain ⟨v, -, rfl⟩ := List.mem_map.1 hw
    exact v.legible_toValue room

theorem documentTells (r : Report) :
    DocumentTells (Json.ordered r.toValue) (r.passed = true) r.verdicts := by
  obtain ⟨table, htable, hget⟩ := Json.ordered_table_get? [("policy", r.policy),
    ("passed", .bool r.passed), ("results", .list (r.verdicts.map Verdict.toValue))] distinct_keys
  refine ⟨table, r.passed, _, htable, hget "passed", Iff.rfl, hget "results", ?_⟩
  rw [Json.orderedItems_eq_map, List.map_map, List.forall₂_map_left_iff, List.forall₂_same]
  exact fun v _ => v.itemTells

/-- A report has five levels, and is read back wherever there is room for them. -/
theorem read_reportText {name : String} (hname : r.policy = .text name) :
    ∃ text document, String.fromUTF8? (CommandLine.reportText r).toUTF8 = some text ∧
      (∀ room, 5 ≤ room → Json.read room text.toList = .ok document) ∧
      DocumentTells document (r.passed = true) r.verdicts := by
  refine ⟨CommandLine.reportText r, Json.ordered r.toValue, fromUTF8?_toUTF8 _, ?_,
    documentTells r⟩
  intro room hroom
  obtain ⟨more, rfl⟩ := Nat.exists_eq_add_of_le' hroom
  unfold CommandLine.reportText
  rw [String.toList_append]
  exact Json.read_indented (legible_toValue hname more) 0 (List.forall_mem_singleton.2 rfl)

end Report

namespace CommandLine

variable {host : Host} {fs : Files} {o : CheckOptions} {r : Report}

/-! ## Lines -/

/-- The line about a verdict. -/
def verdictLine (v : Verdict) : String :=
  if v.passed then "PASS " ++ v.statement else "FAIL " ++ v.statement ++ ": " ++ v.message

/-- A line says that a statement holds. -/
def IsPass (line : String) : Prop := "PASS ".toList <+: line.toList

/-- A line says that a statement fails. -/
def IsFail (line : String) : Prop := "FAIL ".toList <+: line.toList

instance (line : String) : Decidable (IsPass line) := inferInstanceAs (Decidable (_ <+: _))

instance (line : String) : Decidable (IsFail line) := inferInstanceAs (Decidable (_ <+: _))

/-- The lines about statements among those that a command writes. -/
def Output.statementLines (x : Output) : List String :=
  x.out.filter fun line => IsPass line ∨ IsFail line

/-- A line tells a verdict: that the statement holds if there is no violation, and else that it
fails, with the message. -/
structure TellsVerdict (line : String) (v : Verdict) : Prop where
  passed : line = "PASS " ++ v.statement ↔ v.violations = []
  failed : line = "FAIL " ++ v.statement ++ ": " ++ v.message ↔ v.violations ≠ []

theorem isPass_append (s : String) : IsPass ("PASS " ++ s) := by
  unfold IsPass
  rw [String.toList_append]
  exact List.prefix_append _ _

theorem isFail_append (s : String) : IsFail ("FAIL " ++ s) := by
  unfold IsFail
  rw [String.toList_append]
  exact List.prefix_append _ _

theorem not_isFail_of_isPass {line : String} (h : IsPass line) : ¬IsFail line := by
  obtain ⟨rest, hline⟩ := h
  rintro ⟨rest', hline'⟩
  rw [← hline] at hline'
  exact absurd (List.cons.inj hline').1 (by decide)

theorem isPass_verdictLine {v : Verdict} (h : v.passed = true) : IsPass (verdictLine v) := by
  unfold verdictLine
  rw [if_pos h]
  exact isPass_append _

theorem isFail_verdictLine {v : Verdict} (h : v.passed = false) : IsFail (verdictLine v) := by
  unfold verdictLine
  rw [if_neg (Bool.eq_false_iff.1 h), String.append_assoc, String.append_assoc]
  exact isFail_append _

theorem isPass_verdictLine_iff {v : Verdict} : IsPass (verdictLine v) ↔ v.passed = true := by
  cases h : v.passed with
  | true => exact iff_of_true (isPass_verdictLine h) rfl
  | false =>
    exact iff_of_false (fun hpass => not_isFail_of_isPass hpass (isFail_verdictLine h))
      Bool.false_ne_true

theorem isFail_verdictLine_iff {v : Verdict} : IsFail (verdictLine v) ↔ v.passed = false := by
  cases h : v.passed with
  | true => exact iff_of_false (not_isFail_of_isPass (isPass_verdictLine h)) nofun
  | false => exact iff_of_true (isFail_verdictLine h) rfl

theorem tellsVerdict_verdictLine (v : Verdict) : TellsVerdict (verdictLine v) v := by
  have hfail : IsFail ("FAIL " ++ v.statement ++ ": " ++ v.message) := by
    rw [String.append_assoc, String.append_assoc]
    exact isFail_append _
  constructor
  · rw [← Verdict.passed_iff, ← isPass_verdictLine_iff]
    constructor
    · intro hline
      rw [hline]
      exact isPass_append _
    · intro hpass
      unfold verdictLine
      rw [if_pos (isPass_verdictLine_iff.1 hpass)]
  · rw [ne_eq, ← Verdict.passed_iff, Bool.not_eq_true, ← isFail_verdictLine_iff]
    constructor
    · intro hline
      rw [hline]
      exact hfail
    · intro hfailed
      unfold verdictLine
      rw [if_neg (Bool.eq_false_iff.1 (isFail_verdictLine_iff.1 hfailed))]

theorem outcomeLine_not_statement (hplain : WritesPlain host) (r : Report) :
    ¬(IsPass (host.out (outcomeLine r)) ∨ IsFail (host.out (outcomeLine r))) := by
  have hline : ∃ rest, (host.out (outcomeLine r)).toList = 'P' :: 'o' :: rest := by
    unfold outcomeLine
    rw [String.append_assoc, hplain.out.append (by decide), String.toList_append]
    exact ⟨_, rfl⟩
  obtain ⟨rest, hrest⟩ := hline
  unfold IsPass IsFail
  rw [hrest]
  -- the second letter is not that of one word, and the first not that of the other
  rintro (⟨tail, h⟩ | ⟨tail, h⟩)
  · exact absurd (List.cons.inj (List.cons.inj h).2).1 (by decide)
  · exact absurd (List.cons.inj h).1 (by decide)

/-- The texts of the verdicts of a report print. -/
def Worded (r : Report) : Prop :=
  ∀ v ∈ r.verdicts, Text.Prints v.statement ∧ Text.Prints v.message

theorem Worded.prints_verdictLine (h : Worded r) {v : Verdict} (hv : v ∈ r.verdicts) :
    Text.Prints (verdictLine v) := by
  obtain ⟨hname, hmessage⟩ := h v hv
  unfold verdictLine
  split
  · exact Text.Prints.append (by decide) hname
  · exact ((Text.Prints.append (by decide) hname).append (by decide)).append hmessage

/-- The entries of the journal are about the verdicts. -/
theorem entryLines_eq (hplain : WritesPlain host) (h : Worded r) :
    entryLines host r = r.verdicts.map verdictLine := by
  unfold entryLines Report.entries
  rw [List.map_map]
  apply List.map_congr_left
  intro v hv
  exact hplain.out.eq_of_prints (h.prints_verdictLine hv)

/-- What a check writes besides the lines about its verdicts is about no statement. -/
theorem statementLines_eq (hplain : WritesPlain host) (h : Worded r) {x : Output}
    {last : List String} (hout : x.out = entryLines host r ++ last)
    (hlast : last = [] ∨ last = [host.out (outcomeLine r)]) :
    x.statementLines = r.verdicts.map verdictLine := by
  have hverdicts : (entryLines host r).filter (fun line => IsPass line ∨ IsFail line) =
      r.verdicts.map verdictLine := by
    rw [entryLines_eq hplain h, List.filter_eq_self]
    intro line hline
    obtain ⟨v, -, rfl⟩ := List.mem_map.1 hline
    rw [decide_eq_true_eq, isPass_verdictLine_iff, isFail_verdictLine_iff]
    cases v.passed with
    | true => exact .inl rfl
    | false => exact .inr rfl
  have hnone : last.filter (fun line => IsPass line ∨ IsFail line) = [] := by
    rcases hlast with rfl | rfl
    · exact List.filter_nil
    · rw [List.filter_cons_of_neg, List.filter_nil]
      rw [decide_eq_true_eq]
      exact outcomeLine_not_statement hplain r
  unfold Output.statementLines
  rw [hout, List.filter_append, hverdicts, hnone, List.append_nil]

/-- A policy that passes has one more line than verdicts. -/
theorem concluded_out (host : Host) (after : Files) (log : List String) (r : Report) :
    ∃ last, (concluded host after log r).out = entryLines host r ++ last ∧
      (last = [] ∨ last = [host.out (outcomeLine r)]) := by
  unfold concluded
  cases r.passed with
  | true => exact ⟨_, rfl, .inr rfl⟩
  | false => exact ⟨[], (List.append_nil _).symm, .inl rfl⟩

theorem statementLines_concluded (hplain : WritesPlain host) (h : Worded r) (after : Files)
    (log : List String) :
    (concluded host after log r).statementLines = r.verdicts.map verdictLine := by
  obtain ⟨last, hout, hlast⟩ := concluded_out host after log r
  exact statementLines_eq hplain h hout hlast

/-! ## Completed checks -/

theorem ReadsSettings.unique {settings settings' : Settings} (h : ReadsSettings host fs o settings)
    (h' : ReadsSettings host fs o settings') : settings = settings' := by
  obtain ⟨c, level, hc, hread⟩ := h
  obtain ⟨c', level', hc', hread'⟩ := h'
  obtain rfl := Except.ok.inj (hc.symm.trans hc')
  exact (Prod.mk.inj (Except.ok.inj (hread.symm.trans hread'))).2

theorem ReadsPolicy.unique {p p' : Policy} (h : ReadsPolicy host fs o p)
    (h' : ReadsPolicy host fs o p') : p = p' := by
  rw [← policyOf_eq_ok] at h h'
  exact Except.ok.inj (h.symm.trans h')

theorem ReadsGraph.unique {g g' : Graph} (h : ReadsGraph host fs o g)
    (h' : ReadsGraph host fs o g') : g = g' := Except.ok.inj (h.symm.trans h')

/-- The report is about the statements that are declared. -/
theorem Completes.verdictsOf (h : Completes host fs o r) {settings : Settings} {p : Policy}
    {g : Graph} (hsettings : ReadsSettings host fs o settings) (hp : ReadsPolicy host fs o p)
    (hg : ReadsGraph host fs o g) : settings.VerdictsOf g p.statements r.verdicts := by
  obtain ⟨hsettings', hp', hg', -, hyields⟩ := h
  obtain rfl := hsettings.unique hsettings'
  obtain rfl := hp.unique hp'
  obtain rfl := hg.unique hg'
  exact Session.report_verdictsOf rfl (Session.yields_iff.1 hyields)

/-- A run that ends with the first failure has it in its last verdict, if there is one. -/
theorem Completes.passed_of_failFast (h : Completes host fs o r) {settings : Settings}
    (hsettings : ReadsSettings host fs o settings) (hfast : settings.mode = .failFast) :
    ∀ v ∈ r.verdicts.dropLast, v.passed = true := by
  have hcompleted := h
  obtain ⟨-, hp, hg, -, -⟩ := hcompleted
  apply (h.verdictsOf hsettings hp hg).passed
  unfold Settings.exhaustive
  rw [hfast]
  rfl

theorem Completes.worded (h : Completes host fs o r) : Worded r := by
  obtain ⟨-, ⟨bytes, cs, -, -, -, hparse⟩, -, -, hyields⟩ := h
  intro v hv
  obtain ⟨g, -, s, hs, hresult⟩ := Session.exists_evaluate (Session.yields_iff.1 hyields) hv
  exact (Policy.prints_of_parse hparse hs hresult).2

theorem Completes.policy_eq (h : Completes host fs o r) : r.policy = .text (policyName o) := by
  obtain ⟨-, ⟨bytes, cs, -, -, -, hparse⟩, -, -, hyields⟩ := h
  obtain ⟨-, -, -, -, hname, -⟩ := Policy.parse_eq_ok.1 hparse
  rw [(Session.report_eq_ok.1 (Session.yields_iff.1 hyields)).1, hname]

/-- What a completed check writes of its verdicts, keeps of them in a file, and ends with. -/
structure OutputsAgree (host : Host) (fs : Files) (o : CheckOptions) (r : Report) (x : Output) :
    Prop where
  /-- The verdicts are on the statements of the policy, in their order. -/
  declared : ∀ settings p g, ReadsSettings host fs o settings → ReadsPolicy host fs o p →
    ReadsGraph host fs o g → settings.VerdictsOf g p.statements r.verdicts
  lines : List.Forall₂ TellsVerdict x.statementLines r.verdicts
  /-- Only the last line can be about a failure if the first one ends the run. -/
  failFast : ∀ settings, ReadsSettings host fs o settings → settings.mode = .failFast →
    ∀ line ∈ x.statementLines.dropLast, IsPass line
  passes : x.ending = .exit 0 ↔ ∀ line ∈ x.statementLines, IsPass line
  fails : x.ending = .exit 1 ↔ ∃ line ∈ x.statementLines, IsFail line
  ends : x.ending = .exit 0 ∨ x.ending = .exit 1
  /-- The file is there unless its path leads to the file that is always empty, and is read back
  wherever there is room for its five levels. -/
  report : ∀ path, o.report = some path → ∃ bytes text document,
    fs.writeBelow path bytes = .ok x.files ∧
      (x.files.read path = .ok bytes ∨
        x.files.find path = .ok (Files.emptyFile, .file .empty)) ∧
      String.fromUTF8? bytes = some text ∧
      (∀ room, 5 ≤ room → Json.read room text.toList = .ok document) ∧
      DocumentTells document (x.ending = .exit 0) r.verdicts

theorem concluded_files (host : Host) (after : Files) (log : List String) (r : Report) :
    (concluded host after log r).files = after := by
  unfold concluded
  cases r.passed <;> rfl

theorem concluded_passes (host : Host) (after : Files) (log : List String) (r : Report) :
    (concluded host after log r).ending = .exit 0 ↔ r.passed = true := by
  rw [concluded_ending]
  cases r.passed with
  | true => exact iff_of_true rfl rfl
  | false => exact iff_of_false (by simp [statusViolated]) nofun

theorem concluded_fails (host : Host) (after : Files) (log : List String) (r : Report) :
    (concluded host after log r).ending = .exit 1 ↔ r.passed = false := by
  rw [concluded_ending]
  cases r.passed with
  | true => exact iff_of_false (by simp [statusPassed]) nofun
  | false => exact iff_of_true rfl rfl

theorem outputsAgree_concluded (hplain : WritesPlain host) (h : Completes host fs o r)
    {after : Files} (hleaves : Leaves fs o r after) (log : List String) :
    OutputsAgree host fs o r (concluded host after log r) := by
  have hlines := statementLines_concluded hplain h.worded after log
  refine ⟨fun _ _ _ hsettings hp hg => h.verdictsOf hsettings hp hg, ?_,
    fun settings hsettings hfast => ?_, ?_, ?_, ?_, fun path hpath => ?_⟩
  · rw [hlines, List.forall₂_map_left_iff, List.forall₂_same]
    exact fun v _ => tellsVerdict_verdictLine v
  · intro line hline
    rw [hlines, ← List.map_dropLast] at hline
    obtain ⟨v, hv, rfl⟩ := List.mem_map.1 hline
    exact isPass_verdictLine (h.passed_of_failFast hsettings hfast v hv)
  -- lines, verdicts and status are compared by way of the report
  · rw [hlines, concluded_passes, List.forall_mem_map, ← all_passed_iff]
    simp only [isPass_verdictLine_iff]
  · rw [hlines, concluded_fails, ← exists_failed_iff]
    simp only [List.mem_map, exists_exists_and_eq_and, isFail_verdictLine_iff]
  · rw [concluded_passes, concluded_fails]
    cases r.passed with
    | true => exact .inl rfl
    | false => exact .inr rfl
  · unfold Leaves at hleaves
    rw [hpath] at hleaves
    obtain ⟨text, document, htext, hread, htells⟩ := Report.read_reportText h.policy_eq
    rw [concluded_files, concluded_passes]
    exact ⟨_, text, document, hleaves, Files.read_writeBelow hleaves, htext, hread, htells⟩

/-! ## Every check -/

/-- A check that ends in an error has written no line, and leaves the files as they were. -/
theorem runCheck_of_error (h : (runCheck host fs o).ending = .exit 2) :
    (runCheck host fs o).out = [] ∧ (runCheck host fs o).files = fs := by
  cases hreport : (checked host fs o).report with
  | error e =>
    rw [runCheck_of_stop hreport]
    cases e <;> exact ⟨rfl, rfl⟩
  | ok r =>
    by_cases hwrite : Unwritable fs o r
    · obtain ⟨f, hout⟩ := runCheck_of_unwritable hreport hwrite
      rw [hout] at h
      exact nomatch h
    · obtain ⟨after, -, hout⟩ := runCheck_of_report hreport hwrite
      rw [hout, concluded_ending] at h
      cases hpassed : r.passed with
      | true =>
        rw [hpassed] at h
        exact absurd (Ending.exit.inj h) (by decide)
      | false =>
        rw [hpassed] at h
        exact absurd (Ending.exit.inj h) (by decide)

/-- The lines, the report and the status of a check that is completed agree, if the report can be
written; a check that ends in an error tells of no statement and writes no report. -/
theorem runCheck_outputsAgree (hplain : WritesPlain host) (fs : Files) (o : CheckOptions) :
    (∀ r, Completes host fs o r → ¬Unwritable fs o r →
      OutputsAgree host fs o r (runCheck host fs o)) ∧
    ((runCheck host fs o).ending = .exit 2 →
      (runCheck host fs o).out = [] ∧ (runCheck host fs o).files = fs) := by
  refine ⟨fun r hr hwrite => ?_, runCheck_of_error⟩
  obtain ⟨after, hleaves, hout⟩ := runCheck_of_report (checked_report_eq_ok.2 hr) hwrite
  rw [hout]
  exact outputsAgree_concluded hplain hr hleaves _

/-! ## Two checks -/

/-- A check that is asked for a report. -/
def reportOptions : CheckOptions := { plainOptions with report := some ⟨"", ["out", "r"]⟩ }

/-- Two nodes with a marker each, and no edge. -/
def partedText : String :=
  "\x7b\"controllers\": \x7b\"c\": [\"x\", \"y\"]\x7d, " ++
    "\"markers\": \x7b\"x\": [\"a\"], \"y\": [\"b\"]\x7d\x7d"

def partedGraph : Graph where
  controllers := [("c", [.text "x", .text "y"])]
  labels := [(.text "x", [⟨"a", by decide⟩]), (.text "y", [⟨"b", by decide⟩])]
  edges := []
  declared := [⟨"a", by decide⟩, ⟨"b", by decide⟩]

/-- The second statement fails. -/
def brokenText : String := "held: some a flows to some b. broken: all a flows to some b."

/-- The second statement has a marker that is not declared. -/
def lateText : String := "held: some a flows to some b. late: some a flows to some c."

/-- A policy and the text of a graph, and no other files. -/
def filesOf (policy graph : String) : Files where
  entries := [(["p"], .file policy.toUTF8), (["g"], .file graph.toUTF8)]

theorem reportOptions_readsNoNull : Command.ReadsNoNull reportOptions :=
  ⟨plainOptions_readsNoNull.policy, plainOptions_readsNoNull.graph,
    plainOptions_readsNoNull.config⟩

theorem filesOf_settings (policy graph : String) :
    ReadsSettings usualHost (filesOf policy graph) reportOptions {} := by
  have hconfig : (filesOf policy graph).read (configPath reportOptions) = .error .notFound := by
    rw [Files.read, Files.find, reportOptions_readsNoNull.config]
    rfl
  exact ⟨[], 30, (readsConfig_of_notFound hconfig).2 rfl, rfl⟩

theorem filesOf_policy {policy : String} {p : Policy} (hlines : '\r' ∉ policy.toList)
    (h : Policy.parse policy (.text "p") = .ok p) (graph : String) :
    ReadsPolicy usualHost (filesOf policy graph) reportOptions p := by
  have hread : (filesOf policy graph).read reportOptions.policy = .ok policy.toUTF8 := by
    rw [Files.read, Files.find, reportOptions_readsNoNull.policy]
    rfl
  have hname : policyName reportOptions = "p" := by decide +kernel
  refine ⟨policy.toUTF8, policy.toList, hread, decodeText_toUTF8 hlines, rfl, ?_⟩
  rw [String.ofList_toList, hname]
  exact h

theorem filesOf_graph {graph : String} {document : Value} {g : Graph}
    (hlines : '\r' ∉ graph.toList) (hdocument : Json.read 900 graph.toList = .ok document)
    (h : Graph.ofSnapshot document = .ok g) (policy : String) :
    ReadsGraph usualHost (filesOf policy graph) reportOptions g := by
  have hread : (filesOf policy graph).read reportOptions.graph = .ok graph.toUTF8 := by
    rw [Files.read, Files.find, reportOptions_readsNoNull.graph]
    rfl
  have hvalue : (decodeText graph.toUTF8).bind (Json.read 900) = .ok document := by
    rw [decodeText_toUTF8 hlines]
    exact hdocument
  unfold ReadsGraph
  rw [hread, show usualHost.graphRoom = 900 from rfl, Graph.ofContents_of_ok hvalue, h]
  rfl

theorem filesOf_completes {policy graph : String} {p : Policy} {g : Graph}
    (hlines : '\r' ∉ policy.toList) (hp : Policy.parse policy (.text "p") = .ok p)
    (hg : ReadsGraph usualHost (filesOf policy graph) reportOptions g)
    (hr : (({ graph := some g } : Session).report p).result = .ok r) :
    Completes usualHost (filesOf policy graph) reportOptions r :=
  .intro (filesOf_settings policy graph) (filesOf_policy hlines hp graph) hg rfl
    (Session.yields_iff.2 hr)

theorem partedText_graph (policy : String) :
    ReadsGraph usualHost (filesOf policy partedText) reportOptions partedGraph := by
  have hdocument : Json.read 900 partedText.toList = .ok (.table [
      ("controllers", .table [("c", .list [.text "x", .text "y"])]),
      ("markers", .table [("x", .list [.text "a"]), ("y", .list [.text "b"])])]) := rfl
  exact filesOf_graph (by decide +kernel) hdocument rfl policy

theorem filesOf_writable (policy graph : String) (r : Report) :
    ¬Unwritable (filesOf policy graph) reportOptions r := by
  rintro ⟨path, f, hpath, hwrite⟩
  obtain rfl := Option.some.inj hpath
  have hwritten (contents : ByteArray) :
      ((filesOf policy graph).writeBelow ⟨"", ["out", "r"]⟩ contents).toOption.isSome = true := rfl
  have hnone := hwritten (reportText r).toUTF8
  rw [hwrite] at hnone
  exact nomatch hnone

theorem brokenText_completes :
    ∃ r, Completes usualHost (filesOf brokenText partedText) reportOptions r ∧
      r.verdicts.map (fun v => (v.statement, v.passed)) =
        [("held", true), ("broken", false)] := by
  have hrun : (Policy.parse brokenText (.text "p")).toOption.map (fun p =>
      (({ graph := some partedGraph } : Session).report p).result.toOption.map fun r =>
        r.verdicts.map fun v => (v.statement, v.passed)) =
      some (some [("held", true), ("broken", false)]) := by decide +kernel
  obtain ⟨p, hp, hreport⟩ := Policy.toOption_map_eq_some.1 hrun
  obtain ⟨r, hr, hverdicts⟩ := Policy.toOption_map_eq_some.1 hreport
  exact ⟨r, filesOf_completes (by decide +kernel) hp (partedText_graph brokenText) hr, hverdicts⟩

theorem lateText_ending :
    (runCheck usualHost (filesOf lateText partedText) reportOptions).ending = .exit 2 := by
  have hrun : (Policy.parse lateText (.text "p")).toOption.map (fun p =>
      (({ graph := some partedGraph } : Session).report p).result.toOption.isNone) =
      some true := by decide +kernel
  obtain ⟨p, hp, hnone⟩ := Policy.toOption_map_eq_some.1 hrun
  have hread := filesOf_policy (by decide +kernel) hp partedText
  obtain ⟨level, hreport⟩ :=
    checked_report_of_reads (filesOf_settings lateText partedText) hread (partedText_graph lateText)
  rw [evaluate_report rfl] at hreport
  cases hresult : (({ graph := some partedGraph } : Session).report p).result with
  | ok r =>
    rw [hresult] at hnone
    exact nomatch hnone
  | error f =>
    -- what stops the evaluation is an unknown marker, which is reported
    obtain ⟨st, hst, hfault⟩ := Session.exists_fault rfl hresult
    have hanswers := Policy.parse_answers hp hst partedGraph
    have htells := (Statement.evaluate_fault_iff hanswers _).1 hfault
    obtain ⟨-, m, -, rfl⟩ := htells
    rw [hresult] at hreport
    rw [runCheck_of_stop hreport]
    rfl

/-- A policy of which one statement holds and one fails is told of in all three ways; one whose
second statement cannot be evaluated is not told of at all. -/
theorem brokenText_outputsAgree :
    WritesPlain usualHost ∧
      (∃ r, Completes usualHost (filesOf brokenText partedText) reportOptions r ∧
        ¬Unwritable (filesOf brokenText partedText) reportOptions r ∧
        r.verdicts.map (fun v => (v.statement, v.passed)) = [("held", true), ("broken", false)] ∧
        OutputsAgree usualHost (filesOf brokenText partedText) reportOptions r
          (runCheck usualHost (filesOf brokenText partedText) reportOptions)) ∧
      (runCheck usualHost (filesOf lateText partedText) reportOptions).ending = .exit 2 ∧
      (runCheck usualHost (filesOf lateText partedText) reportOptions).out = [] ∧
      (runCheck usualHost (filesOf lateText partedText) reportOptions).files =
        filesOf lateText partedText := by
  have hplain : WritesPlain usualHost := withRoom_writesPlain 900
  obtain ⟨hagree, -⟩ :=
    runCheck_outputsAgree hplain (filesOf brokenText partedText) reportOptions
  obtain ⟨-, herror⟩ := runCheck_outputsAgree hplain (filesOf lateText partedText) reportOptions
  obtain ⟨r, hcompletes, hverdicts⟩ := brokenText_completes
  have hwrite := filesOf_writable brokenText partedText r
  exact ⟨hplain, ⟨r, hcompletes, hwrite, hverdicts, hagree r hcompletes hwrite⟩, lateText_ending,
    herror lateText_ending⟩

end CommandLine

end InfoFlow
