import InfoFlow.Proofs.Command.Arguments
import InfoFlow.Proofs.Loading
import InfoFlow.Proofs.Run.Faults
import InfoFlow.Proofs.Text.Terminal
/-!
# When a check is completed

A check is completed when its configuration, its settings, its policy and its graph are read and
the evaluation comes to a report. What stops it on the way is reported, unless it is a fault that
nothing is ready for: bytes that are not UTF-8, a numeral that is too long, a setting whose fault
cannot be worded, or a stack that overflows, be it of a document, of a policy, of a value that is
quoted or of the evaluation. Then the status is that of a violation, as it is when the report on a
policy that holds cannot be written. All this holds on any host that writes what has no terminal
sequence in it as it is; a graph whose document holds half a character is set apart.
-/

namespace InfoFlow

/-! ## Crashes -/

/-- Something stops a command that is not reported. -/
def IsCrash {α : Type} (x : Except Stop α) : Prop := ∃ c, x = .error (.crash c)

section IsCrash

variable {α β ε : Type}

theorem isCrash_bind {x : Except Stop α} {f : α → Except Stop β} :
    IsCrash (x >>= f) ↔ IsCrash x ∨ ∃ a, x = .ok a ∧ IsCrash (f a) := by
  cases x with
  | error e =>
    constructor
    · rintro ⟨c, hc⟩
      exact .inl ⟨c, congrArg Except.error (Except.error.inj hc)⟩
    · rintro (⟨c, hc⟩ | ⟨_, ha, -⟩)
      · exact ⟨c, congrArg Except.error (Except.error.inj hc)⟩
      · exact nomatch ha
  | ok a =>
    constructor
    · exact fun h => .inr ⟨a, rfl, h⟩
    · rintro (⟨_, hc⟩ | ⟨_, ha, h⟩)
      · exact nomatch hc
      · rw [Except.ok.inj ha]
        exact h

theorem isCrash_mapError {x : Except ε α} {f : ε → Stop} :
    IsCrash (x.mapError f) ↔ ∃ e c, x = .error e ∧ f e = .crash c := by
  cases x with
  | ok a => exact iff_of_false nofun fun ⟨_, _, h, _⟩ => nomatch h
  | error e =>
    constructor
    · rintro ⟨c, hc⟩
      exact ⟨e, c, rfl, Except.error.inj hc⟩
    · rintro ⟨_, c, he, hc⟩
      rw [← Except.error.inj he] at hc
      exact ⟨c, congrArg Except.error hc⟩

end IsCrash

namespace CommandLine

variable {host : Host} {fs : Files} {o : CheckOptions}

/-! ## What a check reads -/

/-- A host writes a text as it is up to the first character that may start a terminal sequence. -/
structure WritesPlain (host : Host) : Prop where
  out : Text.KeepsPlain host.out
  err : Text.KeepsPlain host.err

/-- The level and the settings that the options and a configuration give. -/
def readSettings (o : CheckOptions) (c : Config) : Except SettingFault (Nat × Settings) := do
  let level ← if o.verbose then pure verboseLevel else levelOfTable c.logging defaultLevel
  let settings ← Settings.ofTable (mergeOptions (optionTable o) c.runner)
  return (level, settings)

/-- The name of the policy of a check: the one that is given, or else the stem of its path. -/
def policyName (o : CheckOptions) : String :=
  if o.name.getD "" = "" then o.policy.stem else o.name.getD ""

/-- The configuration is in its file, or empty without one. -/
def ReadsConfig (host : Host) (fs : Files) (o : CheckOptions) (c : Config) : Prop :=
  Config.ofContents host.configRoom (configPath o) (fs.read (configPath o)) = .ok c

/-- Options and configuration give settings. -/
def ReadsSettings (host : Host) (fs : Files) (o : CheckOptions) (settings : Settings) : Prop :=
  ∃ c level, ReadsConfig host fs o c ∧ readSettings o c = .ok (level, settings)

/-- The policy is in its file, and the stack holds while it is parsed. -/
def ReadsPolicy (host : Host) (fs : Files) (o : CheckOptions) (p : Policy) : Prop :=
  ∃ bytes cs, fs.read o.policy = .ok bytes ∧ decodeText bytes = .ok cs ∧
    host.parses (String.ofList cs) = true ∧
    Policy.parse (String.ofList cs) (.text (policyName o)) = .ok p

/-- The graph is in its file. -/
def ReadsGraph (host : Host) (fs : Files) (o : CheckOptions) (g : Graph) : Prop :=
  Graph.ofContents host.graphRoom o.graph (fs.read o.graph) = .ok g

/-- Everything is read, the stack holds, and the evaluation comes to a report, whatever the workers
do. -/
inductive Completes (host : Host) (fs : Files) (o : CheckOptions) (r : Report) : Prop where
  | intro {settings : Settings} {p : Policy} {g : Graph}
    (settings_read : ReadsSettings host fs o settings) (policy_read : ReadsPolicy host fs o p)
    (graph_read : ReadsGraph host fs o g) (holds : host.exhausts settings p g = none)
    (yields : ({ graph := some g, settings } : Session).Yields p (.ok r))

/-! ## What nothing is ready for -/

/-- A document is not read for another reason than that it breaks its format. -/
def Baffles {α : Type} (read : List Char → Except DocumentFault α) (bytes : ByteArray) : Prop :=
  ∃ f, (decodeText bytes).bind read = .error f ∧ f ≠ .malformed

/-- The value that the wording of a fault quotes has an integer that is too long to be written, or
the stack overflows while it is quoted. -/
def Unworded (host : Host) (f : SettingFault) : Prop :=
  f.isWorded = false ∨ ∃ v, f.got? = some v ∧ host.quotes v = false

/-- The first thing that goes wrong in a check is one that nothing is ready for. -/
inductive Unforeseen (host : Host) (fs : Files) (o : CheckOptions) : Prop where
  | config {bytes : ByteArray} (found : fs.read (configPath o) = .ok bytes)
    (baffles : Baffles (Toml.read host.configRoom) bytes)
  | setting {c : Config} {f : SettingFault} (config_read : ReadsConfig host fs o c)
    (fault : readSettings o c = .error f) (unworded : Unworded host f)
  | policy {settings : Settings} {bytes : ByteArray}
    (settings_read : ReadsSettings host fs o settings)
    (found : fs.read o.policy = .ok bytes) (not_text : String.fromUTF8? bytes = none)
  | parsing {settings : Settings} {bytes : ByteArray} {cs : List Char}
    (settings_read : ReadsSettings host fs o settings)
    (found : fs.read o.policy = .ok bytes) (decoded : decodeText bytes = .ok cs)
    (overflows : host.parses (String.ofList cs) = false)
  | graph {settings : Settings} {p : Policy} {bytes : ByteArray}
    (settings_read : ReadsSettings host fs o settings) (policy_read : ReadsPolicy host fs o p)
    (found : fs.read o.graph = .ok bytes) (baffles : Baffles (Json.read host.graphRoom) bytes)
    (spelled : Graph.IsSpelled host.graphRoom o.graph (fs.read o.graph))
  | evaluation {settings : Settings} {p : Policy} {g : Graph}
    (settings_read : ReadsSettings host fs o settings) (policy_read : ReadsPolicy host fs o p)
    (graph_read : ReadsGraph host fs o g) (overflows : host.exhausts settings p g ≠ none)

/-- The file that is asked for cannot be written. -/
def Unwritable (fs : Files) (o : CheckOptions) (r : Report) : Prop :=
  ∃ path f, o.report = some path ∧ fs.writeBelow path (reportText r).toUTF8 = .error f

/-! ## Each part -/

/-- What the system finds about a file is reported. -/
theorem not_isCrash_stopOfFile {α : Type} {f : FileFault} (h : f ≠ .nullInPath)
    (message : String) : ¬IsCrash (.error (stopOfFile f message) : Except Stop α) := by
  unfold stopOfFile
  rw [if_neg h]
  rintro ⟨c, hc⟩
  exact nomatch hc

/-- Only a broken format is reported of a document. -/
theorem stopOfDocument_eq_crash {f : DocumentFault} {message : String} :
    (∃ c, stopOfDocument f message = .crash c) ↔ f ≠ .malformed := by
  unfold stopOfDocument
  by_cases hf : f = .malformed
  · rw [if_pos hf]
    exact iff_of_false nofun (not_not_intro hf)
  · rw [if_neg hf]
    exact iff_of_true ⟨_, rfl⟩ hf

theorem isCrash_stopOfDocument {α : Type} {f : DocumentFault} {message : String} :
    IsCrash (.error (stopOfDocument f message) : Except Stop α) ↔ f ≠ .malformed := by
  unfold IsCrash
  simp only [Except.error.injEq]
  exact stopOfDocument_eq_crash

theorem stopOfSetting_eq_crash {f : SettingFault} :
    (∃ c, stopOfSetting host f = .crash c) ↔ Unworded host f := by
  unfold stopOfSetting Unworded
  cases f.isWorded with
  | false => exact iff_of_true ⟨_, rfl⟩ (.inl rfl)
  | true =>
    cases f.got? with
    | none => exact iff_of_false nofun (by simp)
    | some v => cases hquotes : host.quotes v <;> simp [hquotes]

theorem configOf_eq_ok {c : Config} :
    configOf host (configPath o) (fs.read (configPath o)) = .ok c ↔ ReadsConfig host fs o c :=
  Policy.mapError_eq_ok

theorem isCrash_configOf (hnull : (configPath o).holdsNull = false) :
    IsCrash (configOf host (configPath o) (fs.read (configPath o))) ↔
      ∃ bytes, fs.read (configPath o) = .ok bytes ∧
        Baffles (Toml.read host.configRoom) bytes := by
  unfold configOf Config.ofContents Baffles
  cases hread : fs.read (configPath o) with
  | ok bytes =>
    simp only [Except.ok.injEq, exists_eq_left']
    cases (decodeText bytes).bind (Toml.read host.configRoom) with
    | ok c => exact iff_of_false nofun nofun
    | error f =>
      simp only [Except.error.injEq, exists_eq_left']
      exact isCrash_stopOfDocument
  | error f =>
    refine iff_of_false ?_ nofun
    have hf : f ≠ .nullInPath := Files.ne_nullInPath_of_read hnull hread
    -- without a file there is an empty configuration
    cases f with
    | notFound => exact fun ⟨c, hc⟩ => nomatch hc
    | _ => exact not_isCrash_stopOfFile hf _

theorem settingsOf_eq (host : Host) (o : CheckOptions) (c : Config) :
    settingsOf host o c = settle host (readSettings o c) := by
  unfold settingsOf readSettings
  cases o.verbose with
  | true =>
    show (settle host (Settings.ofTable _) >>= _) = settle host (Settings.ofTable _ >>= _)
    cases Settings.ofTable (mergeOptions (optionTable o) c.runner) <;> rfl
  | false =>
    show (settle host (levelOfTable _ _) >>= _) = settle host (levelOfTable _ _ >>= _)
    cases levelOfTable c.logging defaultLevel with
    | error f => rfl
    | ok level =>
      show (settle host (Settings.ofTable _) >>= _) = settle host (Settings.ofTable _ >>= _)
      cases Settings.ofTable (mergeOptions (optionTable o) c.runner) <;> rfl

theorem settingsOf_eq_ok {c : Config} {level : Nat} {settings : Settings} :
    settingsOf host o c = .ok (level, settings) ↔ readSettings o c = .ok (level, settings) := by
  rw [settingsOf_eq]
  exact Policy.mapError_eq_ok

theorem isCrash_settingsOf {c : Config} :
    IsCrash (settingsOf host o c) ↔ ∃ f, readSettings o c = .error f ∧ Unworded host f := by
  rw [settingsOf_eq]
  unfold settle
  rw [isCrash_mapError]
  simp only [exists_and_left, stopOfSetting_eq_crash]

theorem policyOf_eq_ok {p : Policy} :
    policyOf host o.policy o.name (fs.read o.policy) = .ok p ↔ ReadsPolicy host fs o p := by
  have hparse (cs : List Char) : (if host.parses (String.ofList cs) then
      (Policy.parse (String.ofList cs) (.text (policyName o))).mapError fun e =>
        Stop.error (o.policy.render ++ ": " ++ e.message)
      else throw (Stop.crash .overflow)) = .ok p ↔ host.parses (String.ofList cs) = true ∧
        Policy.parse (String.ofList cs) (.text (policyName o)) = .ok p := by
    cases host.parses (String.ofList cs) with
    | true => exact Policy.mapError_eq_ok.trans (and_iff_right rfl).symm
    | false => exact iff_of_false nofun fun h => nomatch h.1
  unfold policyOf ReadsPolicy
  simp only [except_bind_eq_ok, Policy.mapError_eq_ok, exists_and_left, ← hparse]
  rfl

theorem isCrash_policyOf (hnull : o.policy.holdsNull = false) :
    IsCrash (policyOf host o.policy o.name (fs.read o.policy)) ↔
      ∃ bytes, fs.read o.policy = .ok bytes ∧ (String.fromUTF8? bytes = none ∨
        ∃ cs, decodeText bytes = .ok cs ∧ host.parses (String.ofList cs) = false) := by
  unfold policyOf
  cases hread : fs.read o.policy with
  | error f =>
    have hf : f ≠ .nullInPath := Files.ne_nullInPath_of_read hnull hread
    exact iff_of_false (not_isCrash_stopOfFile hf _) nofun
  | ok bytes =>
    simp only [Except.ok.injEq, exists_eq_left']
    show IsCrash ((decodeText bytes).mapError _ >>= _) ↔ _
    unfold decodeText
    cases String.fromUTF8? bytes with
    | none => exact iff_of_true ⟨_, rfl⟩ (.inl rfl)
    | some t =>
      simp only [reduceCtorEq, false_or, Except.ok.injEq, exists_eq_left']
      show IsCrash (if host.parses _ then _ else _) ↔ _
      cases host.parses (String.ofList (Text.unifyLineEnds t.toList)) with
      | false => exact iff_of_true ⟨_, rfl⟩ rfl
      | true =>
        -- what is wrong in a text is reported
        refine iff_of_false ?_ nofun
        show ¬IsCrash ((Policy.parse _ _).mapError _)
        rw [isCrash_mapError]
        exact fun ⟨_, _, _, hc⟩ => nomatch hc

theorem graphOf_eq_ok {g : Graph} :
    graphOf host o.graph (fs.read o.graph) = .ok g ↔ ReadsGraph host fs o g :=
  Policy.mapError_eq_ok

theorem isCrash_graphOf (hnull : o.graph.holdsNull = false) :
    IsCrash (graphOf host o.graph (fs.read o.graph)) ↔
      ∃ bytes, fs.read o.graph = .ok bytes ∧ Baffles (Json.read host.graphRoom) bytes := by
  unfold graphOf Graph.ofContents Baffles
  cases hread : fs.read o.graph with
  | error f =>
    have hf : f ≠ .nullInPath := Files.ne_nullInPath_of_read hnull hread
    exact iff_of_false (not_isCrash_stopOfFile hf _) nofun
  | ok bytes =>
    simp only [Except.ok.injEq, exists_eq_left']
    cases (decodeText bytes).bind (Json.read host.graphRoom) with
    | ok v =>
      refine iff_of_false ?_ nofun
      show ¬IsCrash (((Graph.ofSnapshot v).mapError _).mapError _)
      cases Graph.ofSnapshot v <;> exact nofun
    | error f =>
      simp only [Except.error.injEq, exists_eq_left']
      exact isCrash_stopOfDocument

/-! ## A whole check -/

/-- A check among files, before anything is written. -/
def checked (host : Host) (fs : Files) (o : CheckOptions) : CheckResult :=
  check host o ⟨fs.read (configPath o), fs.read o.policy, fs.read o.graph⟩

/-- What a check needs before it evaluates anything, read part by part. -/
def prepared (host : Host) (fs : Files) (o : CheckOptions) :
    Except Stop (Nat × Settings × Policy × Graph) := do
  let config ← configOf host (configPath o) (fs.read (configPath o))
  let (level, settings) ← settingsOf host o config
  let policy ← policyOf host o.policy o.name (fs.read o.policy)
  let graph ← graphOf host o.graph (fs.read o.graph)
  return (level, settings, policy, graph)

theorem checked_report_eq_bind (host : Host) (fs : Files) (o : CheckOptions) :
    (checked host fs o).report =
      prepared host fs o >>= fun x => (evaluate host x.1 x.2.1 x.2.2.1 x.2.2.2).report := by
  cases hprepared : prepared host fs o with
  | error e =>
    unfold prepared at hprepared
    unfold checked check
    simp only [hprepared]
    rfl
  | ok x =>
    obtain ⟨level, settings, p, g⟩ := x
    unfold prepared at hprepared
    unfold checked check
    simp only [hprepared]
    rfl

/-- Part by part, what is needed is read, and then the policy is evaluated. -/
theorem checked_report (host : Host) (fs : Files) (o : CheckOptions) :
    (checked host fs o).report = (do
      let c ← configOf host (configPath o) (fs.read (configPath o))
      let s ← settingsOf host o c
      let p ← policyOf host o.policy o.name (fs.read o.policy)
      let g ← graphOf host o.graph (fs.read o.graph)
      (evaluate host s.1 s.2 p g).report) := by
  rw [checked_report_eq_bind]
  unfold prepared
  simp only [bind_assoc, pure_bind]

variable {r : Report}

theorem evaluate_report {settings : Settings} {p : Policy} {g : Graph}
    (h : host.exhausts settings p g = none) (level : Nat) :
    (evaluate host level settings p g).report =
      (({ graph := some g, settings } : Session).report p).result.mapError stopOfFault := by
  unfold evaluate
  rw [h]
  rfl

theorem evaluate_report_of_overflow {settings : Settings} {p : Policy} {g : Graph}
    (h : host.exhausts settings p g ≠ none) (level : Nat) :
    (evaluate host level settings p g).report = .error (.crash .overflow) := by
  obtain ⟨n, hn⟩ := Option.ne_none_iff_exists'.1 h
  unfold evaluate
  rw [hn]

theorem evaluate_report_eq_ok {level : Nat} {settings : Settings} {p : Policy} {g : Graph} :
    (evaluate host level settings p g).report = .ok r ↔ host.exhausts settings p g = none ∧
      ({ graph := some g, settings } : Session).Yields p (.ok r) := by
  by_cases h : host.exhausts settings p g = none
  · rw [evaluate_report h, Policy.mapError_eq_ok, Session.yields_iff, h]
    exact (and_iff_right rfl).symm
  · rw [evaluate_report_of_overflow h]
    exact iff_of_false nofun fun hr => h hr.1

theorem checked_report_of_reads {settings : Settings} {p : Policy} {g : Graph}
    (hsettings : ReadsSettings host fs o settings) (hp : ReadsPolicy host fs o p)
    (hg : ReadsGraph host fs o g) :
    ∃ level, (checked host fs o).report = (evaluate host level settings p g).report := by
  obtain ⟨c, level, hc, hread⟩ := hsettings
  refine ⟨level, ?_⟩
  rw [checked_report, configOf_eq_ok.2 hc]
  show (settingsOf host o c >>= _) = _
  rw [settingsOf_eq_ok.2 hread]
  show (policyOf _ _ _ _ >>= _) = _
  rw [policyOf_eq_ok.2 hp]
  show (graphOf _ _ _ >>= _) = _
  rw [graphOf_eq_ok.2 hg]
  rfl

/-- A check has a report exactly if it is completed with it. -/
theorem checked_report_eq_ok : (checked host fs o).report = .ok r ↔ Completes host fs o r := by
  constructor
  · rw [checked_report]
    simp only [except_bind_eq_ok, configOf_eq_ok, policyOf_eq_ok, graphOf_eq_ok, Prod.exists,
      settingsOf_eq_ok, evaluate_report_eq_ok]
    rintro ⟨c, hc, level, settings, hsettings, p, hp, g, hg, hholds, hr⟩
    exact .intro ⟨c, level, hc, hsettings⟩ hp hg hholds hr
  · rintro ⟨hsettings, hp, hg, hholds, hr⟩
    obtain ⟨level, hreport⟩ := checked_report_of_reads hsettings hp hg
    rw [hreport, evaluate_report_eq_ok]
    exact ⟨hholds, hr⟩

theorem not_completes_of_error {e : Stop} (h : (checked host fs o).report = .error e) :
    ¬∃ r, Completes host fs o r := by
  rintro ⟨r, hr⟩
  rw [checked_report_eq_ok.2 hr] at h
  exact nomatch h

/-- While the stack holds, the evaluation of a policy that is read stops at unknown markers only,
which are reported. -/
theorem isCrash_evaluate {p : Policy} (hp : ReadsPolicy host fs o p) {level : Nat}
    {settings : Settings} {g : Graph} :
    IsCrash (evaluate host level settings p g).report ↔ host.exhausts settings p g ≠ none := by
  by_cases h : host.exhausts settings p g = none
  · refine iff_of_false ?_ (not_not_intro h)
    obtain ⟨_, _, -, -, -, hparse⟩ := hp
    rw [evaluate_report h, isCrash_mapError]
    rintro ⟨f, c, hfault, hc⟩
    obtain ⟨st, hst, hf⟩ := Session.exists_fault rfl hfault
    have htells := (Statement.evaluate_fault_iff (Policy.parse_answers hparse hst g) _).1 hf
    obtain ⟨-, m, -, rfl⟩ := htells
    exact nomatch hc
  · rw [evaluate_report_of_overflow h]
    exact iff_of_true ⟨_, rfl⟩ h

theorem isCrash_checked (hnull : Command.ReadsNoNull o)
    (hspelled : Graph.IsSpelled host.graphRoom o.graph (fs.read o.graph)) :
    IsCrash (checked host fs o).report ↔ Unforeseen host fs o := by
  rw [checked_report]
  simp only [isCrash_bind, isCrash_configOf hnull.config, isCrash_settingsOf,
    isCrash_policyOf hnull.policy, isCrash_graphOf hnull.graph, configOf_eq_ok, policyOf_eq_ok,
    graphOf_eq_ok, Prod.exists, settingsOf_eq_ok]
  -- the parts are read in this order, so what crashes comes after parts that are read
  constructor
  · rintro (⟨bytes, hfound, h⟩ | ⟨c, hc, ⟨f, hf, h⟩ | ⟨level, settings, hsettings, hrest⟩⟩)
    · exact .config hfound h
    · exact .setting hc hf h
    · have hread : ReadsSettings host fs o settings := ⟨c, level, hc, hsettings⟩
      rcases hrest with ⟨bytes, hfound, h | ⟨cs, hcs, h⟩⟩ | ⟨p, hp, hrest⟩
      · exact .policy hread hfound h
      · exact .parsing hread hfound hcs h
      · rcases hrest with ⟨bytes, hfound, h⟩ | ⟨g, hg, h⟩
        · exact .graph hread hp hfound h hspelled
        · exact .evaluation hread hp hg ((isCrash_evaluate hp).1 h)
  · intro h
    cases h with
    | config hfound h => exact .inl ⟨_, hfound, h⟩
    | setting hc hf h => exact .inr ⟨_, hc, .inl ⟨_, hf, h⟩⟩
    | policy hread hfound h =>
      obtain ⟨c, level, hc, hsettings⟩ := hread
      exact .inr ⟨c, hc, .inr ⟨level, _, hsettings, .inl ⟨_, hfound, .inl h⟩⟩⟩
    | parsing hread hfound hcs h =>
      obtain ⟨c, level, hc, hsettings⟩ := hread
      exact .inr ⟨c, hc, .inr ⟨level, _, hsettings, .inl ⟨_, hfound, .inr ⟨_, hcs, h⟩⟩⟩⟩
    | graph hread hp hfound h =>
      obtain ⟨c, level, hc, hsettings⟩ := hread
      exact .inr ⟨c, hc, .inr ⟨level, _, hsettings, .inr ⟨_, hp, .inl ⟨_, hfound, h⟩⟩⟩⟩
    | evaluation hread hp hg h =>
      obtain ⟨c, level, hc, hsettings⟩ := hread
      exact .inr ⟨c, hc, .inr ⟨level, _, hsettings,
        .inr ⟨_, hp, .inr ⟨_, hg, (isCrash_evaluate hp).2 h⟩⟩⟩⟩

/-! ## How a check ends -/

/-- The last line is about an error. -/
def EndsInError (lines : List String) : Prop :=
  ∃ line, lines.getLast? = some line ∧ "error: ".toList <+: line.toList

theorem stopped_endsInError (hplain : WritesPlain host) (fs : Files) (log : List String)
    (message : String) : EndsInError (stopped host fs log (.error message)).err := by
  refine ⟨errorLine host message, List.getLast?_concat, ?_⟩
  unfold errorLine
  rw [hplain.err.append (by decide), String.toList_append]
  exact List.prefix_append _ _

/-- A check without a report writes no file. -/
theorem runCheck_of_stop {e : Stop} (h : (checked host fs o).report = .error e) :
    runCheck host fs o = stopped host fs (checked host fs o).log e := by
  show finished host fs (checked host fs o) _ = _
  unfold finished
  rw [h]

theorem runCheck_of_unwritable (h : (checked host fs o).report = .ok r)
    (hreport : Unwritable fs o r) : ∃ f, runCheck host fs o = {
      out := entryLines host r, err := (checked host fs o).log, ending := .crash (.file f)
      files := fs } := by
  obtain ⟨path, f, hpath, hwrite⟩ := hreport
  have hfile : reportFile? o (checked host fs o) = some (path, (reportText r).toUTF8) := by
    unfold reportFile?
    rw [h, hpath]
  refine ⟨f, ?_⟩
  show finished host fs (checked host fs o) (left fs (reportFile? o (checked host fs o))) = _
  rw [hfile, show left fs (some (path, (reportText r).toUTF8)) = .error f from hwrite]
  unfold finished
  rw [h]

/-- The files after the report has been written where one is asked for. -/
def Leaves (fs : Files) (o : CheckOptions) (r : Report) (after : Files) : Prop :=
  match o.report with
  | none => after = fs
  | some path => fs.writeBelow path (reportText r).toUTF8 = .ok after

theorem runCheck_of_report (h : (checked host fs o).report = .ok r)
    (hreport : ¬Unwritable fs o r) : ∃ after, Leaves fs o r after ∧
      runCheck host fs o = concluded host after (checked host fs o).log r := by
  have hleft : ∃ after, Leaves fs o r after ∧
      left fs (reportFile? o (checked host fs o)) = .ok after := by
    unfold Leaves reportFile?
    rw [h]
    cases hpath : o.report with
    | none => exact ⟨fs, rfl, rfl⟩
    | some path =>
      cases hwrite : fs.writeBelow path (reportText r).toUTF8 with
      | error f => exact absurd ⟨path, f, hpath, hwrite⟩ hreport
      | ok after => exact ⟨after, hwrite, hwrite⟩
  obtain ⟨after, hleaves, hafter⟩ := hleft
  refine ⟨after, hleaves, ?_⟩
  show finished host fs (checked host fs o) (left fs (reportFile? o (checked host fs o))) = _
  rw [hafter]
  unfold finished
  rw [h]

theorem concluded_ending (host : Host) (after : Files) (log : List String) (r : Report) :
    (concluded host after log r).ending =
      .exit (if r.passed then statusPassed else statusViolated) := by
  unfold concluded
  cases r.passed <;> rfl

/-- What the status and the last line of a check are said to tell: 0 for a check that is completed
and finds every statement to hold, 1 for one that is completed and finds a violation, and 2 with a
line about the error for one that is not completed. -/
structure TellsOutcome (host : Host) (fs : Files) (o : CheckOptions) (x : Output) : Prop where
  passed : x.ending.status = 0 ↔ ∃ r, Completes host fs o r ∧ ∀ v ∈ r.verdicts, v.passed = true
  violated : x.ending.status = 1 ↔ ∃ r, Completes host fs o r ∧ ∃ v ∈ r.verdicts, v.passed = false
  failed : (¬∃ r, Completes host fs o r) → x.ending.status = 2 ∧ EndsInError x.err

theorem Completes.unique {r r' : Report} (h : Completes host fs o r) (h' : Completes host fs o r') :
    r = r' := by
  have hreport := checked_report_eq_ok.2 h
  rw [checked_report_eq_ok.2 h'] at hreport
  exact (Except.ok.inj hreport).symm

theorem exists_completes_iff (h : Completes host fs o r) {P : Report → Prop} :
    (∃ r', Completes host fs o r' ∧ P r') ↔ P r := by
  constructor
  · rintro ⟨r', hr', hP⟩
    rw [h.unique hr']
    exact hP
  · exact fun hP => ⟨r, h, hP⟩

theorem exists_failed_iff : (∃ v ∈ r.verdicts, v.passed = false) ↔ r.passed = false := by
  unfold Report.passed
  rw [List.all_eq_false]
  simp only [Bool.not_eq_true]

theorem all_passed_iff : (∀ v ∈ r.verdicts, v.passed = true) ↔ r.passed = true := by
  unfold Report.passed
  rw [List.all_eq_true]

/-- The status tells the outcome of a completed check exactly if it is that of the report. -/
theorem tellsOutcome_iff_of_completes (h : Completes host fs o r) {x : Output} :
    TellsOutcome host fs o x ↔
      x.ending.status = if r.passed then statusPassed else statusViolated := by
  constructor
  · intro htells
    have hpassed := htells.passed
    have hviolated := htells.violated
    rw [exists_completes_iff h, all_passed_iff] at hpassed
    rw [exists_completes_iff h, exists_failed_iff] at hviolated
    cases hr : r.passed with
    | true => exact hpassed.2 hr
    | false => exact hviolated.2 hr
  · intro hstatus
    refine ⟨?_, ?_, fun hnone => absurd ⟨r, h⟩ hnone⟩
    · rw [exists_completes_iff h, all_passed_iff, hstatus]
      cases r.passed <;> decide
    · rw [exists_completes_iff h, exists_failed_iff, hstatus]
      cases r.passed <;> decide

theorem tellsOutcome_stopped (hplain : WritesPlain host) (hnone : ¬∃ r, Completes host fs o r)
    (log : List String) (message : String) :
    TellsOutcome host fs o (stopped host fs log (.error message)) where
  passed := iff_of_false (by decide : statusError ≠ 0) fun ⟨r, hr, _⟩ => hnone ⟨r, hr⟩
  violated := iff_of_false (by decide : statusError ≠ 1) fun ⟨r, hr, _⟩ => hnone ⟨r, hr⟩
  failed := fun _ => ⟨rfl, stopped_endsInError hplain fs log message⟩

/-- A check that comes upon what nothing is ready for ends like one that finds a violation. -/
theorem not_tellsOutcome_of_isCrash (h : IsCrash (checked host fs o).report) :
    ¬TellsOutcome host fs o (runCheck host fs o) ∧
      (runCheck host fs o).ending.status = statusViolated ∧ ¬∃ r, Completes host fs o r := by
  obtain ⟨c, hreport⟩ := h
  have hnone := not_completes_of_error hreport
  have hstatus : statusCrashed ≠ statusError := by decide
  rw [runCheck_of_stop hreport]
  exact ⟨fun htells => hstatus (htells.failed hnone).1, rfl, hnone⟩

/-- The status of a check tells its outcome unless it comes upon something that nothing is ready
for, or a report on a policy that holds cannot be written. Then the status is that of a violation,
which there is none of. -/
theorem runCheck_tellsOutcome_iff (hplain : WritesPlain host) (fs : Files)
    (hnull : Command.ReadsNoNull o)
    (hspelled : Graph.IsSpelled host.graphRoom o.graph (fs.read o.graph)) :
    (TellsOutcome host fs o (runCheck host fs o) ↔ ¬Unforeseen host fs o ∧
        ∀ r, Completes host fs o r → r.passed = true → ¬Unwritable fs o r) ∧
      ((runCheck host fs o).ending.status = 1 ↔ Unforeseen host fs o ∨
        ∃ r, Completes host fs o r ∧ (r.passed = false ∨ Unwritable fs o r)) := by
  -- either something is not provided for, or an error is reported, or there is a report
  by_cases hforeseen : Unforeseen host fs o
  · obtain ⟨hnot, hstatus, -⟩ :=
      not_tellsOutcome_of_isCrash ((isCrash_checked hnull hspelled).2 hforeseen)
    exact ⟨iff_of_false hnot fun h => h.1 hforeseen, iff_of_true hstatus (.inl hforeseen)⟩
  cases hreport : (checked host fs o).report with
  | error e =>
    have hnone := not_completes_of_error hreport
    rw [runCheck_of_stop hreport]
    cases e with
    | crash c => exact absurd ((isCrash_checked hnull hspelled).1 ⟨c, hreport⟩) hforeseen
    | error message =>
      have htells := tellsOutcome_stopped hplain hnone (checked host fs o).log message
      have hstatus : statusError ≠ statusViolated := by decide
      refine ⟨iff_of_true htells ⟨hforeseen, fun r hr => absurd ⟨r, hr⟩ hnone⟩, ?_⟩
      refine iff_of_false hstatus ?_
      rintro (h | ⟨r, hr, -⟩)
      · exact hforeseen h
      · exact hnone ⟨r, hr⟩
  | ok r =>
    have hcompletes := checked_report_eq_ok.1 hreport
    have hall : (∀ r, Completes host fs o r → r.passed = true → ¬Unwritable fs o r) ↔
        (r.passed = true → ¬Unwritable fs o r) :=
      ⟨fun hall => hall r hcompletes, fun hr r' hr' => hcompletes.unique hr' ▸ hr⟩
    rw [tellsOutcome_iff_of_completes hcompletes, exists_completes_iff hcompletes, hall]
    -- a report that is not written leaves the status of a violation
    by_cases hwrite : Unwritable fs o r
    · obtain ⟨f, hout⟩ := runCheck_of_unwritable hreport hwrite
      rw [hout, Ending.status]
      cases hr : r.passed <;> simp [hforeseen, hwrite, statusPassed, statusViolated, statusCrashed]
    · obtain ⟨after, -, hout⟩ := runCheck_of_report hreport hwrite
      rw [hout, concluded_ending, Ending.status]
      cases hr : r.passed <;> simp [hforeseen, hwrite, statusPassed, statusViolated]

/-- A check of one file against another. -/
def plainArguments : List String := ["check", "p", "--graph", "g"]

def plainOptions : CheckOptions where
  policy := ⟨"", ["p"]⟩
  graph := ⟨"", ["g"]⟩

theorem plainArguments_accepted :
    Command.ofArguments plainArguments = .ok (.check plainOptions) := by
  decide +kernel

theorem plainOptions_readsNoNull : Command.ReadsNoNull plainOptions :=
  Command.readsNoNull_of_ofArguments plainArguments_accepted

/-- A host with the usual room, away from any terminal. -/
def usualHost : Host := .withRoom 900

theorem withRoom_writesPlain (room : Nat) : WritesPlain (.withRoom room) :=
  ⟨Text.keepsPlain_dropSequences, Text.keepsPlain_dropSequences⟩

theorem readsConfig_of_notFound (h : fs.read (configPath o) = .error .notFound) {c : Config} :
    ReadsConfig host fs o c ↔ [] = c := by
  unfold ReadsConfig
  rw [h]
  exact iff_of_eq (Except.ok.injEq [] c)

theorem noFiles_config : Files.read {} (configPath plainOptions) = .error .notFound := by
  rw [Files.read, Files.find, plainOptions_readsNoNull.config]
  rfl

theorem noFiles_policy : Files.read {} plainOptions.policy = .error .notFound := by
  rw [Files.read, Files.find, plainOptions_readsNoNull.policy]
  rfl

theorem noFiles_graph : Files.read {} plainOptions.graph = .error .notFound := by
  rw [Files.read, Files.find, plainOptions_readsNoNull.graph]
  rfl

theorem noFiles_isSpelled (room : Nat) :
    Graph.IsSpelled room plainOptions.graph (Files.read {} plainOptions.graph) := by
  unfold Graph.IsSpelled
  rw [noFiles_graph]
  nofun

theorem noFiles_not_readsPolicy (p : Policy) : ¬ReadsPolicy host {} plainOptions p := by
  rintro ⟨_, _, hfound, -⟩
  rw [noFiles_policy] at hfound
  exact nomatch hfound

theorem noFiles_not_completes (r : Report) : ¬Completes host {} plainOptions r := by
  rintro ⟨-, hread, -, -, -⟩
  exact noFiles_not_readsPolicy _ hread

theorem noFiles_not_unforeseen : ¬Unforeseen host {} plainOptions := by
  intro h
  cases h with
  | config hfound =>
    rw [noFiles_config] at hfound
    exact nomatch hfound
  | setting hread hfault =>
    obtain rfl := (readsConfig_of_notFound noFiles_config).1 hread
    exact nomatch hfault
  | policy _ hfound =>
    rw [noFiles_policy] at hfound
    exact nomatch hfound
  | parsing _ hfound =>
    rw [noFiles_policy] at hfound
    exact nomatch hfound
  | graph _ hread => exact noFiles_not_readsPolicy _ hread
  | evaluation _ hread => exact noFiles_not_readsPolicy _ hread

/-- Where there are no files, the status tells that the check is not completed. -/
theorem noFiles_tellsOutcome :
    WritesPlain usualHost ∧ Command.ReadsNoNull plainOptions ∧
      Graph.IsSpelled usualHost.graphRoom plainOptions.graph
        (Files.read {} plainOptions.graph) ∧
      TellsOutcome usualHost {} plainOptions (runCheck usualHost {} plainOptions) ∧
      (runCheck usualHost {} plainOptions).ending.status ≠ 1 := by
  have hplain : WritesPlain usualHost := withRoom_writesPlain 900
  have hspelled := noFiles_isSpelled usualHost.graphRoom
  obtain ⟨htells, hstatus⟩ :=
    runCheck_tellsOutcome_iff hplain {} plainOptions_readsNoNull hspelled
  refine ⟨hplain, plainOptions_readsNoNull, hspelled, htells.2 ⟨noFiles_not_unforeseen, ?_⟩, ?_⟩
  · exact fun r hr => absurd hr (noFiles_not_completes r)
  · rw [ne_eq, hstatus]
    rintro (h | ⟨r, hr, -⟩)
    · exact noFiles_not_unforeseen h
    · exact noFiles_not_completes r hr

/-- The policy is one byte that begins no character, and the graph has no nodes. -/
def undecodableFiles : Files where
  entries := [(["p"], .file ⟨#[0xff]⟩), (["g"], .file smallText.toUTF8)]

/-- No policy is read, and yet the status is that of a violation. -/
theorem undecodableFiles_not_tellsOutcome :
    (¬∃ r, Completes usualHost undecodableFiles plainOptions r) ∧
      (runCheck usualHost undecodableFiles plainOptions).ending.status = 1 ∧
      ¬TellsOutcome usualHost undecodableFiles plainOptions
        (runCheck usualHost undecodableFiles plainOptions) := by
  have hnull := plainOptions_readsNoNull
  have hconfig : undecodableFiles.read (configPath plainOptions) = .error .notFound := by
    rw [Files.read, Files.find, hnull.config]
    rfl
  have hpolicy : undecodableFiles.read plainOptions.policy = .ok ⟨#[0xff]⟩ := by
    rw [Files.read, Files.find, hnull.policy]
    rfl
  have hgraph : undecodableFiles.read plainOptions.graph = .ok smallText.toUTF8 := by
    rw [Files.read, Files.find, hnull.graph]
    rfl
  have hspelled : Graph.IsSpelled usualHost.graphRoom plainOptions.graph
      (undecodableFiles.read plainOptions.graph) := by
    rw [hgraph]
    exact smallText_isSpelled
  have hsettings : ReadsSettings usualHost undecodableFiles plainOptions {} :=
    ⟨[], 30, (readsConfig_of_notFound hconfig).2 rfl, rfl⟩
  have hunforeseen : Unforeseen usualHost undecodableFiles plainOptions :=
    .policy hsettings hpolicy (by decide +kernel)
  obtain ⟨hnot, hstatus, hnone⟩ :=
    not_tellsOutcome_of_isCrash ((isCrash_checked hnull hspelled).2 hunforeseen)
  exact ⟨hnone, hstatus, hnot⟩

end CommandLine

end InfoFlow
