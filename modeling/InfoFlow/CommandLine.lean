import InfoFlow.Command
import InfoFlow.Config
import InfoFlow.Grammar.Parser
import InfoFlow.Graph.File
import InfoFlow.Json.Writer
import InfoFlow.Log
import InfoFlow.Session
import InfoFlow.Text.Terminal
/-!
# Running commands

What a command does is a function of its options, of the contents of the files that it reads, and of
the host that it runs on. An error that is understood ends the command with a line and a status of
its own; some faults of files and texts end it as they are.

How deep a document, a policy or a value may be nested before the stack overflows depends on the
machine, on the calls around a command and on what else there is in the document, and what becomes
of a line that is written depends on where it is written to. All of that is up to the host. Apart from commands and documents, reading a
policy, quoting a value and evaluating a statement are what they are on a stack that holds.
-/

namespace InfoFlow

/-- What one run of a command meets besides its options and its files. -/
structure Host where
  /-- The room for parts inside each other in a configuration. -/
  configRoom : Nat
  /-- The room for parts inside each other in the document of a graph. -/
  graphRoom : Nat
  /-- Whether the stack holds while a policy is parsed. -/
  parses : String → Bool
  /-- Whether the stack holds while a value is quoted. -/
  quotes : Value → Bool
  /-- After how many events an evaluation overflows the stack, if it does. -/
  exhausts : Settings → Policy → Graph → Option Nat
  /-- What is written of a line of the output. -/
  out : String → String
  /-- What is written of a line about an error or a violation. -/
  err : String → String

/-- A host whose stack only documents overflow, and on which no terminal reads the lines. -/
def Host.withRoom (room : Nat) : Host where
  configRoom := room
  graphRoom := room
  parses _ := true
  quotes _ := true
  exhausts _ _ _ := none
  out := Text.dropSequences
  err := Text.dropSequences

/-- A fault that ends a command as it is. -/
inductive Crash where
  | document (f : DocumentFault)
  | setting (f : SettingFault)
  | file (f : FileFault)
  | evaluation (f : Fault)
  /-- The stack overflows, of anything but a document. -/
  | overflow

/-- Why a command does not do what it is asked to. -/
inductive Stop where
  /-- An error that is reported. -/
  | error (message : String)
  | crash (c : Crash)

/-- How a command ends. -/
inductive Ending where
  | exit (status : Nat)
  | crash (c : Crash)

namespace CommandLine

/-! ## The status -/

/-- The status of a command that did what it was asked to, and found nothing wrong. -/
def statusPassed : Nat := 0

/-- The status of a check that found a violation. -/
def statusViolated : Nat := 1

/-- The status after an error. -/
def statusError : Nat := 2

/-- The status of a program that ends in a fault that it does not handle. -/
def statusCrashed : Nat := 1

end CommandLine

/-- The status with which a program ends. -/
def Ending.status : Ending → Nat
  | exit n => n
  | crash _ => CommandLine.statusCrashed

namespace CommandLine

/-! ## Reading the files of a command -/

/-- What stops a command that cannot use a file. Only faults that the system finds are reported. -/
def stopOfFile (f : FileFault) (message : String) : Stop :=
  if f = .nullInPath then .crash (.file f) else .error message

/-- What stops a command that cannot read a document. Only a broken format is reported. -/
def stopOfDocument (f : DocumentFault) (message : String) : Stop :=
  if f = .malformed then .error message else .crash (.document f)

/-- The configuration, given what reading its file gave. -/
def configOf (h : Host) (path : Path) (contents : Except FileFault ByteArray) :
    Except Stop Config :=
  (Config.ofContents h.configRoom path contents).mapError fun e =>
    match e with
    | .unreadable _ f => stopOfFile f e.message
    | .document _ f => stopOfDocument f e.message

/-- What stops a command that cannot use a setting. The fault is reported if the value that it
quotes can be quoted. -/
def stopOfSetting (h : Host) (f : SettingFault) : Stop :=
  if !f.isWorded then .crash (.setting f)
  else if f.got?.all h.quotes then .error f.message
  else .crash .overflow

/-- A setting, or the end of the command. -/
def settle {α : Type} (h : Host) (s : Except SettingFault α) : Except Stop α :=
  s.mapError (stopOfSetting h)

/-- The options about running policies, as a table. -/
def optionTable (o : CheckOptions) : Keyed String Value :=
  [("mode", (o.mode.map Value.text).getD .null),
    ("unknown_markers", (o.unknownMarkers.map Value.text).getD .null),
    ("workers", (o.workers.map Value.int).getD .null)]

/-- The level at which everything is logged. -/
def verboseLevel : Nat := 10

/-- The level of the log and the settings of the runner: from the options, else from the
configuration. -/
def settingsOf (h : Host) (o : CheckOptions) (c : Config) : Except Stop (Nat × Settings) := do
  let level ←
    if o.verbose then pure verboseLevel else settle h (levelOfTable c.logging defaultLevel)
  let settings ← settle h (Settings.ofTable (mergeOptions (optionTable o) c.runner))
  return (level, settings)

/-- The policy, given what reading its file gave. It goes under the stem of its path unless a name
is given. -/
def policyOf (h : Host) (path : Path) (name : Option String)
    (contents : Except FileFault ByteArray) : Except Stop Policy := do
  let bytes ← contents.mapError fun f =>
    stopOfFile f ("cannot read policy " ++ path.render ++ ": " ++ f.message path)
  let cs ← (decodeText bytes).mapError fun f => Stop.crash (.document f)
  let text := String.ofList cs
  let name := name.getD ""
  if h.parses text then
    (Policy.parse text (.text (if name = "" then path.stem else name))).mapError fun e =>
      .error (path.render ++ ": " ++ e.message)
  else throw (.crash .overflow)

/-- The graph, given what reading its file gave. -/
def graphOf (h : Host) (path : Path) (contents : Except FileFault ByteArray) :
    Except Stop Graph :=
  (Graph.ofContents h.graphRoom path contents).mapError fun e =>
    match e with
    | .unreadable _ f => stopOfFile f e.message
    | .document _ f => stopOfDocument f e.message
    | .snapshot _ => .error e.message

/-! ## Checking -/

/-- What the files of a check gave. -/
structure CheckInputs where
  config : Except FileFault ByteArray
  policy : Except FileFault ByteArray
  graph : Except FileFault ByteArray

/-- What a check found: the lines of the log, and the report. -/
structure CheckResult where
  log : List String
  report : Except Stop Report

/-- What stops a command whose evaluation stops. -/
def stopOfFault : Fault → Stop
  | .unknownMarker m => .error (Fault.unknownMarker m).message
  | f => .crash (.evaluation f)

/-- Evaluates the policy of a check. -/
def evaluate (h : Host) (level : Nat) (settings : Settings) (p : Policy) (g : Graph) :
    CheckResult :=
  let r := p.evaluate g settings
  match h.exhausts settings p g with
  | none => ⟨logLines level r.events, r.result.mapError stopOfFault⟩
  | some n => ⟨logLines level (r.events.take n), .error (.crash .overflow)⟩

/-- The path of the configuration file of a check. -/
def configPath (o : CheckOptions) : Path := Config.pathOf o.root o.config

/-- Checks a policy. -/
def check (h : Host) (o : CheckOptions) (i : CheckInputs) : CheckResult :=
  let ready : Except Stop (Nat × Settings × Policy × Graph) := do
    let config ← configOf h (configPath o) i.config
    let (level, settings) ← settingsOf h o config
    let policy ← policyOf h o.policy o.name i.policy
    let graph ← graphOf h o.graph i.graph
    return (level, settings, policy, graph)
  match ready with
  | .error e => ⟨[], .error e⟩
  | .ok (level, settings, policy, graph) => evaluate h level settings policy graph

/-- The line about an entry of the journal. -/
def entryLine (e : JournalEntry) : String :=
  if e.passed then "PASS " ++ e.statement else "FAIL " ++ e.statement ++ ": " ++ e.message

/-- The text of the report file. -/
def reportText (r : Report) : String := Json.indented 0 r.toValue ++ "\n"

/-! ## Explaining -/

/-- The lines that explain a policy. -/
def explanation (p : Policy) : List String :=
  ("policy " ++ p.name.plain) :: p.statements.map Statement.describe

/-! ## Commands on files -/

/-- What a command writes, and how it ends. -/
structure Output where
  out : List String := []
  err : List String := []
  ending : Ending
  files : Files

/-- The line about an error. -/
def errorLine (h : Host) (message : String) : String := h.err ("error: " ++ message)

/-- The output of a command that stops. -/
def stopped (h : Host) (fs : Files) (err : List String) : Stop → Output
  | .error message =>
    { err := err ++ [errorLine h message], ending := .exit statusError, files := fs }
  | .crash c => { err, ending := .crash c, files := fs }

/-- The lines about the entries that a check adds to an empty journal. -/
def entryLines (h : Host) (r : Report) : List String := r.entries.map fun e => h.out (entryLine e)

/-- The line about the outcome of a check. -/
def outcomeLine (r : Report) : String :=
  "Policy " ++ r.policy.plain ++ (if r.passed then " successful" else " violated")

/-- The output of a check after its report has been written. -/
def concluded (h : Host) (fs : Files) (log : List String) (r : Report) : Output :=
  if r.passed then
    { out := entryLines h r ++ [h.out (outcomeLine r)], err := log
      ending := .exit statusPassed, files := fs }
  else
    { out := entryLines h r, err := log ++ [h.err (outcomeLine r)]
      ending := .exit statusViolated, files := fs }

/-- The file that a check writes for its report, if it has one and is asked to. -/
def reportFile? (o : CheckOptions) (c : CheckResult) : Option (Path × ByteArray) :=
  match c.report, o.report with
  | .ok r, some path => some (path, (reportText r).toUTF8)
  | _, _ => none

/-- The files with another one, if there is one to write. -/
def left (fs : Files) : Option (Path × ByteArray) → Except FileFault Files
  | none => .ok fs
  | some (path, contents) => fs.writeBelow path contents

/-- The output of a check, given the files that it has left or why its report is not written. -/
def finished (h : Host) (fs : Files) (c : CheckResult) (after : Except FileFault Files) : Output :=
  match c.report, after with
  | .error e, _ => stopped h fs c.log e
  | .ok r, .ok fs => concluded h fs c.log r
  | .ok r, .error f =>
    { out := entryLines h r, err := c.log, ending := .crash (.file f), files := fs }

/-- Checks a policy among files. -/
def runCheck (h : Host) (fs : Files) (o : CheckOptions) : Output :=
  let c := check h o ⟨fs.read (configPath o), fs.read o.policy, fs.read o.graph⟩
  finished h fs c (left fs (reportFile? o c))

/-- The output of an explanation. -/
def explained (h : Host) (fs : Files) (p : Except Stop Policy) : Output :=
  match p with
  | .error e => stopped h fs [] e
  | .ok p => { out := (explanation p).map h.out, ending := .exit statusPassed, files := fs }

/-- Explains a policy among files. -/
def runExplain (h : Host) (fs : Files) (o : ExplainOptions) : Output :=
  explained h fs (policyOf h o.policy o.name (fs.read o.policy))

/-- The output of a command line that asks for no command. -/
def refused (fs : Files) : CommandFault → Output
  | .usage => { ending := .exit statusError, files := fs }
  | .nullInPath => { ending := .crash (.file .nullInPath), files := fs }

/-- Runs a command line among files. -/
def run (h : Host) (fs : Files) (args : List String) : Output :=
  match Command.ofArguments args with
  | .ok (.check o) => runCheck h fs o
  | .ok (.explain o) => runExplain h fs o
  | .error e => refused fs e

end CommandLine

end InfoFlow
