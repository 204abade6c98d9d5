import InfoFlow.CommandLine
/-!
# The command line tool

Reads the files that a command names, runs it, and writes what it answers.
-/

namespace InfoFlow

/-- The fault of a number. -/
def FileFault.ofNumber? (n : Nat) : Option FileFault :=
  [notFound, occupied, notDirectory, isDirectory, nameTooLong].find? fun f => f.number? = some n

/-- The fault that an error of the system stands for, if it is one about a path. -/
def FileFault.ofSystem? : IO.Error → Option FileFault
  | .noFileOrDirectory _ n _ | .alreadyExists _ n _ | .inappropriateType _ n _
  | .invalidArgument _ n _ => ofNumber? n.toNat
  | _ => none

/-- Does something with a path, and gives the fault that the system finds about the path. -/
def attempt {α : Type} (p : Path) (action : IO α) : IO (Except FileFault α) := do
  if p.holdsNull then return .error .nullInPath
  try return .ok (← action)
  catch e =>
    match FileFault.ofSystem? e with
    | some f => return .error f
    | none => throw e

/-- Reads a file. -/
def readContents (p : Path) : IO (Except FileFault ByteArray) :=
  attempt p (IO.FS.readBinFile p.render)

/-- Writes a file and makes the directories above it. -/
def writeContents (p : Path) (contents : ByteArray) : IO (Except FileFault Unit) :=
  attempt p do
    IO.FS.createDirAll p.parent.render
    IO.FS.writeBinFile p.render contents

/-- Writes the output of a command and gives its status. -/
def conclude (o : CommandLine.Output) : IO UInt32 := do
  o.out.forM IO.println
  o.err.forM IO.eprintln
  return o.ending.status.toUInt32

/-- The host of the tool, on which documents may be nested nearly a thousand levels deep. -/
def thisHost : Host := .withRoom 970

/-- Checks a policy. The files of the system are not kept. -/
def runCheck (o : CheckOptions) : IO UInt32 := do
  let inputs : CommandLine.CheckInputs := {
    config := ← readContents (CommandLine.configPath o)
    policy := ← readContents o.policy
    graph := ← readContents o.graph }
  let c := CommandLine.check thisHost o inputs
  let written ← match CommandLine.reportFile? o c with
    | none => pure (.ok ())
    | some (path, contents) => writeContents path contents
  conclude (CommandLine.finished thisHost {} c (written.map fun _ => {}))

/-- Explains a policy. -/
def runExplain (o : ExplainOptions) : IO UInt32 := do
  let p := CommandLine.policyOf thisHost o.policy o.name (← readContents o.policy)
  conclude (CommandLine.explained thisHost {} p)

end InfoFlow

/-- Runs a command line. -/
def main (args : List String) : IO UInt32 :=
  match InfoFlow.Command.ofArguments args with
  | .ok (.check o) => InfoFlow.runCheck o
  | .ok (.explain o) => InfoFlow.runExplain o
  | .error e => do
    IO.eprintln "usage: check POLICY --graph GRAPH | explain POLICY"
    InfoFlow.conclude (InfoFlow.CommandLine.refused {} e)
