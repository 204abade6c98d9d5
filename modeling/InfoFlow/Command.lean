import InfoFlow.Path
import InfoFlow.Text.Blank
import InfoFlow.Text.Digits
/-!
# Command lines

The tool has two commands. Options may stand before and after the policy, an option given twice
counts the last time, and two hyphens end the options. The values of options are checked in the
order in which the options are given first, and the policy after them.
-/

namespace InfoFlow

/-- What `check` is asked to do. -/
structure CheckOptions where
  policy : Path
  graph : Path
  config : Option Path := none
  root : Path := {}
  mode : Option String := none
  unknownMarkers : Option String := none
  workers : Option Int := none
  name : Option String := none
  report : Option Path := none
  verbose : Bool := false
deriving DecidableEq, Repr

/-- What `explain` is asked to do. -/
structure ExplainOptions where
  policy : Path
  name : Option String := none
deriving DecidableEq, Repr

/-- A command with its options. -/
inductive Command where
  | check (o : CheckOptions)
  | explain (o : ExplainOptions)
deriving DecidableEq, Repr

/-- Why a command line asks for no command. -/
inductive CommandFault where
  /-- The arguments do not have the form of a command. -/
  | usage
  /-- A path holds a null character. -/
  | nullInPath
deriving DecidableEq, Repr

namespace Command

/-- The arguments by their roles: the values of options, flags as options with an empty value, and
the rest in order. -/
structure Arguments where
  values : List (String × String) := []
  rest : List String := []

/-- The value that an option was given last. -/
def Arguments.value? (a : Arguments) (option : String) : Option String :=
  (a.values.reverse.lookup option)

/-- The name and the value of an option that is written as one argument. -/
def splitOption (arg : String) : String × Option String :=
  let cs := arg.toList
  let name := cs.takeWhile (· != '=')
  match cs.drop name.length with
  | _ :: value => (String.ofList name, some (String.ofList value))
  | [] => (arg, none)

/-- The flag that an argument is. -/
abbrev Flags := String → Option String

/-- Sorts arguments into options with a value, flags and the rest; refuses an option that is not
known or misses its value. -/
def sortArguments (valued : List String) (flag? : Flags) :
    List String → Arguments → Except CommandFault Arguments
  | [], a => .ok a
  | "--" :: args, a => .ok { a with rest := a.rest ++ args }
  | arg :: args, a =>
    if arg.startsWith "-" && arg != "-" then
      let (name, value) := splitOption arg
      match flag? arg with
      | some f => sortArguments valued flag? args { a with values := a.values ++ [(f, "")] }
      | none =>
        if valued.contains name then
          match value, args with
          | some v, args =>
            sortArguments valued flag? args { a with values := a.values ++ [(name, v)] }
          | none, v :: args =>
            sortArguments valued flag? args { a with values := a.values ++ [(name, v)] }
          | none, [] => .error .usage
        else .error .usage
    else sortArguments valued flag? args { a with rest := a.rest ++ [arg] }

/-- The flag of `check`, also as a letter after one hyphen, once or several times. -/
def verboseFlag : Flags := fun arg =>
  match arg.toList with
  | '-' :: 'v' :: cs => if cs.all (· = 'v') then some "--verbose" else none
  | _ => if arg = "--verbose" then some arg else none

/-- The flag of a command that has none. -/
def noFlag : Flags := fun _ => none

/-- The blank characters that may stand around an integer: all but the four separators among the
control characters. -/
def isMargin (c : Char) : Bool := Text.isBlank c && !('\x1c' ≤ c && c ≤ '\x1f')

/-- An integer in decimal digits, with a sign or not, and single low lines between its digits. -/
def integer? (s : String) : Option Int :=
  let natural (cs : List Char) : Option Nat :=
    let groups := cs.splitOn '_'
    if groups.any List.isEmpty then none else Text.numeral? groups.flatten
  match ((s.toList.dropWhile isMargin).reverse.dropWhile isMargin).reverse with
  | '-' :: cs => (natural cs).map fun n => -n
  | '+' :: cs => (natural cs).map fun n => n
  | cs => (natural cs).map fun n => n

/-- The options of `check` that take a value. -/
def checkOptions : List String :=
  ["--graph", "--config", "--root", "--mode", "--unknown-markers", "--workers", "--name",
    "--report"]

/-- The options whose values are paths. -/
def pathOptions : List String := ["--graph", "--config", "--root", "--report"]

/-- A path given as an argument. -/
def path (arg : String) : Except CommandFault Path :=
  let p := Path.ofText arg
  if p.holdsNull then .error .nullInPath else .ok p

/-- Checks the value of an option. -/
def checkValue (option value : String) : Except CommandFault Unit :=
  if pathOptions.contains option then discard (path value)
  else if option = "--workers" && (integer? value).isNone then .error .usage
  else .ok ()

/-- Checks the values that options were given last. -/
def Arguments.check (a : Arguments) : Except CommandFault Unit :=
  a.values.forM fun (option, value) => checkValue option ((a.value? option).getD value)

/-- The path of the policy, the first of the arguments without an option. -/
def Arguments.policy (a : Arguments) : Except CommandFault Path :=
  match a.rest with
  | [] => .error .usage
  | arg :: _ => path arg

/-- A path that an option gives. -/
def Arguments.path? (a : Arguments) (option : String) : Option Path :=
  (a.value? option).map .ofText

/-- What the arguments of `check` ask for. -/
def ofCheck (args : List String) : Except CommandFault Command := do
  let a ← sortArguments checkOptions verboseFlag args {}
  a.check
  let policy ← a.policy
  match a.path? "--graph", a.rest with
  | some graph, [_] => return .check {
      policy, graph
      config := a.path? "--config"
      root := (a.path? "--root").getD {}
      mode := a.value? "--mode"
      unknownMarkers := a.value? "--unknown-markers"
      workers := (a.value? "--workers").bind integer?
      name := a.value? "--name"
      report := a.path? "--report"
      verbose := (a.value? "--verbose").isSome }
  | _, _ => throw .usage

/-- What the arguments of `explain` ask for. -/
def ofExplain (args : List String) : Except CommandFault Command := do
  let a ← sortArguments ["--name"] noFlag args {}
  let policy ← a.policy
  match a.rest with
  | [_] => return .explain { policy, name := a.value? "--name" }
  | _ => throw .usage

/-- The command that its name and its arguments ask for. -/
def ofName : List String → Except CommandFault Command
  | "check" :: args => ofCheck args
  | "explain" :: args => ofExplain args
  | _ => .error .usage

/-- The command that a command line asks for. Two hyphens may stand in front of its name. -/
def ofArguments : List String → Except CommandFault Command
  | "--" :: args => ofName args
  | args => ofName args

end Command

end InfoFlow
