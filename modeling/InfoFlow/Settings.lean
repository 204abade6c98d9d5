import InfoFlow.Text.Digits
import InfoFlow.Value
import InfoFlow.Vocabulary
/-!
# Settings

How policies are run: whether the first failure ends a run, what an undeclared marker means, and how
many statements may be evaluated at a time. Settings come from a table of unchecked data, in which a
missing entry stands for its default. The logging level comes from a table of its own.
-/

namespace InfoFlow

/-- Whether the first failure ends a run. -/
inductive RunMode where
  | failFast
  | exhaustive
deriving DecidableEq, Repr

instance : Choice RunMode where
  all := [.failFast, .exhaustive]
  word
    | .failFast => "fail_fast"
    | .exhaustive => "exhaustive"

/-- How policies are run. -/
structure Settings where
  mode : RunMode := .failFast
  unknownMarkers : UnknownMarkers := .error
  workers : Nat := 1
  workers_pos : 0 < workers := by decide
deriving DecidableEq, Repr

/-- The settings of a runner that is given none. -/
def Settings.usual : Settings := {}

/-- Whether every failure is recorded. -/
def Settings.exhaustive (s : Settings) : Bool := s.mode = .exhaustive

/-- Why a table gives no settings or no level. -/
inductive SettingFault where
  /-- An entry is none of the words of a choice. -/
  | notChoice (key : String) (words : List String) (got : Value)
  /-- The number of workers is no positive integer. -/
  | workers (got : Value)
  /-- The level is none of the known ones. -/
  | level (got : Value)
  /-- The level is a row of digits that is no numeral. -/
  | levelDigits (digits : String)

namespace Settings

/-- A word in lower case, where a hyphen stands for a low line. -/
def normalized (s : String) : String :=
  String.ofList ((Text.lower (Text.strip s)).toList.map fun c => if c = '-' then '_' else c)

/-- The choice that an entry names, or the default if it is missing or null. -/
def choice {α : Type} [Choice α] (key : String) (default : α) (table : Keyed String Value) :
    Except SettingFault α :=
  match Keyed.get? table key with
  | none | some .null => .ok default
  | some v =>
    match v.text?.bind fun s => Choice.ofWord? (normalized s) with
    | some a => .ok a
    | none => .error (.notChoice key (Choice.words α) v)

/-- The number of workers: a positive integer, one if the entry is missing. -/
def workersOf (table : Keyed String Value) : Except SettingFault { n : Nat // 0 < n } :=
  match (Keyed.get? table "workers").getD (.int 1) with
  | .int i => if h : 0 < i.toNat then .ok ⟨i.toNat, h⟩ else .error (.workers (.int i))
  | v => .error (.workers v)

/-- The settings that a table gives. -/
def ofTable (table : Keyed String Value) : Except SettingFault Settings := do
  let mode ← choice "mode" .failFast table
  let unknownMarkers ← choice "unknown_markers" .error table
  let ⟨workers, workers_pos⟩ ← workersOf table
  return { mode, unknownMarkers, workers, workers_pos }

end Settings

/-- The entries of a table with those of another that are not null on top. -/
def mergeOptions (options defaults : Keyed String Value) : Keyed String Value :=
  defaults.overlay (options.filter fun e => match e.2 with | .null => false | _ => true)

/-! ## Logging levels -/

/-- The names of the levels and their numbers, as messages list them. -/
def levelNames : List (String × Nat) := [
  ("NOTSET", 0), ("DEBUG", 10), ("INFO", 20), ("WARN", 30), ("WARNING", 30), ("ERROR", 40),
  ("CRITICAL", 50), ("FATAL", 50)]

/-- The level of a number. -/
def levelOfInt (i : Int) : Except SettingFault Nat :=
  match levelNames.find? fun e => (e.2 : Int) = i with
  | some e => .ok e.2
  | none => .error (.level (.int i))

/-- The level that a text gives: by name, in either case, or by number, in digits of any script. -/
def levelOfText (s : String) : Except SettingFault Nat :=
  let t := Text.strip s
  if Text.isDigits t then
    match Text.numeral? t.toList with
    | some n => levelOfInt n
    | none => .error (.levelDigits t)
  else
    match levelNames.lookup (Text.upper t) with
    | some n => .ok n
    | none => .error (.level (.text s))

/-- The level that a table gives. -/
def levelOfTable (table : Keyed String Value) (default : Value) : Except SettingFault Nat :=
  match (Keyed.get? table "level").getD default with
  | .int i => levelOfInt i
  | .text s => levelOfText s
  | v => .error (.level v)

/-- The level of a table that gives none. -/
def defaultLevel : Value := .text "WARNING"

/-- The value that the wording of a fault quotes, if it quotes one. -/
def SettingFault.got? : SettingFault → Option Value
  | notChoice _ _ got | workers got | level got => some got
  | levelDigits _ => none

/-- Whether a fault is worded: the integers of the value that it quotes can be written. -/
def SettingFault.isWorded : SettingFault → Bool
  | notChoice _ _ got | workers got | level got => got.isQuotable
  | levelDigits _ => false

/-- The wording of each fault. -/
def SettingFault.message : SettingFault → String
  | notChoice key words got =>
    key ++ " must be one of " ++ String.intercalate ", " words ++ "; got " ++ got.quoted
  | workers got => "workers must be a positive integer; got " ++ got.quoted
  | level got =>
    "level must be one of " ++ String.intercalate ", " (levelNames.map (·.1)) ++
      " or their numeric values; got " ++ got.quoted
  | levelDigits digits => Text.quoted digits ++ " is no numeral"

end InfoFlow
