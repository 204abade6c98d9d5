import InfoFlow.Files
import InfoFlow.Settings
import InfoFlow.Text.Lines
import InfoFlow.Toml.Reader
/-!
# Configuration files

The configuration is a TOML file with a section for running and one for logging. A missing file, and
a section that is missing or no table, stand for an empty one.
-/

namespace InfoFlow

/-- The characters of a text file: UTF-8, with every line end as one line feed. -/
def decodeText (contents : ByteArray) : Except DocumentFault (List Char) :=
  match String.fromUTF8? contents with
  | some s => .ok (Text.unifyLineEnds s.toList)
  | none => .error .undecodable

/-- Why a configuration file is not read. -/
inductive ConfigFault where
  | unreadable (path : Path) (fault : FileFault)
  | document (path : Path) (fault : DocumentFault)

/-- The wording of each fault. -/
def ConfigFault.message : ConfigFault → String
  | unreadable p f => "cannot read " ++ p.render ++ ": " ++ f.message p
  | document p _ => p.render ++ " is not valid TOML"

/-- A table of settings. -/
abbrev Config := Keyed String Value

namespace Config

/-- The name of the configuration file in its directory. -/
def defaultName : String := "flowpolicy.toml"

/-- The place of the configuration file: the one that is given, or the default name in a
directory. -/
def pathOf (root : Path) (path : Option Path) : Path := path.getD (root.child defaultName)

/-- The configuration in the file at a path, given what reading it gave and the room for its
parts. -/
def ofContents (room : Nat) (path : Path) (contents : Except FileFault ByteArray) :
    Except ConfigFault Config :=
  match contents with
  | .error .notFound => .ok []
  | .error f => .error (.unreadable path f)
  | .ok bytes => ((decodeText bytes).bind (Toml.read room)).mapError (.document path)

/-- A section of a configuration. -/
def sectionOf (name : String) (c : Config) : Keyed String Value :=
  match Keyed.get? c name with
  | some (.table t) => t
  | _ => []

/-- The section about running policies. -/
def runner (c : Config) : Keyed String Value := c.sectionOf "runner"

/-- The section about logging. -/
def logging (c : Config) : Keyed String Value := c.sectionOf "logging"

end Config

end InfoFlow
