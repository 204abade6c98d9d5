import InfoFlow.Keyed
import InfoFlow.Path
/-!
# Files

The files below a working directory: contents by path, and directories. A path is followed name by
name; a name below a file leads nowhere, and neither does one that is missing. Names and paths of
more bytes than the system takes are refused.
-/

namespace InfoFlow

/-- Why a file or directory cannot be used. -/
inductive FileFault where
  | notFound
  | occupied
  | notDirectory
  | isDirectory
  | nameTooLong
  /-- The path holds a null character, with which the system ends a path. -/
  | nullInPath
deriving DecidableEq, Repr

namespace FileFault

/-- The number under which the system reports a fault, if it is the system that finds it. -/
def number? : FileFault → Option Nat
  | notFound => some 2
  | occupied => some 17
  | notDirectory => some 20
  | isDirectory => some 21
  | nameTooLong => some 36
  | nullInPath => none

/-- The wording of a fault. -/
def reason : FileFault → String
  | notFound => "No such file or directory"
  | occupied => "File exists"
  | notDirectory => "Not a directory"
  | isDirectory => "Is a directory"
  | nameTooLong => "File name too long"
  | nullInPath => "embedded null byte"

/-- The wording of a fault at a path. -/
def message (f : FileFault) (p : Path) : String :=
  match f.number? with
  | some n => "[Errno " ++ toString n ++ "] " ++ f.reason ++ ": " ++ Text.quoted p.render
  | none => f.reason

end FileFault

/-- What stands at a path. -/
inductive Entry where
  | directory
  | file (contents : ByteArray)

/-- The files below a working directory, by the names from there. Places outside stand under names
that no file has: the root under its slash, the directories above under double dots. -/
structure Files where
  entries : Keyed (List String) Entry := []

namespace Files

/-- The name of the root. -/
def rootName : String := "/"

/-- The name of the directory above. -/
def upName : String := ".."

/-- Whether a place is the working directory, one above it or the root. -/
def isBase (names : List String) : Bool := names = [rootName] || names.all (· = upName)

/-- The place one level up. -/
def up (names : List String) : List String :=
  if names = [rootName] then names
  else if isBase names then upName :: names
  else names.dropLast

/-- The directories that stand below the root of every system. -/
def systemDirectories : List String := [
  "bin", "boot", "dev", "etc", "home", "lib", "media", "mnt", "opt", "proc", "root", "run", "sbin",
  "srv", "sys", "tmp", "usr", "var"]

/-- Whether a place is one of the directories of the system. -/
def isSystem : List String → Bool
  | [root, name] => root = rootName && systemDirectories.contains name
  | _ => false

/-- The place of the file that is always empty, whatever is written to it. -/
def emptyFile : List String := [rootName, "dev", "null"]

/-- What stands at a place. -/
def get? (fs : Files) (names : List String) : Option Entry :=
  if isBase names || isSystem names then some .directory
  else if names = emptyFile then some (.file .empty)
  else Keyed.get? fs.entries names

/-- The greatest number of bytes in a name. -/
def maxNameBytes : Nat := 255

/-- The greatest number of bytes in a path. -/
def maxPathBytes : Nat := 4095

/-- Follows names from a place on. -/
def follow (fs : Files) (place : List String) :
    List String → Except FileFault (List String × Entry)
  | [] =>
    match fs.get? place with
    | some e => .ok (place, e)
    | none => .error .notFound
  | n :: ns =>
    match fs.get? place with
    | none => .error .notFound
    | some (.file _) => .error .notDirectory
    | some .directory =>
      if maxNameBytes < n.utf8ByteSize then .error .nameTooLong
      else follow fs (if n = upName then up place else place ++ [n]) ns

/-- What stands at a path. -/
def find (fs : Files) (p : Path) : Except FileFault (List String × Entry) :=
  if p.holdsNull then .error .nullInPath
  else if maxPathBytes < p.render.utf8ByteSize then .error .nameTooLong
  else fs.follow (if p.anchor = "" then [] else [rootName]) p.names

/-- The contents of a file. -/
def read (fs : Files) (p : Path) : Except FileFault ByteArray := do
  match ← fs.find p with
  | (_, .file contents) => .ok contents
  | (_, .directory) => .error .isDirectory

/-- Puts an entry at a place, with directories above it where nothing stands. -/
def put (fs : Files) (names : List String) (e : Entry) : Files :=
  let above := (List.range names.length).map names.take
  let entries := above.foldl (fun es d =>
    if isBase d || (Keyed.get? es d).isSome then es else Keyed.put es d .directory) fs.entries
  ⟨Keyed.put entries names e⟩

/-- The place of a path in its directory, which has to be there. -/
def place (fs : Files) (p : Path) : Except FileFault (List String) := do
  match ← fs.find p.parent with
  | (d, .directory) => .ok (if p.name = upName then up d else d ++ [p.name])
  | (_, .file _) => .error .notDirectory

/-- Writes a file, which may be there already, into a directory that is. -/
def write (fs : Files) (p : Path) (contents : ByteArray) : Except FileFault Files := do
  match fs.find p with
  | .ok (_, .directory) => .error .isDirectory
  | .ok (names, .file _) => .ok (fs.put names (.file contents))
  | .error .notFound => return fs.put (← fs.place p) (.file contents)
  | .error e => .error e

/-- Makes the directory at a path, unless something stands there. -/
def makeDirectory (fs : Files) (p : Path) : Except FileFault Files := do
  match fs.find p with
  | .ok (_, .directory) => .ok fs
  | .ok (_, .file _) => .error .occupied
  | .error .notFound => return fs.put (← fs.place p) .directory
  | .error e => .error e

/-- Makes a directory, and as many as `n` of those above it if they are missing. -/
def makeDirectories (fs : Files) (p : Path) : Nat → Except FileFault Files
  | 0 => fs.makeDirectory p
  | n + 1 =>
    match fs.makeDirectory p with
    | .error .notFound => do
      let fs ← makeDirectories fs p.parent n
      fs.makeDirectory p
    | r => r

/-- Writes a file, making the directories above it. -/
def writeBelow (fs : Files) (p : Path) (contents : ByteArray) : Except FileFault Files := do
  let fs ← fs.makeDirectories p.parent p.names.length
  fs.write p contents

/-- The files below the working directory, by the texts of their paths. -/
def contents (fs : Files) : List (String × ByteArray) :=
  fs.entries.filterMap fun (names, e) =>
    match e with
    | .file c =>
      if names.head?.any fun n => n = rootName || n = upName then none
      else some (String.intercalate "/" names, c)
    | .directory => none

end Files

end InfoFlow
