import InfoFlow.Text.Quoted
/-!
# Paths

A path is a row of names, from the root of the file system or from the working directory. Empty
names and single dots are dropped when a path is read; double dots stay.
-/

namespace InfoFlow

/-- A place in a file system. -/
structure Path where
  /-- What stands in front of the first name: nothing, or the slashes of the root. -/
  anchor : String := ""
  names : List String := []
deriving DecidableEq, Repr

namespace Path

/-- The root in front of a path. Exactly two slashes are a root of their own. -/
def anchorOf (cs : List Char) : String :=
  match cs with
  | '/' :: '/' :: '/' :: _ => "/"
  | '/' :: '/' :: _ => "//"
  | '/' :: _ => "/"
  | _ => ""

/-- The path that a text denotes. -/
def ofText (s : String) : Path where
  anchor := anchorOf s.toList
  names := ((s.toList.splitOn '/').map String.ofList).filter fun n => n != "" && n != "."

/-- The text of a path. -/
def render (p : Path) : String :=
  if p.anchor = "" && p.names.isEmpty then "." else p.anchor ++ String.intercalate "/" p.names

/-- A path below another one. -/
def child (p : Path) (name : String) : Path := { p with names := p.names ++ [name] }

/-- The path without its last name. -/
def parent (p : Path) : Path := { p with names := p.names.dropLast }

/-- The last name. -/
def name (p : Path) : String := p.names.getLastD ""

/-- The last name without what follows its last point, if the point stands inside. -/
def stem (p : Path) : String :=
  let cs := p.name.toList
  let suffix := cs.reverse.takeWhile (· != '.')
  let front := (cs.reverse.drop (suffix.length + 1)).reverse
  if suffix.isEmpty || front.isEmpty then p.name else String.ofList front

/-- Whether a path holds a null character. -/
def holdsNull (p : Path) : Bool := p.names.any (·.toList.contains '\x00')

end Path

end InfoFlow
