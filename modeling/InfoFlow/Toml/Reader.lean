import InfoFlow.Toml.Scalar
import InfoFlow.Toml.Table
/-!
# Reading TOML

A document is a row of statements, one to a line: a key and its value, the header of a table, or
the header of an item of a list of tables.
-/

namespace InfoFlow.Toml

/-- A result that has to be there. -/
def demand {α : Type} : Option α → Scan α
  | some a => pure a
  | none => Scan.fail

/-- The room that a list takes. -/
def listSize : Nat := 2

/-- The room that a table on one line takes. -/
def tableSize : Nat := 3

mutual

/-- A value, in so much room for its parts. -/
def value : Nat → Nat → Scan Value
  | 0, _ => Scan.fail
  | fuel + 1, room => do
    if ← Scan.accept "[" then
      let room ← Scan.within room listSize
      gap
      if ← Scan.accept "]" then pure (.list []) else return .list (← items fuel room)
    else if ← Scan.accept "\x7b" then
      let room ← Scan.within room tableSize
      Scan.skipWhile isSpace
      if ← Scan.accept "\x7d" then pure (.table []) else return .table (← members fuel room {})
    else scalar

/-- The items of a list up to its closing bracket, at least one; a comma may follow the last. -/
def items : Nat → Nat → Scan (List Value)
  | 0, _ => Scan.fail
  | fuel + 1, room => do
    let v ← value fuel room
    gap
    if ← Scan.accept "]" then pure [v]
    else
      Scan.expect ","
      gap
      if ← Scan.accept "]" then pure [v] else return v :: (← items fuel room)

/-- The entries of a table on one line up to its closing brace, at least one. -/
def members : Nat → Nat → InlineDraft → Scan (Keyed String Value)
  | 0, _, _ => Scan.fail
  | fuel + 1, room, d => do
    let k ← key
    Scan.expect "="
    Scan.skipWhile isSpace
    let v ← value fuel room
    let d ← demand (d.addValue k v)
    Scan.skipWhile isSpace
    if ← Scan.accept "\x7d" then pure d.root
    else
      Scan.expect ","
      Scan.skipWhile isSpace
      members fuel room d

end

/-- A header, up to its closing brackets. -/
def header (d : Draft) : Scan Draft := do
  let d := d.endSection
  if ← Scan.accept "[[" then
    Scan.skipWhile isSpace
    let d ← demand (d.openItem (← key))
    Scan.expect "]]"
    pure d
  else
    Scan.expect "["
    Scan.skipWhile isSpace
    let d ← demand (d.openTable (← key))
    Scan.expect "]"
    pure d

/-- A key and its value, in so much room for its parts. -/
def entry (room : Nat) (d : Draft) : Scan Draft := do
  let k ← key
  Scan.expect "="
  Scan.skipWhile isSpace
  let v ← fun cs => value (2 * cs.length + 2) room cs
  demand (d.addValue k v)

/-- What stands on a line in front of a comment. -/
def statement (room : Nat) (d : Draft) : Scan Draft := do
  match ← Scan.peek? with
  | some '[' => header d
  | some '#' | some '\n' | none => pure d
  | some _ => entry room d

/-- The lines of a document. -/
def lines (room : Nat) : Nat → Draft → Scan (Keyed String Value)
  | 0, _ => Scan.fail
  | fuel + 1, d => do
    Scan.skipWhile isSpace
    let d ← statement room d
    Scan.skipWhile isSpace
    comment
    if ← Scan.atEnd then pure d.root
    else
      Scan.expect "\n"
      lines room fuel d

/-- The table that a text denotes, with so much room for parts inside each other. -/
def read (room : Nat) (cs : List Char) : Except DocumentFault (Keyed String Value) :=
  (lines room (cs.length + 1) {}).run' cs

end InfoFlow.Toml
