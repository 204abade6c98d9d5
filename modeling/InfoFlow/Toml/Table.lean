import InfoFlow.Value
/-!
# The tables of a TOML document

A document is built by statements that each name a place by a path of keys. A path that has been
opened by a header, or by a key with points in an earlier section, is not opened by a header again,
and nothing is added below a value that was written out in one piece.
-/

namespace InfoFlow.Toml

/-- A place in a document. -/
abbrev Path := List String

/-- Changes the table at a path, making the tables on the way. A list on the way stands for its
last item, if `lists` lets it; no other value may be on the way. -/
def changeAt (lists : Bool) (change : Keyed String Value → Option (Keyed String Value)) :
    Path → Keyed String Value → Option (Keyed String Value)
  | [], t => change t
  | k :: ks, t =>
    match Keyed.get? t k with
    | none => (changeAt lists change ks []).map fun u => Keyed.put t k (.table u)
    | some (.table u) => (changeAt lists change ks u).map fun u => Keyed.put t k (.table u)
    | some (.list items) =>
      match lists, items.getLast? with
      | true, some (.table u) => (changeAt lists change ks u).map fun u =>
          Keyed.put t k (.list (items.dropLast ++ [.table u]))
      | _, _ => none
    | some _ => none

/-- Adds an entry whose key is new. -/
def addEntry (key : String) (value : Value) (t : Keyed String Value) :
    Option (Keyed String Value) :=
  if (Keyed.get? t key).isSome then none else some (Keyed.put t key value)

/-- Adds an empty table to the list at a key, which is made if it is missing. -/
def addItem (key : String) (t : Keyed String Value) : Option (Keyed String Value) :=
  match Keyed.get? t key with
  | none => some (Keyed.put t key (.list [.table []]))
  | some (.list items) => some (Keyed.put t key (.list (items ++ [.table []])))
  | some _ => none

/-- Whether a value has parts, so that it is complete once it is written. -/
def isClosed : Value → Bool
  | .list _ | .table _ => true
  | _ => false

/-- A document under construction. -/
structure Draft where
  /-- What has been read. -/
  root : Keyed String Value := []
  /-- The path of the section. -/
  header : Path := []
  /-- The paths that no header may open. -/
  opened : List Path := []
  /-- The paths below which nothing is added. -/
  closed : List Path := []
  /-- The paths that are opened by keys with points in the present section. -/
  pending : List Path := []

namespace Draft

/-- Whether a path is at or below one that is closed. -/
def isClosedAt (closed : List Path) (path : Path) : Bool := closed.any (·.isPrefixOf path)

/-- Ends the present section. -/
def endSection (d : Draft) : Draft := { d with opened := d.pending ++ d.opened, pending := [] }

/-- Starts the section of a table. -/
def openTable (d : Draft) (path : Path) : Option Draft :=
  if d.opened.contains path || isClosedAt d.closed path then none
  else (changeAt true some path d.root).map fun root =>
    { d with root, header := path, opened := path :: d.opened }

/-- Starts the section of a new item of a list of tables; the paths below belong to the item before
and are free again. -/
def openItem (d : Draft) (path : Path) : Option Draft :=
  if isClosedAt d.closed path then none
  else (changeAt true (addItem (path.getLastD "")) path.dropLast d.root).map fun root =>
    { d with
      root, header := path
      opened := path :: d.opened.filter (!path.isPrefixOf ·)
      closed := d.closed.filter (!path.isPrefixOf ·) }

/-- The paths from the section to the table that holds the last part of a key. -/
def innerPaths (header key : Path) : List Path :=
  (List.range (key.length - 1)).map fun i => header ++ key.take (i + 1)

/-- Adds a value at a key of the present section. -/
def addValue (d : Draft) (key : Path) (value : Value) : Option Draft :=
  let inner := innerPaths d.header key
  let parent := d.header ++ key.dropLast
  if inner.any d.opened.contains || isClosedAt d.closed parent then none
  else (changeAt true (addEntry (key.getLastD "") value) parent d.root).map fun root =>
    { d with
      root
      pending := inner ++ d.pending
      closed := if isClosed value then (d.header ++ key) :: d.closed else d.closed }

end Draft

/-- A table written in one piece, as far as it has been read. -/
structure InlineDraft where
  root : Keyed String Value := []
  closed : List Path := []

/-- Adds a value at a key of a table written in one piece. -/
def InlineDraft.addValue (d : InlineDraft) (key : Path) (value : Value) : Option InlineDraft :=
  if Draft.isClosedAt d.closed key then none
  else (changeAt false (addEntry (key.getLastD "") value) key.dropLast d.root).map fun root =>
    { d with root, closed := if isClosed value then key :: d.closed else d.closed }

end InfoFlow.Toml
