/-!
# Scanning

A scanner reads from the front of a row of characters and leaves the rest. It fails when the
document breaks its format, holds an integer with more digits than are ever read, or nests its
parts deeper than there is room for. How much room there is depends on the machine, on the calls
that lead to the reading and on what else of the document takes up the stack, so it is given for
each reading.

A string of a document may hold one unit of a pair alone, which is no character. No text here holds
it, so such a document is set apart with a fault of its own: nothing is said of it.
-/

namespace InfoFlow

/-- Why a document is not read. -/
inductive DocumentFault where
  /-- The bytes are not UTF-8. -/
  | undecodable
  /-- The text breaks the format. -/
  | malformed
  /-- An integer has too many digits. -/
  | numeralTooLong
  /-- Parts are nested too deep. -/
  | tooDeep
  /-- A string is no row of characters. -/
  | loneUnit
deriving DecidableEq, Repr

/-- A step of reading. -/
abbrev Scan (α : Type) := StateT (List Char) (Except DocumentFault) α

namespace Scan

/-- Refuses the document. -/
def fail {α : Type} : Scan α := throw .malformed

/-- The room that is left inside a part, which takes some of it. -/
def within (room size : Nat) : Scan Nat :=
  if room < size then throw .tooDeep else pure (room - size)

/-- Goes on only under a condition. -/
def require (b : Bool) : Scan Unit := if b then pure () else fail

/-- The next character, left in place. -/
def peek? : Scan (Option Char) := fun cs => .ok (cs.head?, cs)

/-- Drops so many characters. -/
def skip (n : Nat) : Scan Unit := fun cs => .ok ((), cs.drop n)

/-- The longest row of characters of a class. -/
def takeWhile (p : Char → Bool) : Scan (List Char) :=
  fun cs => .ok (cs.takeWhile p, cs.dropWhile p)

/-- Drops the longest row of characters of a class. -/
def skipWhile (p : Char → Bool) : Scan Unit := fun cs => .ok ((), cs.dropWhile p)

/-- Exactly so many characters. -/
def take (n : Nat) : Scan (List Char) := fun cs =>
  if (cs.take n).length < n then .error .malformed else .ok (cs.take n, cs.drop n)

/-- Drops a word if it comes next, and tells whether it did. -/
def accept (word : String) : Scan Bool := fun cs =>
  if word.toList.isPrefixOf cs then .ok (true, cs.drop word.length) else .ok (false, cs)

/-- Drops a word that has to come next. -/
def expect (word : String) : Scan Unit := do require (← accept word)

/-- Runs a scanner if it succeeds, and leaves everything in place if it refuses. -/
def optional {α : Type} (s : Scan α) : Scan (Option α) := fun cs =>
  match s cs with
  | .ok (a, rest) => .ok (some a, rest)
  | .error .malformed => .ok (none, cs)
  | .error e => .error e

/-- Whether nothing is left. -/
def atEnd : Scan Bool := fun cs => .ok (cs.isEmpty, cs)

end Scan

end InfoFlow
