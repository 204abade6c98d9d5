import InfoFlow.Text.Quoted
import InfoFlow.Value
/-!
# Writing JSON

A value is written in ASCII, on one line or with one entry to a line, two spaces deeper for each
level. On several lines the keys of a table stand in the order of their code points.
-/

namespace InfoFlow.Json

open Text

/-- The escape of one 16-bit unit. -/
def unitText (n : Nat) : List Char := '\\' :: 'u' :: hexDigits 4 n

/-- How a character is written inside a string: the quote, the backslash and the common controls by
a short escape, other characters outside printed ASCII by one unit or a pair of them. -/
def escapeChar (c : Char) : List Char :=
  let n := c.toNat
  if c = '"' ∨ c = '\\' then ['\\', c]
  else if c = '\n' then ['\\', 'n']
  else if c = '\r' then ['\\', 'r']
  else if c = '\t' then ['\\', 't']
  else if c = '\x0c' then ['\\', 'f']
  else if c = '\x08' then ['\\', 'b']
  else if 0x20 ≤ n ∧ n ≤ 0x7e then [c]
  else if n < 0x10000 then unitText n
  else unitText (0xd800 + (n - 0x10000) / 0x400) ++ unitText (0xdc00 + (n - 0x10000) % 0x400)

/-- A string between its quotes. -/
def stringText (s : String) : String :=
  String.ofList ('"' :: s.toList.flatMap escapeChar ++ ['"'])

/-- The text of a value that has no parts. Numbers without a value have words of their own, and a
moment stands as the text that shows it. -/
def scalarText : Value → String
  | .null => "null"
  | .bool b => if b then "true" else "false"
  | .int i => toString i
  | .float .notANumber => "NaN"
  | .float (.infinite negative) => if negative then "-Infinity" else "Infinity"
  | .float x => x.render Value.numberLayout
  | .text s => stringText s
  | .moment m => stringText m.shown
  | .list _ => "[]"
  | .table _ => "\x7b\x7d"

/-- The line feed and the spaces in front of an entry at a depth. -/
def newline (depth : Nat) : String := "\n" ++ String.ofList (List.replicate (2 * depth) ' ')

/-- Entries between brackets, one to a line, or nothing between them. -/
def block (left right : String) (depth : Nat) (parts : List String) : String :=
  if parts.isEmpty then left ++ right
  else left ++ String.join ((parts.map (newline (depth + 1) ++ ·)).intersperse ",") ++
    newline depth ++ right

mutual

/-- A value on one line. -/
def compact : Value → String
  | .list vs => "[" ++ String.intercalate ", " (compactItems vs) ++ "]"
  | .table es => "\x7b" ++ String.intercalate ", " (compactEntries es) ++ "\x7d"
  | v => scalarText v

/-- The items of a list, each on one line. -/
def compactItems : List Value → List String
  | [] => []
  | v :: vs => compact v :: compactItems vs

/-- The entries of a table, each on one line. -/
def compactEntries : List (String × Value) → List String
  | [] => []
  | (k, v) :: es => (stringText k ++ ": " ++ compact v) :: compactEntries es

end

mutual

/-- A value with one entry to a line, starting at a depth. -/
def indented (depth : Nat) : Value → String
  | .list vs => block "[" "]" depth (indentedItems (depth + 1) vs)
  | .table es => block "\x7b" "\x7d" depth
      (((indentedEntries (depth + 1) es).mergeSort fun a b => !decide (b.1 < a.1)).map
        fun e => stringText e.1 ++ ": " ++ e.2)
  | v => scalarText v

/-- The texts of the items of a list. -/
def indentedItems (depth : Nat) : List Value → List String
  | [] => []
  | v :: vs => indented depth v :: indentedItems depth vs

/-- The keys of a table with the texts of their values. -/
def indentedEntries (depth : Nat) : List (String × Value) → List (String × String)
  | [] => []
  | (k, v) :: es => (k, indented depth v) :: indentedEntries depth es

end

end InfoFlow.Json
