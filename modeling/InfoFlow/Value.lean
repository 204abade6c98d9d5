import InfoFlow.Decimal.Shortest
import InfoFlow.Keyed
import InfoFlow.Moment
import InfoFlow.Text.Digits
import InfoFlow.Text.Quoted
/-!
# Values of unchecked data

Graph snapshots, configuration files and options arrive as data of any shape. A value is such a
piece of data before it is checked; the checks quote the value that they refuse.
-/

namespace InfoFlow

open Decimal Text

/-- A piece of unchecked data. Tables keep the order of their keys. -/
inductive Value where
  | null
  | bool (b : Bool)
  | int (i : Int)
  | float (x : Binary64)
  | text (s : String)
  | moment (m : Moment)
  | list (items : List Value)
  | table (entries : List (String × Value))
deriving Inhabited

namespace Value

/-- Numbers stand with a plain point from a ten-thousandth up to sixteen whole digits. -/
def numberLayout : Layout where
  least := -4
  bound := 16
  exponentWidth := 2

mutual

/-- The form in which a message quotes a value. -/
def quoted : Value → String
  | .null => "None"
  | .bool b => if b then "True" else "False"
  | .int i => toString i
  | .float x => x.render numberLayout
  | .text s => Text.quoted s
  | .moment m => m.shown
  | .list items => "[" ++ String.intercalate ", " (quotedItems items) ++ "]"
  | .table entries => "\x7b" ++ String.intercalate ", " (quotedEntries entries) ++ "\x7d"

/-- The quoted items of a list. -/
def quotedItems : List Value → List String
  | [] => []
  | v :: vs => quoted v :: quotedItems vs

/-- The quoted entries of a table. -/
def quotedEntries : List (String × Value) → List String
  | [] => []
  | (k, v) :: es => (Text.quoted k ++ ": " ++ quoted v) :: quotedEntries es

end

mutual

/-- Whether a value can be quoted: it holds no integer with more digits than are ever written. -/
def isQuotable : Value → Bool
  | .int i => (toString i.natAbs).length ≤ maxNumeralLength
  | .list items => areQuotable items
  | .table entries => areQuotableEntries entries
  | _ => true

/-- Whether all items of a list can be quoted. -/
def areQuotable : List Value → Bool
  | [] => true
  | v :: vs => isQuotable v && areQuotable vs

/-- Whether the values of all entries can be quoted. -/
def areQuotableEntries : List (String × Value) → Bool
  | [] => true
  | (_, v) :: es => isQuotable v && areQuotableEntries es

end

/-- The form in which a message writes a value without quoting it. -/
def plain : Value → String
  | .text s => s
  | v => v.quoted

/-- The entries of a table, none of anything else. -/
def entries? : Value → Option (Keyed String Value)
  | .table entries => some entries
  | _ => none

/-- The text of a text. -/
def text? : Value → Option String
  | .text s => some s
  | _ => none

end Value

end InfoFlow
