import InfoFlow.Scan
import InfoFlow.Text.Digits
import InfoFlow.Value
/-!
# Reading JSON

A JSON text denotes a value. The words `NaN`, `Infinity` and `-Infinity` are read as numbers too,
and of equal keys in one object the first gives the place and the last the value. A numeral with a
fraction or an exponent is a number of the 64-bit format, any other one an integer.
-/

namespace InfoFlow.Json

open Decimal

/-- The four characters that may stand between the parts. -/
def isSpace (c : Char) : Bool := c = ' ' || c = '\t' || c = '\n' || c = '\r'

/-- An ASCII digit. -/
def isFigure (c : Char) : Bool := '0' ≤ c && c ≤ '9'

/-- The value of a hexadecimal digit of either case. -/
def hexValue? (c : Char) : Option Nat :=
  if isFigure c then some (c.toNat - '0'.toNat)
  else if 'a' ≤ c && c ≤ 'f' then some (c.toNat - 'a'.toNat + 10)
  else if 'A' ≤ c && c ≤ 'F' then some (c.toNat - 'A'.toNat + 10)
  else none

/-- The number that a row of hexadecimal digits denotes. -/
def hexNumber? (cs : List Char) : Option Nat :=
  cs.foldlM (fun n c => (hexValue? c).map fun d => 16 * n + d) 0

/-- The character that a backslash and a letter stand for. -/
def shortEscape? : Char → Option Char
  | '"' => some '"'
  | '\\' => some '\\'
  | '/' => some '/'
  | 'b' => some '\x08'
  | 'f' => some '\x0c'
  | 'n' => some '\n'
  | 'r' => some '\r'
  | 't' => some '\t'
  | _ => none

/-- The first half of a pair of units that together stand for one character. -/
def isHighUnit (n : Nat) : Bool := 0xd800 ≤ n && n < 0xdc00

/-- The second half of such a pair. -/
def isLowUnit (n : Nat) : Bool := 0xdc00 ≤ n && n < 0xe000

/-- The character of a pair. -/
def joinUnits (high low : Nat) : Char :=
  Char.ofNat (0x10000 + (high - 0xd800) * 0x400 + (low - 0xdc00))

/-- The character of a unit that stands alone. Half a pair has none. -/
def unitChar (n : Nat) : Scan Char :=
  if isHighUnit n || isLowUnit n then throw .loneUnit else pure (Char.ofNat n)

/-- The four hexadecimal digits of a unit. -/
def unit : Scan Nat := do
  match hexNumber? (← Scan.take 4) with
  | some n => pure n
  | none => Scan.fail

/-- The second unit of a pair, as an escape of its own. -/
def lowUnit : Scan Nat := do
  Scan.expect "\\u"
  let low ← unit
  Scan.require (isLowUnit low)
  pure low

/-- A unit, joined with a second one if the two are a pair. -/
def unitEscape : Scan Char := do
  let high ← unit
  if isHighUnit high then
    match ← Scan.optional lowUnit with
    | some low => pure (joinUnits high low)
    | none => unitChar high
  else unitChar high

/-- What follows a backslash. -/
def escape : Scan Char := do
  match ← Scan.take 1 with
  | ['u'] => unitEscape
  | [c] =>
    match shortEscape? c with
    | some c => pure c
    | none => Scan.fail
  | _ => Scan.fail

/-- The characters of a string up to its closing quote, with those read so far in reverse. -/
def stringRest : Nat → List Char → Scan String
  | 0, _ => Scan.fail
  | fuel + 1, done => do
    match ← Scan.take 1 with
    | ['"'] => pure (String.ofList done.reverse)
    | ['\\'] => do stringRest fuel ((← escape) :: done)
    | [c] => do
      Scan.require (0x20 ≤ c.toNat)
      stringRest fuel (c :: done)
    | _ => Scan.fail

/-- A string, after its opening quote. -/
def string : Scan String := fun cs => stringRest cs.length [] cs

/-- A row of digits, at least one. -/
def figures : Scan (List Char) := do
  let ds ← Scan.takeWhile isFigure
  Scan.require (!ds.isEmpty)
  pure ds

/-- The digits in front of a point: a single zero, or a row that does not start with one. -/
def whole : Scan (List Char) := do
  if ← Scan.accept "0" then pure ['0'] else figures

/-- The digits after a point. -/
def fraction : Scan (List Char) := Scan.expect "." *> figures

/-- The power of ten after the letter `e`. -/
def exponent : Scan Int := do
  Scan.require ((← Scan.accept "e") || (← Scan.accept "E"))
  let negative ← Scan.accept "-"
  if !negative then let _ ← Scan.accept "+"
  let n := Nat.ofDigitChars 10 (← figures) 0
  pure (if negative then -n else n)

/-- A numeral. -/
def number : Scan Value := do
  let negative ← Scan.accept "-"
  let ds ← whole
  let part ← Scan.optional fraction
  let power ← Scan.optional exponent
  if part.isSome || power.isSome then
    let part := part.getD []
    let all := ds ++ part
    pure (.float (Binary64.ofDecimal negative (Nat.ofDigitChars 10 all 0) all.length
      (power.getD 0 - part.length)))
  else
    match Text.numeral? ds with
    | some n => pure (.int (if negative then -n else n))
    | none => throw .numeralTooLong

/-- The words that stand for a value. -/
def words : List (String × Value) := [
  ("null", .null), ("true", .bool true), ("false", .bool false),
  ("NaN", .float .notANumber), ("Infinity", .float (.infinite false)),
  ("-Infinity", .float (.infinite true))]

/-- A word of the list, if one comes next. -/
def word? : List (String × Value) → Scan (Option Value)
  | [] => pure none
  | (w, v) :: ws => do if ← Scan.accept w then pure (some v) else word? ws

/-- A value that has no parts. -/
def scalar : Scan Value := do
  match ← word? words with
  | some v => pure v
  | none => if ← Scan.accept "\"" then return .text (← string) else number

mutual

/-- A value, in so much room for its parts. -/
def value : Nat → Nat → Scan Value
  | 0, _ => Scan.fail
  | fuel + 1, room => do
    if ← Scan.accept "[" then
      let room ← Scan.within room 1
      Scan.skipWhile isSpace
      if ← Scan.accept "]" then pure (.list []) else return .list (← items fuel room)
    else if ← Scan.accept "\x7b" then
      let room ← Scan.within room 1
      Scan.skipWhile isSpace
      if ← Scan.accept "\x7d" then pure (.table [])
      else return .table (Keyed.ofList (← members fuel room))
    else scalar

/-- The items of a list up to its closing bracket, at least one. -/
def items : Nat → Nat → Scan (List Value)
  | 0, _ => Scan.fail
  | fuel + 1, room => do
    let v ← value fuel room
    Scan.skipWhile isSpace
    if ← Scan.accept "]" then pure [v]
    else
      Scan.expect ","
      Scan.skipWhile isSpace
      return v :: (← items fuel room)

/-- The members of an object up to its closing brace, at least one. -/
def members : Nat → Nat → Scan (List (String × Value))
  | 0, _ => Scan.fail
  | fuel + 1, room => do
    Scan.expect "\""
    let key ← string
    Scan.skipWhile isSpace
    Scan.expect ":"
    Scan.skipWhile isSpace
    let v ← value fuel room
    Scan.skipWhile isSpace
    if ← Scan.accept "\x7d" then pure [(key, v)]
    else
      Scan.expect ","
      Scan.skipWhile isSpace
      return (key, v) :: (← members fuel room)

end

/-- A whole document: one value, with space around it. -/
def document (room size : Nat) : Scan Value := do
  Scan.skipWhile isSpace
  let v ← value (2 * size + 2) room
  Scan.skipWhile isSpace
  Scan.require (← Scan.atEnd)
  pure v

/-- The value that a text denotes, with so much room for parts inside each other. -/
def read (room : Nat) (cs : List Char) : Except DocumentFault Value :=
  (document room cs.length).run' cs

end InfoFlow.Json
