import InfoFlow.Toml.Text
/-!
# Numbers, dates and times of TOML
-/

namespace InfoFlow.Toml

open Decimal

/-! ## Dates and times -/

/-- Two digits whose number lies between two bounds. -/
def twoDigits (least greatest : Nat) : Scan Nat := do
  let ds ← Scan.take 2
  let n := Nat.ofDigitChars 10 ds 0
  Scan.require (ds.all Json.isFigure && least ≤ n && n ≤ greatest)
  pure n

/-- The fraction of a second after its point, in millionths; further digits are cut. -/
def microseconds : Scan Nat := do
  let ds ← Scan.expect "." *> Json.figures
  let six := ds.take 6
  pure (Nat.ofDigitChars 10 (six ++ List.replicate (6 - six.length) '0') 0)

/-- A time of day. -/
def timeOfDay : Scan TimeOfDay := do
  let hour ← twoDigits 0 23
  let minute ← Scan.expect ":" *> twoDigits 0 59
  let second ← Scan.expect ":" *> twoDigits 0 59
  let fraction ← Scan.optional microseconds
  pure ⟨hour, minute, second, fraction.getD 0⟩

/-- An offset from universal time, in minutes. -/
def offset : Scan Int := do
  if (← Scan.accept "Z") || (← Scan.accept "z") then pure 0
  else
    let negative ← Scan.accept "-"
    if !negative then Scan.expect "+"
    let hour ← twoDigits 0 23
    let minute ← Scan.expect ":" *> twoDigits 0 59
    let n : Int := hour * 60 + minute
    pure (if negative then -n else n)

/-- The parts of a date. -/
def date : Scan Date := do
  let ds ← Scan.take 4
  Scan.require (ds.all Json.isFigure)
  let month ← Scan.expect "-" *> twoDigits 1 12
  let day ← Scan.expect "-" *> twoDigits 1 31
  pure ⟨Nat.ofDigitChars 10 ds 0, month, day⟩

/-- A time of day after a date, behind a letter or a space. -/
def timePart : Scan TimeOfDay := do
  let mark ← Scan.take 1
  Scan.require (mark.all fun c => c = 'T' || c = 't' || c = ' ')
  timeOfDay

/-- A date, alone or with a time and perhaps an offset, or a time alone. What is written like a
date has to be one of the calendar. -/
def moment? : Scan (Option Moment) := do
  match ← Scan.optional date with
  | some d =>
    Scan.require d.isValid
    match ← Scan.optional timePart with
    | some t => return some (.dateTime d t (← Scan.optional offset))
    | none => pure (some (.date d))
  | none => return (← Scan.optional timeOfDay).map .time

/-! ## Numbers -/

/-- The longest row of digits of a class with single low lines between them, which are dropped. -/
def digitRow (p : Char → Bool) : List Char → List Char × List Char
  | [] => ([], [])
  | '_' :: d :: cs =>
    if p d then
      let (ds, rest) := digitRow p cs
      (d :: ds, rest)
    else ([], '_' :: d :: cs)
  | c :: cs =>
    if p c then
      let (ds, rest) := digitRow p cs
      (c :: ds, rest)
    else ([], c :: cs)

/-- A row of digits that starts with one. -/
def digits (p : Char → Bool) : Scan (List Char) := do
  Scan.require ((← Scan.peek?).any p)
  fun cs => .ok (digitRow p cs)

/-- An integer in hexadecimal, octal or binary digits. -/
def radixInteger : Scan Value := do
  let number (base : Nat) (p : Char → Bool) : Scan Value := do
    let ds ← digits p
    pure (.int ((ds.filterMap Json.hexValue?).foldl (fun n d => base * n + d) 0 : Nat))
  if ← Scan.accept "0x" then number 16 fun c => (Json.hexValue? c).isSome
  else if ← Scan.accept "0o" then number 8 fun c => '0' ≤ c && c ≤ '7'
  else
    Scan.expect "0b"
    number 2 fun c => c = '0' || c = '1'

/-- The digits in front of a point: a single zero, or a row that does not start with one. -/
def whole : Scan (List Char) := do
  if ← Scan.accept "0" then pure ['0'] else digits Json.isFigure

/-- The power of ten after the letter `e`. -/
def exponent : Scan Int := do
  Scan.require ((← Scan.accept "e") || (← Scan.accept "E"))
  let negative ← Scan.accept "-"
  if !negative then let _ ← Scan.accept "+"
  let n := Nat.ofDigitChars 10 (← digits Json.isFigure) 0
  pure (if negative then -n else n)

/-- A sign, and whether it is negative. -/
def sign : Scan Bool := do
  if ← Scan.accept "-" then pure true
  else
    let _ ← Scan.accept "+"
    pure false

/-- The sign and the digits of a decimal numeral, with its fraction and its power of ten. -/
def decimalParts : Scan (Bool × List Char × Option (List Char) × Option Int) := do
  let negative ← sign
  let ds ← whole
  let part ← Scan.optional (Scan.expect "." *> digits Json.isFigure)
  let power ← Scan.optional exponent
  pure (negative, ds, part, power)

/-- The value of a decimal numeral: an integer if it has neither fraction nor power of ten. -/
def decimalValue : Bool × List Char × Option (List Char) × Option Int → Scan Value
  | (negative, ds, none, none) =>
    match Text.numeral? ds with
    | some n => pure (.int (if negative then -n else n))
    | none => throw .numeralTooLong
  | (negative, ds, part, power) =>
    let part := part.getD []
    let all := ds ++ part
    pure (.float (Binary64.ofDecimal negative (Nat.ofDigitChars 10 all 0) all.length
      (power.getD 0 - part.length)))

/-- The words for what no digits denote. -/
def special : Scan Value := do
  let negative ← sign
  if ← Scan.accept "inf" then pure (.float (.infinite negative))
  else
    Scan.expect "nan"
    pure (.float .notANumber)

/-- A number. -/
def number : Scan Value := do
  match ← Scan.optional radixInteger with
  | some v => pure v
  | none =>
    match ← Scan.optional decimalParts with
    | some parts => decimalValue parts
    | none => special

/-- A value that has no parts. -/
def scalar : Scan Value := do
  match ← string? with
  | some s => pure (.text s)
  | none =>
    if ← Scan.accept "true" then pure (.bool true)
    else if ← Scan.accept "false" then pure (.bool false)
    else
      match ← moment? with
      | some m => pure (.moment m)
      | none => number

end InfoFlow.Toml
