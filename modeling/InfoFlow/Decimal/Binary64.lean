/-!
# Numbers of the 64-bit binary format

A finite number is `± significand · 2 ^ exponent`, where the significand has at most 53 bits and
the exponent is at least -1074. A decimal numeral is read as the nearest such number, a tie as the
one with the even significand, in exact arithmetic on ratios of natural numbers.
-/

namespace InfoFlow.Decimal

/-- A power of two. -/
def twoPow (n : Nat) : Nat := Nat.pow 2 n

/-- A power of ten. -/
def tenPow (n : Nat) : Nat := Nat.pow 10 n

/-- A number of the 64-bit binary format. -/
inductive Binary64 where
  | finite (negative : Bool) (significand : Nat) (exponent : Int)
  | infinite (negative : Bool)
  | notANumber
deriving DecidableEq, Repr

namespace Binary64

/-- The least exponent of a significand. -/
def leastExponent : Int := -1074

/-- The greatest exponent of a significand. -/
def greatestExponent : Int := 971

/-- A significand is less than this: it has at most 53 bits. -/
def significandBound : Nat := twoPow 53

/-- The ratio `num / den` to the nearest natural number, a tie to the even one. -/
def roundRatio (num den : Nat) : Nat :=
  let below := num / den
  let rest := 2 * (num % den)
  if rest < den || (rest = den && below % 2 = 0) then below else below + 1

/-- The two sides of `num / den / 2 ^ e` as natural numbers. -/
def scaleRatio (num den : Nat) (e : Int) : Nat × Nat :=
  (num * twoPow (-e).toNat, den * twoPow e.toNat)

/-- The exponent at which the ratio has a significand of 53 bits, or the least one. -/
def exponentFor (num den : Nat) : Int :=
  let e := max ((num.log2 : Int) - den.log2 - 52) leastExponent
  let (n, d) := scaleRatio num den e
  if n / d < significandBound / 2 then max (e - 1) leastExponent else e

/-- The number nearest to `num / den`. -/
def ofRatio (negative : Bool) (num den : Nat) : Binary64 :=
  if num = 0 then .finite negative 0 leastExponent
  else
    let e := exponentFor num den
    let (n, d) := scaleRatio num den e
    let m := roundRatio n d
    let (m, e) := if m < significandBound then (m, e) else (significandBound / 2, e + 1)
    if greatestExponent < e then .infinite negative else .finite negative m e

/-- Beyond this power of ten a numeral is infinite, and below its opposite it is zero. -/
def decimalReach : Int := 400

/-- The number nearest to `± coefficient · 10 ^ exponent`, where the coefficient is written with
`length` digits. -/
def ofDecimal (negative : Bool) (coefficient length : Nat) (exponent : Int) : Binary64 :=
  if coefficient = 0 then .finite negative 0 leastExponent
  else if exponent + length < -decimalReach then .finite negative 0 leastExponent
  else if decimalReach + length < exponent + length then .infinite negative
  else ofRatio negative (coefficient * tenPow exponent.toNat) (tenPow (-exponent).toNat)

example : ofDecimal false 15 2 (-1) = .finite false (3 * twoPow 51) (-52) := by decide +kernel

example : ofDecimal false 5 1 (-324) = .finite false 1 (-1074) := by decide +kernel

example : ofDecimal false 2 1 308 = .infinite false := by decide +kernel

end Binary64

end InfoFlow.Decimal
