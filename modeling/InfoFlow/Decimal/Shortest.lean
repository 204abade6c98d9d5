import InfoFlow.Decimal.Binary64
/-!
# The shortest numeral of a number

A number of the 64-bit format is written with the fewest decimal digits that are read back as the
same number, and of those numerals the one nearest to it. For one digit, two digits and so on, the
two neighbours of the number on that decimal grid are tested against the interval of the ratios
that round to the number, in exact arithmetic.
-/

namespace InfoFlow.Decimal

/-- The numeral `0.d₁d₂… · 10 ^ point`. -/
structure Numeral where
  digits : List Char
  point : Int
deriving DecidableEq, Repr

/-- Where the decimal point of `num / den` stands: the least `k` with `num / den < 10 ^ k`. -/
def pointOf (num den : Nat) : Int :=
  if den ≤ num then (Nat.toDigits 10 (num / den)).length
  else
    let l := (Nat.toDigits 10 (den / num)).length
    if num * tenPow (l - 1) = den then 2 - (l : Int) else 1 - (l : Int)

/-- The open or closed interval of the ratios that round to `m · 2 ^ e`, in quarters of
`2 ^ e`. -/
structure Rounding where
  least : Nat
  value : Nat
  greatest : Nat
  closed : Bool

/-- The interval below a power of two is half as wide as the one above it. -/
def Rounding.of (m : Nat) (e : Int) : Rounding where
  least := if m = Binary64.significandBound / 2 ∧ Binary64.leastExponent < e then 4 * m - 1
    else 4 * m - 2
  value := 4 * m
  greatest := 4 * m + 2
  closed := m % 2 = 0

/-- The point `c · 10 ^ p` of a grid and the quarters `q · 2 ^ (e - 2)`, on one scale. -/
def onOneScale (c : Nat) (p : Int) (q : Nat) (e : Int) : Nat × Nat :=
  (c * tenPow p.toNat * twoPow (2 - e).toNat, q * twoPow (e - 2).toNat * tenPow (-p).toNat)

/-- Whether the point `c · 10 ^ p` rounds to the number of the interval. -/
def Rounding.contains (r : Rounding) (e : Int) (c : Nat) (p : Int) : Bool :=
  let (x, least) := onOneScale c p r.least e
  let (y, greatest) := onOneScale c p r.greatest e
  if r.closed then least ≤ x && y ≤ greatest else least < x && y < greatest

/-- The nearer of the two neighbours `c` and `c + 1` that round to the number, if one does; a tie
goes to the even one. -/
def Rounding.pick? (r : Rounding) (e : Int) (c : Nat) (p : Int) : Option Nat :=
  match r.contains e c p, r.contains e (c + 1) p with
  | true, false => some c
  | false, true => some (c + 1)
  | false, false => none
  | true, true =>
    let (x, v) := onOneScale c p r.value e
    let (y, w) := onOneScale (c + 1) p r.value e
    if v - x < y - w || (v - x = y - w && c % 2 = 0) then some c else some (c + 1)

/-- Tries the grids of `n`, `n + 1`, … digits, `tries` of them. -/
def shortestFrom (m : Nat) (e : Int) (point : Int) : Nat → Nat → Nat × Int
  | 0, n => (0, point - n)
  | tries + 1, n =>
    let p := point - n
    let (x, v) := onOneScale 1 p (4 * m) e
    match (Rounding.of m e).pick? e (v / x) p with
    | some c => (c, p)
    | none => shortestFrom m e point tries (n + 1)

/-- Without the zeros at the end. -/
def dropTrailingZeros (ds : List Char) : List Char :=
  (ds.reverse.dropWhile (· = '0')).reverse

/-- The shortest numeral of `m · 2 ^ e`. -/
def shortest (m : Nat) (e : Int) : Numeral :=
  if m = 0 then ⟨['0'], 1⟩
  else
    let (c, p) := shortestFrom m e (pointOf (m * twoPow e.toNat) (twoPow (-e).toNat)) 18 1
    let ds := Nat.toDigits 10 c
    ⟨dropTrailingZeros ds, p + ds.length⟩

/-- How a numeral is laid out: with a plain decimal point when its leading digit stands for a power
of ten from `least` on and below `bound`, else with an exponent of at least `exponentWidth`
digits. -/
structure Layout where
  least : Int
  bound : Int
  exponentWidth : Nat

/-- Puts zeros in front up to a width. -/
def padZeros (width : Nat) (ds : List Char) : List Char :=
  List.replicate (width - ds.length) '0' ++ ds

/-- A numeral with a plain decimal point, at least one digit on each side of it. -/
def Numeral.positional (n : Numeral) : List Char :=
  let whole := if n.point ≤ 0 then ['0']
    else n.digits.take n.point.toNat ++ List.replicate (n.point.toNat - n.digits.length) '0'
  let part := List.replicate (-n.point).toNat '0' ++ n.digits.drop n.point.toNat
  whole ++ '.' :: (if part.isEmpty then ['0'] else part)

/-- A numeral with one digit in front of the point and an exponent. -/
def Numeral.scientific (width : Nat) (n : Numeral) : List Char :=
  let exponent := n.point - 1
  let sign := if exponent < 0 then '-' else '+'
  let part := n.digits.drop 1
  n.digits.take 1 ++ (if part.isEmpty then [] else '.' :: part) ++
    'e' :: sign :: padZeros width (Nat.toDigits 10 exponent.natAbs)

/-- A numeral in a layout. -/
def Numeral.render (l : Layout) (n : Numeral) : List Char :=
  if l.least < n.point && n.point ≤ l.bound then n.positional else n.scientific l.exponentWidth

/-- The text of a number, with its sign. -/
def Binary64.render (l : Layout) : Binary64 → String
  | .finite negative m e =>
    String.ofList ((if negative then ['-'] else []) ++ (shortest m e).render l)
  | .infinite negative => if negative then "-inf" else "inf"
  | .notANumber => "nan"

example : shortest 1 (-1074) = ⟨['5'], -323⟩ := by decide +kernel

example : shortest (3 * twoPow 51) (-52) = ⟨['1', '5'], 1⟩ := by decide +kernel

end InfoFlow.Decimal
