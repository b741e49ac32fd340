import ComponentHost.Decimal.Fixed

/-! The fewest decimal digits that read back to a double, and the texts made of them. The
doubles' rounding intervals are compared in whole numbers: a positive double is
`mantissa * 2 ^ exponent`, and the reals that round to it lie within half a step of it. -/

namespace ComponentHost.Decimal

structure Digits where
  coefficient : Nat
  power : Int
deriving DecidableEq

def scale (num den : Nat) (power : Int) : Nat × Nat :=
  if 0 ≤ power then (num, den * 10 ^ power.toNat) else (num * 10 ^ (-power).toNat, den)

/-- The reals that round to a double, as numerators over one denominator. -/
structure Interval where
  low : Nat
  mid : Nat
  high : Nat
  den : Nat
  closed : Bool
deriving DecidableEq

def Interval.ofBinary (mantissa : Nat) (exponent : Int) (narrowBelow : Bool) : Interval :=
  let up := if 0 ≤ exponent then 2 ^ exponent.toNat else 1
  let down := if 0 ≤ exponent then 1 else 2 ^ (-exponent).toNat
  { low := (4 * mantissa - if narrowBelow then 1 else 2) * up
    mid := 4 * mantissa * up
    high := (4 * mantissa + 2) * up
    den := 4 * down
    closed := mantissa % 2 = 0 }

def Interval.holds (i : Interval) (d : Digits) : Bool :=
  let (n, d) := if 0 ≤ d.power then (d.coefficient * 10 ^ d.power.toNat, 1)
    else (d.coefficient, 10 ^ (-d.power).toNat)
  if i.closed then i.low * d ≤ n * i.den && n * i.den ≤ i.high * d
  else i.low * d < n * i.den && n * i.den < i.high * d

def shift (num den places : Nat) : Nat → Nat
  | 0 => places
  | fuel + 1 => if den ≤ num * 10 ^ places then places else shift num den (places + 1) fuel

def leading (num den : Nat) : Int :=
  if den ≤ num then ((Nat.toDigits 10 (num / den)).length : Int) - 1
  else -(shift num den 1 400 : Int)

/-- The better of a double's two neighbours on a decimal grid, if one rounds to it. -/
def nearestOn (tie : Tie) (i : Interval) (power : Int) : Option Digits :=
  let (num, den) := scale i.mid i.den power
  let below : Digits := ⟨num / den, power⟩
  let above : Digits := ⟨num / den + 1, power⟩
  let near := if roundDiv tie num den = num / den then below else above
  let far := if near = below then above else below
  if i.holds near then some near else if i.holds far then some far else none

def dropZeros : Nat → Digits → Digits
  | 0, d => d
  | fuel + 1, d =>
    if d.coefficient ≠ 0 ∧ d.coefficient % 10 = 0 then
      dropZeros fuel ⟨d.coefficient / 10, d.power + 1⟩
    else d

/-- The fewest digits that read back, and of those the nearest. -/
def shortest (tie : Tie) (i : Interval) : Digits :=
  let top := leading i.mid i.den
  let found := (List.range 17).findSome? fun n : Nat => nearestOn tie i (top - n)
  dropZeros 400 (found.getD ⟨0, 0⟩)

/-- How a double is written: which of two equally near decimals stands for it, and from which
decimal exponents on it is written with an exponent. -/
structure Layout where
  tie : Tie
  low : Int
  high : Int

def exponentText (e : Int) : String := (if e < 0 then "e-" else "e+") ++ toString e.natAbs

def positional (digits : List Char) (power : Int) : List Char :=
  if 0 ≤ power then digits ++ List.replicate power.toNat '0' ++ ['.', '0']
  else
    let places := (-power).toNat
    if digits.length ≤ places then
      ['0', '.'] ++ List.replicate (places - digits.length) '0' ++ digits
    else digits.take (digits.length - places) ++ '.' :: digits.drop (digits.length - places)

def Layout.text (l : Layout) (d : Digits) : String :=
  let digits := Nat.toDigits 10 d.coefficient
  let exponent := d.power + digits.length - 1
  if l.low ≤ exponent ∧ exponent < l.high then String.ofList (positional digits d.power)
  else
    let fraction := digits.drop 1
    String.ofList (digits.take 1 ++ (if fraction.isEmpty then [] else '.' :: fraction)) ++
      exponentText exponent

def write (l : Layout) (x : Binary64) : String :=
  match x.read with
  | .notANumber => "NaN"
  | .infinite negative => if negative then "-inf" else "inf"
  | .finite negative mantissa exponent =>
    (if negative then "-" else "") ++
      if mantissa = 0 then "0.0"
      else l.text (shortest l.tie (.ofBinary mantissa exponent
        (mantissa = 2 ^ 52 && 1 < x.exponentField)))

end ComponentHost.Decimal
