import ComponentHost.Decimal.Fixed
import ComponentHost.Wasm.Types

/-! Binary floating point of either width, by exact arithmetic. A finite number is a mantissa
times a power of two; what no bits stand for is rounded to the nearest number, and of two equally
near ones to the one with the even mantissa. Of operands that are no numbers the first is given on
with its quiet bit set; an operation that makes one gives the one whose sign bit is set. -/

namespace ComponentHost.Wasm

abbrev FloatBits (w : Width) : Type := BitVec w.bits

namespace Width

def fraction : Width → Nat
  | w32 => 23
  | w64 => 52

def least : Width → Int
  | w32 => -149
  | w64 => -1074

def topExponent (w : Width) : Nat := 2 ^ (w.bits - 1 - w.fraction) - 1

end Width

namespace FloatBits

variable {w : Width}

def withSign (negative : Bool) (magnitude : Nat) : FloatBits w :=
  if negative then BitVec.intMin w.bits ||| BitVec.ofNat w.bits magnitude
  else BitVec.ofNat w.bits magnitude

def zero (w : Width) (negative : Bool) : FloatBits w := withSign negative 0

def infinityMagnitude (w : Width) : Nat := w.topExponent * 2 ^ w.fraction

def infinity (w : Width) (negative : Bool) : FloatBits w := withSign negative (infinityMagnitude w)

def quietBit (w : Width) : FloatBits w := BitVec.ofNat w.bits (2 ^ (w.fraction - 1))

/-- What is made where there is no result. -/
def invalid (w : Width) : FloatBits w := infinity w true ||| quietBit w

def quiet (x : FloatBits w) : FloatBits w := x ||| quietBit w

def magnitude (x : FloatBits w) : Nat := x.toNat % 2 ^ (w.bits - 1)

def read (x : FloatBits w) : Binary64.Reading :=
  let field := x.magnitude / 2 ^ w.fraction
  let part := x.magnitude % 2 ^ w.fraction
  if field = w.topExponent then if part = 0 then .infinite x.msb else .notANumber
  else if field = 0 then .finite x.msb part w.least
  else .finite x.msb (2 ^ w.fraction + part) (w.least + field - 1)

def isNumber (x : FloatBits w) : Bool := x.magnitude ≤ infinityMagnitude w

/-- The power of two by which a quotient is measured: its mantissa is full, unless the quotient
lies below the numbers whose mantissa is. -/
def unit (w : Width) (num den : Nat) : Int :=
  let d : Int := (num.log2 : Int) - den.log2
  let whole : Bool :=
    if 0 ≤ d then den * 2 ^ d.toNat ≤ num else den ≤ num * 2 ^ (-d).toNat
  max w.least ((if whole then d else d - 1) - w.fraction)

def ofRatio (w : Width) (negative : Bool) (num den : Nat) : FloatBits w :=
  if num = 0 then zero w negative
  else
    let e := unit w num den
    let m :=
      if 0 ≤ e then Decimal.roundDiv .even num (den * 2 ^ e.toNat)
      else Decimal.roundDiv .even (num * 2 ^ (-e).toNat) den
    let magnitude := (e - w.least).toNat * 2 ^ w.fraction + m
    withSign negative (min magnitude (infinityMagnitude w))

def ofScaled (w : Width) (negative : Bool) (mantissa : Nat) (exponent : Int) : FloatBits w :=
  if 0 ≤ exponent then ofRatio w negative (mantissa * 2 ^ exponent.toNat) 1
  else ofRatio w negative mantissa (2 ^ (-exponent).toNat)

def ofInt (w : Width) (n : Int) : FloatBits w := ofRatio w (n < 0) n.natAbs 1

example : ofRatio .w64 false 1 10 = 0x3fb999999999999a := by decide +kernel

example : ofScaled .w32 false 3 (-151) = 1 := by decide +kernel

example : ofScaled .w32 false 1 (-150) = 0 := by decide +kernel

def binary (x y : FloatBits w) (operation : Binary64.Reading → Binary64.Reading → FloatBits w) :
    FloatBits w :=
  if !x.isNumber then x.quiet
  else if !y.isNumber then y.quiet
  else operation x.read y.read

def signed (negative : Bool) (n : Nat) : Int := if negative then -(n : Int) else n

def add (x y : FloatBits w) : FloatBits w :=
  binary x y fun
    | .finite s m e, .finite s' m' e' =>
      let low := min e e'
      let total := signed s (m * 2 ^ (e - low).toNat) + signed s' (m' * 2 ^ (e' - low).toNat)
      if total = 0 then zero w (s && s') else ofScaled w (total < 0) total.natAbs low
    | .infinite s, .infinite s' => if s = s' then x else invalid w
    | .infinite _, _ => x
    | _, _ => y

def negate (x : FloatBits w) : FloatBits w := x ^^^ BitVec.intMin w.bits

def sub (x y : FloatBits w) : FloatBits w := binary x y fun _ _ => add x y.negate

def mul (x y : FloatBits w) : FloatBits w :=
  binary x y fun
    | .finite s m e, .finite s' m' e' => ofScaled w (s ^^ s') (m * m') (e + e')
    | .infinite s, .finite s' m _ | .finite s m _, .infinite s' =>
      if m = 0 then invalid w else infinity w (s ^^ s')
    | .infinite s, .infinite s' => infinity w (s ^^ s')
    | _, _ => invalid w

def div (x y : FloatBits w) : FloatBits w :=
  binary x y fun
    | .finite s m e, .finite s' m' e' =>
      if m' = 0 then if m = 0 then invalid w else infinity w (s ^^ s')
      else
        let d := e - e'
        if 0 ≤ d then ofRatio w (s ^^ s') (m * 2 ^ d.toNat) m'
        else ofRatio w (s ^^ s') m (m' * 2 ^ (-d).toNat)
    | .infinite s, .finite s' _ _ => infinity w (s ^^ s')
    | .finite s _ _, .infinite s' => zero w (s ^^ s')
    | _, _ => invalid w

def root (n : Nat) : Nat :=
  (List.range (n.log2 / 2 + 1)).foldr (fun i r => if (r + 2 ^ i) ^ 2 ≤ n then r + 2 ^ i else r) 0

example : root 99 = 9 := by decide

/-- The root is found to more places than count, and a last one tells whether anything is left. -/
def sqrt (x : FloatBits w) : FloatBits w :=
  match x.read with
  | .notANumber => x.quiet
  | .infinite s => if s then invalid w else x
  | .finite s m e =>
    if m = 0 then x
    else if s then invalid w
    else
      let places := w.fraction + 3
      let n := (if e % 2 = 0 then m else 2 * m) * 4 ^ places
      let r := root n
      ofScaled w false (2 * r + if r * r = n then 0 else 1) ((e - e % 2) / 2 - places - 1)

inductive Direction
  | up
  | down
  | toZero
  | nearest
deriving DecidableEq

def Direction.rises (d : Direction) (negative : Bool) (whole rest den : Nat) : Bool :=
  match d with
  | up => !negative && rest ≠ 0
  | down => negative && rest ≠ 0
  | toZero => false
  | nearest => den < 2 * rest || (2 * rest = den && whole % 2 = 1)

def toIntegral (d : Direction) (x : FloatBits w) : FloatBits w :=
  match x.read with
  | .notANumber => x.quiet
  | .infinite _ => x
  | .finite s m e =>
    if 0 ≤ e then x
    else
      let den := 2 ^ (-e).toNat
      let whole := m / den
      ofRatio w s (if d.rises s whole (m % den) den then whole + 1 else whole) 1

def rank (x : FloatBits w) : Int := signed x.msb x.magnitude

def less (x y : FloatBits w) : Bool := x.isNumber && y.isNumber && x.rank < y.rank

def equal (x y : FloatBits w) : Bool := x.isNumber && y.isNumber && x.rank = y.rank

/-- The lesser of two numbers or, as `greater` says, the other one; the zeros have an order here.
Where both are no numbers the second counts. -/
def extreme (greater : Bool) (x y : FloatBits w) : FloatBits w :=
  if !y.isNumber then y.quiet
  else if !x.isNumber then x.quiet
  else if x.rank < y.rank then if greater then y else x
  else if y.rank < x.rank then if greater then x else y
  else if greater then x &&& y
  else x ||| y

def convert (source target : Width) (x : FloatBits source) : FloatBits target :=
  match x.read with
  | .infinite s => infinity target s
  | .finite s m e => ofScaled target s m e
  | .notANumber =>
    let part := x.magnitude % 2 ^ source.fraction
    let kept :=
      if source.fraction ≤ target.fraction then part * 2 ^ (target.fraction - source.fraction)
      else part / 2 ^ (source.fraction - target.fraction)
    infinity target x.msb ||| BitVec.ofNat target.bits kept ||| quietBit target

def whole : Binary64.Reading → Int
  | .finite s m e => signed s (if 0 ≤ e then m * 2 ^ e.toNat else m / 2 ^ (-e).toNat)
  | _ => 0

def integerBounds (bits : Nat) (isSigned : Bool) : Int × Int :=
  if isSigned then (-2 ^ (bits - 1), 2 ^ (bits - 1) - 1) else (0, 2 ^ bits - 1)

def truncate (bits : Nat) (isSigned : Bool) (x : FloatBits w) : Except Trap (BitVec bits) :=
  match x.read with
  | .notANumber => .error .invalidConversion
  | .infinite _ => .error .overflow
  | r =>
    let (low, high) := integerBounds bits isSigned
    if low ≤ whole r ∧ whole r ≤ high then .ok (BitVec.ofInt bits (whole r)) else .error .overflow

/-- As `truncate`, but a number out of bounds gives the bound and what is no number gives zero. -/
def saturate (bits : Nat) (isSigned : Bool) (x : FloatBits w) : BitVec bits :=
  let (low, high) := integerBounds bits isSigned
  match x.read with
  | .notANumber => 0
  | .infinite s => BitVec.ofInt bits (if s then low else high)
  | r => BitVec.ofInt bits (max low (min high (whole r)))

end FloatBits

end ComponentHost.Wasm
