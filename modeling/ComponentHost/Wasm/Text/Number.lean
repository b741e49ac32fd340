import ComponentHost.Text.Digit
import ComponentHost.Wasm.Float

/-! Numbers in the text format: whole ones and floats, in decimal or in hex. Digits may be parted by
single underscores. -/

namespace ComponentHost.Wasm.Literal

def digits? (isDigit : Char → Bool) : List Char → Option (List Char)
  | [] => none
  | [c] => if isDigit c then some [c] else none
  | c :: '_' :: rest => if isDigit c then (digits? isDigit rest).map (c :: ·) else none
  | c :: rest => if isDigit c then (digits? isDigit rest).map (c :: ·) else none

def natural? (cs : List Char) : Option Nat :=
  match cs with
  | '0' :: 'x' :: cs => (digits? Text.isHexDigit cs).map (Text.number 16)
  | cs => (digits? Char.isDigit cs).map (Text.number 10)

def unsigned (cs : List Char) : Bool × List Char :=
  match cs with
  | '-' :: cs => (true, cs)
  | '+' :: cs => (false, cs)
  | cs => (false, cs)

def signed? (cs : List Char) : Option Int := do
  let (negative, cs) := unsigned cs
  some (FloatBits.signed negative (← natural? cs))

def index? (w : String) : Option Nat := do
  let n ← natural? w.toList
  if n < 2 ^ 32 then some n else none

def int? (bits : Nat) (w : String) : Option (BitVec bits) := do
  let n ← signed? w.toList
  if -2 ^ (bits - 1) ≤ n ∧ n < 2 ^ bits then some (BitVec.ofInt bits n) else none

structure Base where
  radix : Nat
  isDigit : Char → Bool
  mark : Char
  power : Nat
  places : Nat

def decimal : Base := ⟨10, Char.isDigit, 'e', 10, 1⟩

def hex : Base := ⟨16, Text.isHexDigit, 'p', 2, 4⟩

structure Scaled where
  digits : List Char
  exponent : Int

def exponent? (b : Base) : List Char → Option Int
  | [] => some 0
  | c :: cs => do
    if c.toLower = b.mark then
      let (negative, cs) := unsigned cs
      some (FloatBits.signed negative (Text.number 10 (← digits? Char.isDigit cs)))
    else none

def scaled? (b : Base) (cs : List Char) : Option Scaled := do
  let belongs (c : Char) : Bool := b.isDigit c || c = '_'
  let whole ← digits? b.isDigit (cs.takeWhile belongs)
  match cs.dropWhile belongs with
  | '.' :: cs =>
    let part := cs.takeWhile belongs
    let behind ← if part.isEmpty then some [] else digits? b.isDigit part
    let e ← exponent? b (cs.dropWhile belongs)
    some ⟨whole ++ behind, e - b.places * behind.length⟩
  | cs => some ⟨whole, ← exponent? b cs⟩

/-- No float is as great as this power of two or as small as its inverse, nor has one as many
digits. -/
def reach : Int := 2000

def nearest? (w : Width) (negative : Bool) (b : Base) (s : Scaled) : Option (FloatBits w) :=
  let n := Text.number b.radix s.digits
  if n = 0 ∨ s.exponent + b.places * s.digits.length < -reach then
    some (FloatBits.zero w negative)
  else if reach < s.exponent then none
  else
    let x :=
      if 0 ≤ s.exponent then FloatBits.ofRatio w negative (n * b.power ^ s.exponent.toNat) 1
      else FloatBits.ofRatio w negative n (b.power ^ (-s.exponent).toNat)
    if x.magnitude < FloatBits.infinityMagnitude w then some x else none

/-- The bits below the exponent of what is no number; some have to be set. -/
def payload? (w : Width) (negative : Bool) (n : Nat) : Option (FloatBits w) :=
  let part := n % 2 ^ w.fraction
  if n < 2 ^ w.bits ∧ part ≠ 0 then
    some (FloatBits.infinity w negative ||| BitVec.ofNat w.bits part)
  else none

def exponentOk (b : Base) (s : Scaled) : Bool :=
  b.power = 10 || (-2 ^ 31 ≤ s.exponent && s.exponent < 2 ^ 31)

def float? (w : Width) (word : String) : Option (FloatBits w) := do
  let (negative, cs) := unsigned word.toList
  match cs with
  | ['i', 'n', 'f'] => some (FloatBits.infinity w negative)
  | ['n', 'a', 'n'] => some (FloatBits.infinity w negative ||| FloatBits.quietBit w)
  | 'n' :: 'a' :: 'n' :: ':' :: '0' :: 'x' :: cs =>
    payload? w negative (Text.number 16 (← digits? Text.isHexDigit cs))
  | '0' :: 'x' :: cs =>
    let s ← scaled? hex cs
    if exponentOk hex s then nearest? w negative hex s else none
  | cs => nearest? w negative decimal (← scaled? decimal cs)

example : float? .w64 "-0x1.8p1" = some 0xc008000000000000 := by decide +kernel

example : float? .w32 "1.5e-1" = some 0x3e19999a := by decide +kernel

end ComponentHost.Wasm.Literal
