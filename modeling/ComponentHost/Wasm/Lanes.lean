import ComponentHost.Wasm.Numeric

/-! Vectors of 128 bits as rows of lanes, the first lane in the lowest bits. -/

namespace ComponentHost.Wasm

abbrev Vector128 : Type := BitVec 128

namespace Vector128

def lanes (w : Nat) (v : Vector128) : List (BitVec w) :=
  (List.range (128 / w)).map fun i => v.extractLsb' (i * w) w

def ofLanes {w : Nat} : List (BitVec w) → Vector128
  | [] => 0
  | x :: xs => x.zeroExtend 128 ||| (ofLanes xs <<< w)

example : ofLanes ([1, 2, 3, 4] : List (BitVec 32)) = 316912650112397582603894390785 := by decide

example : lanes 32 (ofLanes ([1, 2, 3, 4] : List (BitVec 32))) = [1, 2, 3, 4] := by decide

def map (w : Nat) {w' : Nat} (f : BitVec w → BitVec w') (v : Vector128) : Vector128 :=
  ofLanes ((lanes w v).map f)

def zipWith (w : Nat) {w' : Nat} (f : BitVec w → BitVec w → BitVec w') (u v : Vector128) :
    Vector128 :=
  ofLanes ((lanes w u).zipWith f (lanes w v))

end Vector128

inductive LaneUnary
  | abs
  | neg
  | popcnt
deriving DecidableEq

inductive LaneBinary
  | add
  | sub
  | mul
  | addWithin (signed : Bool)
  | subWithin (signed : Bool)
  | min (signed : Bool)
  | max (signed : Bool)
  | average
  /-- The product of two fractions of fifteen bits, rounded; only that of the least with itself is
  out of bounds. -/
  | fractionProduct (bounded : Bool)
deriving DecidableEq

inductive LaneShift
  | left
  | right (signed : Bool)
deriving DecidableEq

inductive Bitwise
  | and
  | andNot
  | or
  | xor
deriving DecidableEq

def laneValue {w : Nat} (signed : Bool) (x : BitVec w) : Int := if signed then x.toInt else x.toNat

def laneWithin (w : Nat) (signed : Bool) (n : Int) : BitVec w :=
  let (low, high) := FloatBits.integerBounds w signed
  BitVec.ofInt w (Max.max low (Min.min high n))

def LaneUnary.apply {w : Nat} (op : LaneUnary) (x : BitVec w) : BitVec w :=
  match op with
  | abs => if x.msb then -x else x
  | neg => -x
  | popcnt => IntUnary.popcnt.apply x

def LaneBinary.apply {w : Nat} (op : LaneBinary) (x y : BitVec w) : BitVec w :=
  match op with
  | add => x + y
  | sub => x - y
  | mul => x * y
  | addWithin signed => laneWithin w signed (laneValue signed x + laneValue signed y)
  | subWithin signed => laneWithin w signed (laneValue signed x - laneValue signed y)
  | min signed => if laneValue signed x ≤ laneValue signed y then x else y
  | max signed => if laneValue signed x ≤ laneValue signed y then y else x
  | average => BitVec.ofNat w ((x.toNat + y.toNat + 1) / 2)
  | fractionProduct bounded =>
    let n := (x.toInt * y.toInt + 2 ^ 14) / 2 ^ 15
    if bounded then laneWithin w true n else BitVec.ofInt w n

def LaneShift.apply {w : Nat} (op : LaneShift) (x : BitVec w) (places : Nat) : BitVec w :=
  match op with
  | left => x <<< (places % w)
  | right signed => if signed then x.sshiftRight (places % w) else x >>> (places % w)

def Bitwise.apply (op : Bitwise) (u v : Vector128) : Vector128 :=
  match op with
  | and => u &&& v
  | andNot => u &&& ~~~v
  | or => u ||| v
  | xor => u ^^^ v

end ComponentHost.Wasm
