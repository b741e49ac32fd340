import ComponentHost.Wasm.Lanes

/-! The operations on vectors, with their types, their names in the text format and their codes in
the binary one. Operations that leave a choice to the machine are loose here: they do what is
easiest where the others keep within bounds. -/

namespace ComponentHost.Wasm

inductive VectorOp
  | splat (type : ValueType) (lane : Nat)
  | extract (type : ValueType) (lane : Nat) (signed : Bool) (index : Nat)
  | replace (type : ValueType) (lane : Nat) (index : Nat)
  | shuffle (indices : List Nat)
  | swizzle
  /-- Picks bytes by the lowest bits of an index, and zero only where its highest bit is set. -/
  | swizzleLoosely
  | not
  | bitwise (op : Bitwise)
  | choose
  | chooseLanes (lane : Nat)
  | anyTrue
  | allTrue (lane : Nat)
  | bitmask (lane : Nat)
  | unary (lane : Nat) (op : LaneUnary)
  | binary (lane : Nat) (op : LaneBinary)
  | relation (lane : Nat) (op : IntRelation)
  | shift (lane : Nat) (op : LaneShift)
  | floatUnary (w : Width) (op : FloatUnary)
  | floatBinary (w : Width) (op : FloatBinary)
  | floatRelation (w : Width) (op : FloatRelation)
  | extreme (w : Width) (greater : Bool)
  /-- The first operand, unless the second is less or greater. -/
  | prefer (w : Width) (greater : Bool)
  | multiplyAdd (w : Width) (negated : Bool)
  | narrow (lane : Nat) (signed : Bool)
  | widen (lane : Nat) (high signed : Bool)
  | multiplyWide (lane : Nat) (high signed : Bool)
  | addPairs (lane : Nat) (signed : Bool)
  | dot (lane : Nat)
  | dotBytes
  | dotBytesAdd
  | truncate (signed : Bool)
  | truncateLow (signed : Bool)
  /-- As `truncate`, but whatever is out of bounds gives the least number. -/
  | truncateLoosely
  | truncateLowLoosely
  | convert (signed : Bool)
  | convertLow (signed : Bool)
  | demoteLow
  | promoteLow
deriving DecidableEq

def scalarBits : Datum → Nat
  | .i32 n | .f32 n => n.toNat
  | .i64 n | .f64 n => n.toNat
  | .v128 n => n.toNat
  | .func _ => 0

def scalarOfBits : ValueType → Nat → Datum
  | .i32, n => .i32 (.ofNat 32 n)
  | .i64, n => .i64 (.ofNat 64 n)
  | .f32, n => .f32 (.ofNat 32 n)
  | .f64, n => .f64 (.ofNat 64 n)
  | _, n => .v128 (.ofNat 128 n)

namespace VectorOp

open Vector128

def operands : VectorOp → List ValueType
  | splat t _ => [t]
  | replace t _ _ => [.v128, t]
  | shift _ _ => [.v128, .i32]
  | choose | chooseLanes _ | multiplyAdd _ _ | dotBytesAdd => [.v128, .v128, .v128]
  | shuffle _ | swizzle | swizzleLoosely | bitwise _ | binary _ _ | relation _ _ |
    floatBinary _ _ | floatRelation _ _ | extreme _ _ | prefer _ _ | narrow _ _ |
    multiplyWide _ _ _ | dot _ | dotBytes => [.v128, .v128]
  | _ => [.v128]

def result : VectorOp → ValueType
  | extract t _ _ _ => t
  | anyTrue | allTrue _ | bitmask _ => .i32
  | _ => .v128

def lanesExist : VectorOp → Bool
  | extract _ lane _ index | replace _ lane index => index < 128 / lane
  | shuffle indices => indices.length = 16 && indices.all (· < 32)
  | _ => true

def truth {w : Nat} (b : Bool) : BitVec w := if b then BitVec.allOnes w else 0

def half (w : Nat) (high : Bool) (v : Vector128) : List (BitVec w) :=
  let xs := lanes w v
  if high then xs.drop (xs.length / 2) else xs.take (xs.length / 2)

def widened {w : Nat} (signed : Bool) (x : BitVec w) : BitVec (2 * w) :=
  BitVec.ofInt (2 * w) (laneValue signed x)

def pairSums {w : Nat} : List (BitVec w) → List (BitVec w)
  | x :: y :: rest => (x + y) :: pairSums rest
  | xs => xs

def products (w : Nat) (high signed : Bool) (u v : Vector128) : List (BitVec (2 * w)) :=
  (half w high u).zipWith (fun x y => widened signed x * widened signed y) (half w high v)

def dots (w : Nat) (u v : Vector128) : List (BitVec (2 * w)) :=
  pairSums (products w false true u v ++ products w true true u v)

def byteDots (u v : Vector128) : List (BitVec 16) :=
  go (lanes 8 u) (lanes 8 v)
where
  go : List (BitVec 8) → List (BitVec 8) → List (BitVec 16)
    | x :: x' :: xs, y :: y' :: ys =>
      laneWithin 16 true (x.toInt * y.toNat + x'.toInt * y'.toNat) :: go xs ys
    | _, _ => []

/-- As `FloatBits.extreme`, but what is no number keeps nothing of its operands but a sign: it has
one where the least is sought or an operand has one. -/
def extremeLane (w : Width) (greater : Bool) (x y : FloatBits w) : FloatBits w :=
  if x.isNumber && y.isNumber then x.extreme greater y
  else FloatBits.infinity w (!greater || x.msb || y.msb) ||| FloatBits.quietBit w

def truncateLane (w : Width) (x : FloatBits w) : BitVec 32 :=
  match x.truncate 32 true with
  | .ok n => n
  | .error _ => BitVec.intMin 32

def applyUnary (v : Vector128) : VectorOp → Option Datum
  | extract t lane signed index => do
    let x ← (lanes lane v)[index]?
    some (scalarOfBits t (if signed then (x.signExtend 32).toNat else x.toNat))
  | not => some (.v128 (~~~v))
  | anyTrue => some (.ofBool (v != 0))
  | allTrue lane => some (.ofBool ((lanes lane v).all (· != 0)))
  | bitmask lane =>
    some (.i32 (BitVec.ofNat 32 ((lanes lane v).foldr (fun x n => 2 * n + x.msb.toNat) 0)))
  | unary lane op => some (.v128 (map lane op.apply v))
  | floatUnary w op => some (.v128 (map w.bits (op.apply (w := w)) v))
  | widen lane high signed => some (.v128 (ofLanes ((half lane high v).map (widened signed))))
  | addPairs lane signed =>
    some (.v128 (ofLanes (pairSums ((lanes lane v).map (widened signed)))))
  | truncate signed =>
    some (.v128 (map 32 (FloatBits.saturate (w := .w32) 32 signed) v))
  | truncateLow signed =>
    some (.v128 (ofLanes ((lanes 64 v).map (FloatBits.saturate (w := .w64) 32 signed))))
  | truncateLoosely => some (.v128 (map 32 (truncateLane .w32) v))
  | truncateLowLoosely => some (.v128 (ofLanes ((lanes 64 v).map (truncateLane .w64))))
  | convert signed =>
    some (.v128 (map 32 (fun x => FloatBits.ofInt .w32 (laneValue signed x)) v))
  | convertLow signed =>
    some (.v128 (ofLanes ((half 32 false v).map fun x =>
      FloatBits.ofInt .w64 (laneValue signed x))))
  | demoteLow => some (.v128 (ofLanes ((lanes 64 v).map (FloatBits.convert .w64 .w32))))
  | promoteLow =>
    some (.v128 (ofLanes ((half 32 false v).map (FloatBits.convert .w32 .w64))))
  | _ => none

def applyBinary (u v : Vector128) : VectorOp → Option Vector128
  | shuffle indices =>
    let bytes := lanes 8 u ++ lanes 8 v
    some (ofLanes (indices.map fun i => bytes.getD i 0))
  | swizzle => some (map 8 (fun i => (lanes 8 u).getD i.toNat 0) v)
  | swizzleLoosely =>
    some (map 8 (fun i => if i.msb then 0 else (lanes 8 u).getD (i.toNat % 16) 0) v)
  | bitwise op => some (op.apply u v)
  | binary lane op => some (zipWith lane op.apply u v)
  | relation lane op => some (zipWith lane (fun x y => truth (w := lane) (op.apply x y)) u v)
  | floatBinary w op => some (zipWith w.bits (op.apply (w := w)) u v)
  | floatRelation w op =>
    some (zipWith w.bits (fun x y => truth (w := w.bits) (op.apply (w := w) x y)) u v)
  | extreme w greater => some (zipWith w.bits (extremeLane w greater) u v)
  | prefer w greater =>
    some (zipWith w.bits (fun (x y : FloatBits w) =>
      if (if greater then x.less y else y.less x) then y else x) u v)
  | narrow lane signed =>
    some (ofLanes ((lanes (2 * lane) u ++ lanes (2 * lane) v).map fun x =>
      laneWithin lane signed x.toInt))
  | multiplyWide lane high signed => some (ofLanes (products lane high signed u v))
  | dot lane => some (ofLanes (dots lane u v))
  | dotBytes => some (ofLanes (byteDots u v))
  | _ => none

def fused (w : Width) (x y z : FloatBits w) : FloatBits w :=
  match x.read, y.read, z.read with
  | .finite s m e, .finite s' m' e', .finite s₂ m₂ e₂ =>
    let low := min (e + e') e₂
    let total := FloatBits.signed (s ^^ s') (m * m' * 2 ^ (e + e' - low).toNat) +
      FloatBits.signed s₂ (m₂ * 2 ^ (e₂ - low).toNat)
    if total = 0 then FloatBits.zero w ((s ^^ s') && s₂)
    else FloatBits.ofScaled w (total < 0) total.natAbs low
  | _, _, _ => if x.isNumber && y.isNumber && !z.isNumber then z.quiet else (x.mul y).add z

def applyTernary (u v t : Vector128) : VectorOp → Option Vector128
  | choose => some ((u &&& t) ||| (v &&& ~~~t))
  | multiplyAdd w negated =>
    let factors := (lanes w.bits u).zip (lanes w.bits v)
    some (ofLanes (factors.zipWith (fun ((x, y) : FloatBits w × FloatBits w) z =>
      fused w (if negated && x.isNumber then x.negate else x) y z) (lanes w.bits t)))
  | chooseLanes lane =>
    let pairs := (lanes lane u).zip (lanes lane v)
    some (ofLanes (pairs.zipWith (fun (x, y) c => if c.msb then x else y) (lanes lane t)))
  | dotBytesAdd =>
    some (ofLanes ((pairSums ((byteDots u v).map (widened true))).zipWith (· + ·) (lanes 32 t)))
  | _ => none

def apply (op : VectorOp) (args : List Datum) : Except Trap Datum :=
  let answer : Option Datum :=
    match op, args with
    | splat _ lane, [d] =>
      some (.v128 (ofLanes (List.replicate (128 / lane) (BitVec.ofNat lane (scalarBits d)))))
    | replace _ lane index, [.v128 v, d] =>
      some (.v128 (ofLanes ((lanes lane v).set index (BitVec.ofNat lane (scalarBits d)))))
    | shift lane op, [.v128 v, .i32 n] => some (.v128 (map lane (op.apply · n.toNat) v))
    | op, [.v128 v] => applyUnary v op
    | op, [.v128 u, .v128 v] => (applyBinary u v op).map .v128
    | op, [.v128 u, .v128 v, .v128 t] => (applyTernary u v t op).map .v128
    | _, _ => none
  match answer with
  | some d => .ok d
  | none => .error .unsupported

end VectorOp

end ComponentHost.Wasm
