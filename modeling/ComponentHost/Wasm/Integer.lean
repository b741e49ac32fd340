import ComponentHost.Wasm.Types

/-! Arithmetic of whole numbers of any width. It wraps; division traps on a zero divisor, and where
the quotient does not fit. -/

namespace ComponentHost.Wasm

inductive IntUnary
  | clz
  | ctz
  | popcnt
  | extend (bits : Nat)
deriving DecidableEq

inductive IntBinary
  | add
  | sub
  | mul
  | divS
  | divU
  | remS
  | remU
  | and
  | or
  | xor
  | shl
  | shrS
  | shrU
  | rotl
  | rotr
deriving DecidableEq

inductive IntRelation
  | eq
  | ne
  | ltS
  | ltU
  | gtS
  | gtU
  | leS
  | leU
  | geS
  | geU
deriving DecidableEq

namespace IntUnary

def countTrailing {n : Nat} (x : BitVec n) : Nat :=
  ((List.range n).takeWhile fun i => !x.getLsbD i).length

def countOnes {n : Nat} (x : BitVec n) : Nat := (List.range n).countP x.getLsbD

def apply {n : Nat} (op : IntUnary) (x : BitVec n) : BitVec n :=
  match op with
  | clz => BitVec.ofNat n (countTrailing x.reverse)
  | ctz => BitVec.ofNat n (countTrailing x)
  | popcnt => BitVec.ofNat n (countOnes x)
  | extend bits => (x.truncate bits).signExtend n

example : (extend 8).apply (0x180 : BitVec 32) = 0xffffff80 := by decide

end IntUnary

namespace IntBinary

def apply {n : Nat} (op : IntBinary) (x y : BitVec n) : Except Trap (BitVec n) :=
  match op with
  | add => .ok (x + y)
  | sub => .ok (x - y)
  | mul => .ok (x * y)
  | divS =>
    if y = 0 then .error .divideByZero
    else if x = BitVec.intMin n ∧ y = BitVec.allOnes n then .error .overflow
    else .ok (x.sdiv y)
  | divU => if y = 0 then .error .divideByZero else .ok (x.udiv y)
  | remS => if y = 0 then .error .divideByZero else .ok (x.srem y)
  | remU => if y = 0 then .error .divideByZero else .ok (x.umod y)
  | and => .ok (x &&& y)
  | or => .ok (x ||| y)
  | xor => .ok (x ^^^ y)
  | shl => .ok (x <<< (y.toNat % n))
  | shrS => .ok (x.sshiftRight (y.toNat % n))
  | shrU => .ok (x >>> (y.toNat % n))
  | rotl => .ok (x.rotateLeft (y.toNat % n))
  | rotr => .ok (x.rotateRight (y.toNat % n))

end IntBinary

def IntRelation.apply {n : Nat} (op : IntRelation) (x y : BitVec n) : Bool :=
  match op with
  | eq => x = y
  | ne => x ≠ y
  | ltS => x.slt y
  | ltU => x.ult y
  | gtS => y.slt x
  | gtU => y.ult x
  | leS => x.sle y
  | leU => x.ule y
  | geS => y.sle x
  | geU => y.ule x

end ComponentHost.Wasm
