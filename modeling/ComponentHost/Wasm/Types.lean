import ComponentHost.Value

/-! Types and values of WebAssembly. Numbers are bit vectors, whatever they stand for. -/

namespace ComponentHost.Wasm

inductive ValueType
  | i32
  | i64
  | f32
  | f64
  | v128
  | funcref
deriving DecidableEq, Inhabited

namespace ValueType

def isReference : ValueType → Bool
  | funcref => true
  | _ => false

def named : List (String × ValueType) :=
  [("i32", i32), ("i64", i64), ("f32", f32), ("f64", f64), ("v128", v128),
    ("funcref", funcref)]

def coded : List (UInt8 × ValueType) :=
  [(0x7f, i32), (0x7e, i64), (0x7d, f32), (0x7c, f64), (0x7b, v128),
    (0x70, funcref)]

end ValueType

structure FuncType where
  params : List ValueType := []
  results : List ValueType := []
deriving DecidableEq, Inhabited

inductive Datum
  | i32 (n : BitVec 32)
  | i64 (n : BitVec 64)
  | f32 (bits : BitVec 32)
  | f64 (bits : BitVec 64)
  | v128 (bits : BitVec 128)
  | func (index : Option Nat)
deriving DecidableEq, Inhabited

namespace Datum

def type : Datum → ValueType
  | i32 _ => .i32
  | i64 _ => .i64
  | f32 _ => .f32
  | f64 _ => .f64
  | v128 _ => .v128
  | func _ => .funcref

def zero : ValueType → Datum
  | .i32 => i32 0
  | .i64 => i64 0
  | .f32 => f32 0
  | .f64 => f64 0
  | .v128 => v128 0
  | .funcref => func none

@[simp] theorem type_zero (t : ValueType) : (zero t).type = t := by cases t <;> rfl

def ofValue : Value → Datum
  | .i32 bits => i32 bits.toBitVec
  | .i64 bits => i64 bits.toBitVec
  | .f32 bits => f32 bits.toBitVec
  | .f64 bits => f64 bits.toBitVec

def describe : Datum → String
  | i32 n => "I32(" ++ toString n.toInt ++ ")"
  | i64 n => "I64(" ++ toString n.toInt ++ ")"
  | f32 bits => "F32(" ++ toString bits.toNat ++ ")"
  | f64 bits => "F64(" ++ toString bits.toNat ++ ")"
  | v128 bits => "V128(" ++ toString bits.toNat ++ ")"
  | func none => "FuncRef(None)"
  | func (some index) => "FuncRef(Some(Func(store=1, index=" ++ toString index ++ ")))"

def toValue : Datum → Except Datum Value
  | i32 n => .ok (.i32 ⟨n⟩)
  | i64 n => .ok (.i64 ⟨n⟩)
  | f32 bits => .ok (.f32 ⟨bits⟩)
  | f64 bits => .ok (.f64 ⟨bits⟩)
  | d => .error d

theorem toValue_ofValue (v : Value) : (ofValue v).toValue = .ok v := by cases v <;> rfl

end Datum

inductive Trap
  | unreachable
  | divideByZero
  | overflow
  | invalidConversion
  | outOfBounds
  | outOfTable
  | noElement
  | wrongSignature
  | callsExhausted
  | outOfFuel
  /-- The guest handed back control to a caller that does not wait. -/
  | abandoned
  | arity (expected given : Nat)
  | argumentType
  | unsupported
deriving DecidableEq

namespace Trap

def message : Trap → String
  | unreachable => "wasm trap: wasm `unreachable` instruction executed"
  | divideByZero => "wasm trap: integer divide by zero"
  | overflow => "wasm trap: integer overflow"
  | invalidConversion => "wasm trap: invalid conversion to integer"
  | outOfBounds => "wasm trap: out of bounds memory access"
  | outOfTable => "wasm trap: undefined element: out of bounds table access"
  | noElement => "wasm trap: uninitialized element"
  | wrongSignature => "wasm trap: indirect call type mismatch"
  | callsExhausted => "wasm trap: call stack exhausted"
  | outOfFuel => "wasm trap: all fuel consumed by WebAssembly"
  | abandoned => "abandoned by the caller"
  | arity expected given =>
    "expected " ++ toString expected ++ " arguments, got " ++ toString given
  | argumentType => "argument type mismatch"
  | unsupported => "unsupported operation"

end Trap

def littleEndian (count n : Nat) : Bytes :=
  (List.range count).map fun i => UInt8.ofNat (n >>> (8 * i))

inductive Width
  | w32
  | w64
deriving DecidableEq

@[reducible] def Width.bits : Width → Nat
  | w32 => 32
  | w64 => 64

def Width.int : Width → ValueType
  | w32 => .i32
  | w64 => .i64

def Width.float : Width → ValueType
  | w32 => .f32
  | w64 => .f64

namespace Datum

def ofBool (b : Bool) : Datum := i32 (if b then 1 else 0)

def ofInt : (w : Width) → BitVec w.bits → Datum
  | .w32, n => i32 n
  | .w64, n => i64 n

def int? : (w : Width) → Datum → Except Trap (BitVec w.bits)
  | .w32, i32 n => .ok n
  | .w64, i64 n => .ok n
  | _, _ => .error .unsupported

def ofFloat : (w : Width) → BitVec w.bits → Datum
  | .w32, x => f32 x
  | .w64, x => f64 x

def float? : (w : Width) → Datum → Except Trap (BitVec w.bits)
  | .w32, f32 x => .ok x
  | .w64, f64 x => .ok x
  | _, _ => .error .unsupported

end Datum

end ComponentHost.Wasm
