import ComponentHost.Decimal.Binary64

/-! Numbers that cross the border between host and guest, and what a guest call returns.
Each value is its bit pattern; only the type tells integers and floats apart. -/

namespace ComponentHost

inductive Value
  | i32 (bits : UInt32)
  | i64 (bits : UInt64)
  | f32 (bits : UInt32)
  | f64 (bits : UInt64)
deriving DecidableEq, Inhabited

abbrev Bytes := List UInt8

namespace Value

/-- The length of a payload as a guest sees it: at most the greatest signed 32-bit number. -/
def ofLength (n : Nat) : Value := .i32 (UInt32.ofNat (min n (2 ^ 31 - 1)))

end Value

structure Output where
  values : List Value := []
deriving DecidableEq, Inhabited

namespace Output

def asI32 (o : Output) : Option UInt32 :=
  match o.values.head? with
  | some (.i32 bits) => some bits
  | _ => none

end Output

def littleEndian (n : UInt32) : Bytes :=
  [n.toUInt8, (n >>> 8).toUInt8, (n >>> 16).toUInt8, (n >>> 24).toUInt8]

example : littleEndian 0x0a0b0c0d = [0x0d, 0x0c, 0x0b, 0x0a] := by decide

end ComponentHost
