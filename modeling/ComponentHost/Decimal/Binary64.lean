/-! Double precision numbers as their 64 bits, read as `mantissa * 2 ^ exponent`. -/

namespace ComponentHost

-- `b ^ n` is Lean's own power on `Nat` and `Int` in every module, whatever else is imported.
attribute [instance (2000), default_instance 20000] instPowNat

structure Binary64 where
  bits : UInt64
deriving DecidableEq, Inhabited

namespace Binary64

inductive Reading
  | notANumber
  | infinite (negative : Bool)
  | finite (negative : Bool) (mantissa : Nat) (exponent : Int)
deriving DecidableEq

def negative (x : Binary64) : Bool := x.bits >>> 63 == 1

def exponentField (x : Binary64) : Nat := ((x.bits >>> 52) &&& 0x7ff).toNat

def fraction (x : Binary64) : Nat := (x.bits &&& 0xfffffffffffff).toNat

def read (x : Binary64) : Reading :=
  if x.exponentField = 0x7ff then
    if x.fraction = 0 then .infinite x.negative else .notANumber
  else if x.exponentField = 0 then .finite x.negative x.fraction (-1074)
  else .finite x.negative (2 ^ 52 + x.fraction) (x.exponentField - 1075)

def ofFloat (x : Float) : Binary64 := ⟨x.toBits⟩

example : (ofFloat 0).read = .finite false 0 (-1074) := by decide

example : (⟨0x3fe0000000000000⟩ : Binary64).read = .finite false (2 ^ 52) (-53) := by decide

end Binary64

end ComponentHost
