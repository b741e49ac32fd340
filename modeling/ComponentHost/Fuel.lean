import ComponentHost.Decimal.Fixed

/-! Fuel: the budget of a guest call and how much of it was used. -/

namespace ComponentHost

structure FuelUse where
  maxFuel : Nat
  consumed : Nat
deriving DecidableEq

namespace FuelUse

/-- Consumption in percent of the budget, between 0 and 100; of no budget, 0. -/
def percent (f : FuelUse) : Binary64 :=
  if f.maxFuel = 0 then .ofFloat 0
  else
    let p := (UInt64.ofNat f.consumed).toFloat / (UInt64.ofNat f.maxFuel).toFloat * 100
    .ofFloat (if p < 0 then 0 else if 100 < p then 100 else p)

def remaining (f : FuelUse) : Nat := f.maxFuel - f.consumed

def exhausted (f : FuelUse) : Bool := f.maxFuel ≤ f.consumed

theorem remaining_add_consumed {f : FuelUse} (h : f.consumed ≤ f.maxFuel) :
    f.remaining + f.consumed = f.maxFuel :=
  Nat.sub_add_cancel h

end FuelUse

structure Gauge where
  consumed : Option Nat := none
deriving DecidableEq, Inhabited

namespace Gauge

def record (_ : Gauge) (fuel : Nat) : Gauge := ⟨some fuel⟩

@[simp] theorem consumed_record (g : Gauge) (fuel : Nat) :
    (g.record fuel).consumed = some fuel := rfl

end Gauge

end ComponentHost
