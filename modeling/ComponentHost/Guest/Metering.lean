import ComponentHost.Guest.Run

/-! Metered guests: what comes of an attempt to run a guest function with a fuel budget. What was
consumed is the budget less what a reading of the machine says is left; of the reading nothing
is assumed, so it may even exceed the budget. -/

namespace ComponentHost

def FuelUse.ofReading (maxFuel left : Nat) : FuelUse := ⟨maxFuel, maxFuel - left⟩

theorem FuelUse.consumed_ofReading_le (maxFuel left : Nat) :
    (ofReading maxFuel left).consumed ≤ maxFuel :=
  Nat.sub_le _ _

/-- How an attempt ends. Where guest code may have run, the fuel that is left was read. -/
inductive Attempt
  | unready (fault : EngineFault)
  | unlinked (fault : EngineFault) (left : Nat)
  | startTrapped (reason : String) (left : Nat)
  | noExport (function : String)
  | trapped (reason : String) (left : Nat)
  | returned (results : Except EngineFault Output) (left : Nat)
  | abandoned
deriving DecidableEq

namespace Attempt

def left? : Attempt → Option Nat
  | unlinked _ left | startTrapped _ left | trapped _ left | returned _ left => some left
  | unready _ | noExport _ | abandoned => none

def ending (maxFuel : Nat) : Attempt → GuestEnd
  | unready fault | unlinked fault _ => .fault (.setup fault)
  | noExport function => .fault (.setup (.functionNotFound function))
  | startTrapped reason left | trapped reason left =>
    .fault (.trap reason (FuelUse.ofReading maxFuel left).consumed)
  | returned (.ok output) _ => .output output
  | returned (.error fault) _ => .fault (.setup fault)
  | abandoned => .never

end Attempt

structure MeteredRun where
  yields : Nat := 0
  attempt : Attempt
deriving DecidableEq

namespace MeteredRun

def reports (r : MeteredRun) (maxFuel : Nat) : List GuestAct :=
  r.attempt.left?.toList.map fun left => .report (FuelUse.ofReading maxFuel left).consumed

def run (r : MeteredRun) (maxFuel : Nat) : GuestRun where
  acts := List.replicate r.yields .yield ++ r.reports maxFuel
  ending := r.attempt.ending maxFuel

end MeteredRun

end ComponentHost
