import ComponentHost.Fuel

/-! What can go wrong in an engine, in a guest, and in a guest call under limits.
Each cause is a constructor; its wording is `message`. -/

namespace ComponentHost

instance decidableEqExcept {ε α : Type} [DecidableEq ε] [DecidableEq α] :
    DecidableEq (Except ε α)
  | .ok x, .ok y => decidable_of_iff (x = y) (by simp)
  | .error e, .error f => decidable_of_iff (e = f) (by simp)
  | .ok _, .error _ => isFalse nofun
  | .error _, .ok _ => isFalse nofun

inductive EngineFault
  | initialization (text : String)
  | compilation (text : String)
  | functionNotFound (name : String)
  | invalidConfig (text : String)
  | io (text : String)
deriving DecidableEq, Inhabited

namespace EngineFault

def message : EngineFault → String
  | initialization text => "Engine initialization failed: " ++ text
  | compilation text => "Compilation failed: " ++ text
  | functionNotFound name => "Function not found: " ++ name
  | invalidConfig text => "Invalid configuration: " ++ text
  | io text => "IO error: " ++ text

def causes : EngineFault → List String
  | io text => [text]
  | _ => []

end EngineFault

/-- How a guest call fails: it was stopped while running, or never got to run. -/
inductive GuestFault
  | trap (reason : String) (consumed : Nat)
  | setup (fault : EngineFault)
deriving DecidableEq, Inhabited

namespace GuestFault

def message : GuestFault → String
  | trap reason _ => "Wasm trap: " ++ reason
  | setup fault => fault.message

def causes : GuestFault → List String
  | trap .. => []
  | setup fault => fault.causes

end GuestFault

inductive CallFailure
  | outOfFuel (maxFuel consumed : Nat) (percent : Binary64)
  | overtime (timeoutMs : Nat) (consumed : Option Nat)
  | trapped (reason : String)
  | setup (fault : EngineFault)
deriving DecidableEq, Inhabited

namespace CallFailure

def outOfFuelText (maxFuel consumed : Nat) (percent : Binary64) : String :=
  "consumed " ++ toString consumed ++ " of " ++ toString maxFuel ++
    " (" ++ Decimal.fixed 1 percent ++ "%)"

def message : CallFailure → String
  | outOfFuel maxFuel consumed percent =>
    "Out of fuel: " ++ outOfFuelText maxFuel consumed percent
  | overtime timeoutMs _ => "Execution timeout after " ++ toString timeoutMs ++ "ms"
  | trapped reason => "Wasm trap: " ++ reason
  | setup fault => fault.message

def causes : CallFailure → List String
  | setup fault => fault.causes
  | _ => []

def isResourceLimit : CallFailure → Bool
  | outOfFuel .. | overtime .. => true
  | trapped _ | setup _ => false

end CallFailure

end ComponentHost
