import ComponentHost.Component
import ComponentHost.Fault
import ComponentHost.Value

/-! Guest calls as an engine describes them: what happens in order, and how it ends.
An engine turns bytes into a program; a program answers each invocation with a run. -/

namespace ComponentHost

inductive GuestAct
  | report (fuel : Nat)
  | wait (span : Duration)
  /-- Hands control back without letting time pass. -/
  | yield
deriving DecidableEq

inductive GuestEnd
  | never
  | panic (text : String)
  | fault (f : GuestFault)
  | output (o : Output)
deriving DecidableEq

structure GuestRun where
  acts : List GuestAct := []
  ending : GuestEnd
deriving DecidableEq

namespace GuestRun

def refused (fault : EngineFault) : GuestRun := { ending := .fault (.setup fault) }

end GuestRun

structure Invocation where
  component : ComponentId
  function : String
  args : List Value
  maxMemoryBytes : Nat
  stdio : Bool
  maxFuel : Nat
  timeout : Duration
deriving DecidableEq

structure Program where
  exports : NameSet
  /-- The run of an invocation after `earlier` calls of the same function on the same load. -/
  run : (earlier : Nat) → Invocation → GuestRun

structure Engine where
  load : ComponentId → Bytes → Except EngineFault Program

end ComponentHost
