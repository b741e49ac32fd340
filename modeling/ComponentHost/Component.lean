import ComponentHost.Duration
import ComponentHost.NameSet

/-! What is said about a component when it is started: its id, what it may do, and its limits. -/

namespace ComponentHost

structure ComponentId where
  name : String
deriving DecidableEq, Inhabited

structure Capability where
  name : String
deriving DecidableEq, Inhabited

namespace Capability

def stdio : Capability := ⟨"wasi:stdio"⟩

end Capability

structure CapabilitySet where
  names : NameSet := .empty
deriving DecidableEq, Inhabited

namespace CapabilitySet

def grant (s : CapabilitySet) (c : Capability) : CapabilitySet := ⟨s.names.insert c.name⟩

def has (s : CapabilitySet) (c : Capability) : Bool := s.names.contains c.name

def size (s : CapabilitySet) : Nat := s.names.size

def ofList (cs : List Capability) : CapabilitySet := ⟨.ofList (cs.map Capability.name)⟩

def toList (s : CapabilitySet) : List Capability := s.names.names.map Capability.mk

end CapabilitySet

structure Metadata where
  name : Option String := none
  version : Option String := none
  description : Option String := none
  maxMemoryBytes : UInt64
  maxFuel : UInt64 := 1000000
  timeoutMs : UInt64 := 100
deriving DecidableEq

namespace Metadata

def timeout (m : Metadata) : Duration := .ofMillis m.timeoutMs.toNat

end Metadata

inductive Status
  | registered
  | running
  | stopped
  | error (text : String)
deriving DecidableEq

namespace Status

def text : Status → String
  | registered => "registered"
  | running => "running"
  | stopped => "stopped"
  | error text => "error: " ++ text

end Status

end ComponentHost
