import ComponentHost.Component

/-! What a host can be told about its engine, its messaging and its components' lifecycle. -/

namespace ComponentHost

structure EngineConfig where
  poolingAllocator : Bool := false
  maxInstances : UInt32 := 1000
  instanceMemoryMb : UInt32 := 64
  optimize : Bool := true
  fuelYieldInterval : UInt64 := 10000
deriving DecidableEq, Inhabited

structure MessagingConfig where
  requestTimeoutMs : UInt64 := 5000
  mailboxCapacity : UInt64 := 1024
deriving DecidableEq, Inhabited

namespace MessagingConfig

def requestTimeout (c : MessagingConfig) : Duration := .ofMillis c.requestTimeoutMs.toNat

end MessagingConfig

structure LifecycleConfig where
  stopTimeoutMs : UInt64 := 5000
deriving DecidableEq, Inhabited

namespace LifecycleConfig

def stopTimeout (c : LifecycleConfig) : Duration := .ofMillis c.stopTimeoutMs.toNat

end LifecycleConfig

structure HostConfig where
  engine : EngineConfig := {}
  messaging : MessagingConfig := {}
  lifecycle : LifecycleConfig := {}
deriving DecidableEq, Inhabited

structure ComponentEntry where
  id : ComponentId
  path : String
  capabilities : CapabilitySet := {}
  metadata : Metadata
deriving DecidableEq

structure ConfigFile where
  host : HostConfig := {}
  components : List ComponentEntry := []
deriving DecidableEq

end ComponentHost
