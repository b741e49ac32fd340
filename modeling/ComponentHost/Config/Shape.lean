import ComponentHost.Config.Basic
import ComponentHost.Config.Schema

/-! The shapes of the host's records: each record's fields in order, under the names that texts
use, and the two ways between a record and the fields of its shape. -/

namespace ComponentHost

/-- A type whose values are written and read by a shape. -/
structure Shape (α : Type) where
  schema : Schema
  toFields : α → schema.Carrier
  ofFields : schema.Carrier → α

namespace Schema

def u32 : Schema := .unsigned 32 "u32"

def u64 : Schema := .unsigned 64 "u64"

def count : Schema := .unsigned 64 "usize"

end Schema

namespace EngineConfig

def schema : Schema :=
  .record "EngineConfig" <|
    .cons "pooling_allocator" .boolean (.boolean false) <|
    .cons "max_instances" .u32 (.number 1000) <|
    .cons "instance_memory_mb" .u32 (.number 64) <|
    .cons "cranelift_opt" .boolean (.boolean true) <|
    .cons "fuel_yield_interval" .u64 (.number 10000) .nil

def shape : Shape EngineConfig where
  schema := schema
  toFields c := (c.poolingAllocator, c.maxInstances.toBitVec, c.instanceMemoryMb.toBitVec,
    c.optimize, c.fuelYieldInterval.toBitVec, ())
  ofFields := fun (pooling, instances, memory, optimize, interval, ()) =>
    ⟨pooling, ⟨instances⟩, ⟨memory⟩, optimize, ⟨interval⟩⟩

end EngineConfig

namespace MessagingConfig

def schema : Schema :=
  .record "MessagingConfig" <|
    .cons "default_request_timeout_ms" .u64 (.number 5000) <|
    .cons "mailbox_capacity" .count (.number 1024) .nil

def shape : Shape MessagingConfig where
  schema := schema
  toFields c := (c.requestTimeoutMs.toBitVec, c.mailboxCapacity.toBitVec, ())
  ofFields := fun (timeout, capacity, ()) => ⟨⟨timeout⟩, ⟨capacity⟩⟩

end MessagingConfig

namespace LifecycleConfig

def schema : Schema :=
  .record "LifecycleConfig" <| .cons "stop_timeout_ms" .u64 (.number 5000) .nil

def shape : Shape LifecycleConfig where
  schema := schema
  toFields c := (c.stopTimeoutMs.toBitVec, ())
  ofFields := fun (timeout, ()) => ⟨⟨timeout⟩⟩

end LifecycleConfig

namespace HostConfig

def schema : Schema :=
  .record "HostConfig" <|
    .cons "engine" EngineConfig.schema .record <|
    .cons "messaging" MessagingConfig.schema .record <|
    .cons "lifecycle" LifecycleConfig.schema .record .nil

def shape : Shape HostConfig where
  schema := schema
  toFields c := (EngineConfig.shape.toFields c.engine, MessagingConfig.shape.toFields c.messaging,
    LifecycleConfig.shape.toFields c.lifecycle, ())
  ofFields := fun (engine, messaging, lifecycle, ()) =>
    ⟨EngineConfig.shape.ofFields engine, MessagingConfig.shape.ofFields messaging,
      LifecycleConfig.shape.ofFields lifecycle⟩

end HostConfig

namespace ComponentId

def shape : Shape ComponentId := ⟨.text, ComponentId.name, ComponentId.mk⟩

end ComponentId

namespace Capability

def shape : Shape Capability := ⟨.text, Capability.name, Capability.mk⟩

end Capability

namespace CapabilitySet

def shape : Shape CapabilitySet where
  schema := .list .text
  toFields s := s.names.names
  ofFields names := ⟨.ofList names⟩

end CapabilitySet

namespace Metadata

def schema : Schema :=
  .record "ComponentMetadata" <|
    .cons "name" .optionalText .none <|
    .cons "version" .optionalText .none <|
    .cons "description" .optionalText .none <|
    .cons "max_memory_bytes" .u64 .required <|
    .cons "max_fuel" .u64 (.number 1000000) <|
    .cons "timeout_ms" .u64 (.number 100) .nil

def shape : Shape Metadata where
  schema := schema
  toFields m := (m.name, m.version, m.description, m.maxMemoryBytes.toBitVec,
    m.maxFuel.toBitVec, m.timeoutMs.toBitVec, ())
  ofFields := fun (name, version, description, memory, fuel, timeout, ()) =>
    ⟨name, version, description, ⟨memory⟩, ⟨fuel⟩, ⟨timeout⟩⟩

end Metadata

namespace ComponentEntry

def schema : Schema :=
  .record "ComponentEntry" <|
    .cons "id" .text .required <|
    .cons "path" .text .required <|
    .cons "capabilities" (.list .text) .empty <|
    .cons "metadata" Metadata.schema .required .nil

def shape : Shape ComponentEntry where
  schema := schema
  toFields e := (e.id.name, e.path, CapabilitySet.shape.toFields e.capabilities,
    Metadata.shape.toFields e.metadata, ())
  ofFields := fun (id, path, capabilities, metadata, ()) =>
    ⟨⟨id⟩, path, CapabilitySet.shape.ofFields capabilities, Metadata.shape.ofFields metadata⟩

end ComponentEntry

namespace ConfigFile

def schema : Schema :=
  .record "ConfigFile" <|
    .cons "host" HostConfig.schema .record <|
    .cons "components" (.list ComponentEntry.schema) .empty .nil

def shape : Shape ConfigFile where
  schema := schema
  toFields c :=
    (HostConfig.shape.toFields c.host, c.components.map ComponentEntry.shape.toFields, ())
  ofFields := fun (host, components, ()) =>
    ⟨HostConfig.shape.ofFields host, components.map ComponentEntry.shape.ofFields⟩

end ConfigFile

end ComponentHost
