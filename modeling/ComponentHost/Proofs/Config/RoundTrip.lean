import ComponentHost.Config.Shape
import ComponentHost.Json.Status
import ComponentHost.Post.Stats
import ComponentHost.Proofs.Json.RoundTrip

/-! What the host writes about itself as JSON, it reads back: its configuration, what is said
about its components, and its statistics. -/

namespace ComponentHost

namespace Shape

variable {α : Type}

def encode (shape : Shape α) (v : α) : String := Json.encode shape.schema (shape.toFields v)

def decode (shape : Shape α) (text : String) : Except Json.Fault α :=
  (Json.decode shape.schema text).map shape.ofFields

/-- Nothing of a value is lost in its fields, and the reader can tell them apart. -/
structure Lawful (shape : Shape α) : Prop where
  legible : shape.schema.legible = true
  whole : ∀ v, shape.ofFields (shape.toFields v) = v

theorem Lawful.decode_encode {shape : Shape α} (lawful : shape.Lawful) (v : α) :
    shape.decode (shape.encode v) = .ok v := by
  rw [decode, encode, Json.decode_encode lawful.legible, Except.map, lawful.whole]

end Shape

theorem EngineConfig.lawful : EngineConfig.shape.Lawful := ⟨by decide, fun _ => rfl⟩

theorem MessagingConfig.lawful : MessagingConfig.shape.Lawful := ⟨by decide, fun _ => rfl⟩

theorem LifecycleConfig.lawful : LifecycleConfig.shape.Lawful := ⟨by decide, fun _ => rfl⟩

theorem HostConfig.lawful : HostConfig.shape.Lawful := ⟨by decide, fun _ => rfl⟩

theorem ComponentId.lawful : ComponentId.shape.Lawful := ⟨by decide, fun _ => rfl⟩

theorem Capability.lawful : Capability.shape.Lawful := ⟨by decide, fun _ => rfl⟩

theorem CapabilitySet.lawful : CapabilitySet.shape.Lawful where
  legible := by decide
  whole s := congrArg CapabilitySet.mk s.names.ofList_names

theorem Metadata.lawful : Metadata.shape.Lawful := ⟨by decide, fun _ => rfl⟩

theorem ComponentEntry.lawful : ComponentEntry.shape.Lawful where
  legible := by decide
  whole e := congrArg (ComponentEntry.mk e.id e.path · e.metadata)
    (CapabilitySet.lawful.whole e.capabilities)

theorem ConfigFile.lawful : ConfigFile.shape.Lawful where
  legible := by decide
  whole c := by
    have entries : (c.components.map ComponentEntry.shape.toFields).map
        ComponentEntry.shape.ofFields = c.components := by
      rw [List.map_map]
      exact List.map_id'' ComponentEntry.lawful.whole _
    exact congrArg (ConfigFile.mk c.host) entries

theorem MessagingStats.lawful : MessagingStats.shape.Lawful := ⟨by decide, fun _ => rfl⟩

namespace Status

theorem ofWord_word {s : Status} (plain : s ∈ [registered, running, stopped]) :
    ofWord s.word = .ok s := by
  simp only [List.mem_cons, List.not_mem_nil, or_false] at plain
  rcases plain with rfl | rfl | rfl <;> rfl

theorem decode_bare {s : Status} (plain : s ∈ [registered, running, stopped]) :
    decode (String.ofList (Json.writeString s.word)) = .ok s := by
  have quote : Json.isBlank '"' = false := by decide
  have word := Json.readString_written s.word []
  simp [decode, Json.finish, read, Json.writeString, Json.skipBlanks_cons quote, word,
    ofWord_word plain, Json.skipBlanks_nil, bind, Except.bind]

theorem decode_encode (s : Status) : decode (encode s) = .ok s := by
  cases s with
  | registered => exact decode_bare (by simp)
  | running => exact decode_bare (by simp)
  | stopped => exact decode_bare (by simp)
  | error text =>
    have brace : Json.isBlank '\x7b' = false := by decide
    have colon : Json.isBlank ':' = false := by decide
    have close : Json.isBlank '\x7d' = false := by decide
    simp [decode, Json.finish, encode, read, Json.skipBlanks_cons brace,
      Json.readText_writeString, readMember, Json.readColon, Json.skipBlanks_cons colon,
      Json.skipBlanks_cons close, Json.skipBlanks_nil, bind, Except.bind]

end Status

/-- Whatever the host writes as JSON, its reader gives back. -/
theorem read_what_is_written :
    (∀ v, ComponentId.shape.decode (ComponentId.shape.encode v) = .ok v) ∧
    (∀ v, Capability.shape.decode (Capability.shape.encode v) = .ok v) ∧
    (∀ v, CapabilitySet.shape.decode (CapabilitySet.shape.encode v) = .ok v) ∧
    (∀ v, Metadata.shape.decode (Metadata.shape.encode v) = .ok v) ∧
    (∀ v, Status.decode (Status.encode v) = .ok v) ∧
    (∀ v, EngineConfig.shape.decode (EngineConfig.shape.encode v) = .ok v) ∧
    (∀ v, MessagingConfig.shape.decode (MessagingConfig.shape.encode v) = .ok v) ∧
    (∀ v, LifecycleConfig.shape.decode (LifecycleConfig.shape.encode v) = .ok v) ∧
    (∀ v, HostConfig.shape.decode (HostConfig.shape.encode v) = .ok v) ∧
    (∀ v, ComponentEntry.shape.decode (ComponentEntry.shape.encode v) = .ok v) ∧
    (∀ v, ConfigFile.shape.decode (ConfigFile.shape.encode v) = .ok v) ∧
    (∀ v, MessagingStats.shape.decode (MessagingStats.shape.encode v) = .ok v) :=
  ⟨ComponentId.lawful.decode_encode, Capability.lawful.decode_encode,
    CapabilitySet.lawful.decode_encode, Metadata.lawful.decode_encode, Status.decode_encode,
    EngineConfig.lawful.decode_encode, MessagingConfig.lawful.decode_encode,
    LifecycleConfig.lawful.decode_encode, HostConfig.lawful.decode_encode,
    ComponentEntry.lawful.decode_encode, ConfigFile.lawful.decode_encode,
    MessagingStats.lawful.decode_encode⟩

end ComponentHost
