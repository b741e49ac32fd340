import Mathlib
import ComponentHost.Config.File
import ComponentHost.Proofs.Toml.Decode

/-! Configuration files that leave things out. Which documents are accepted, and what is then read
from them, is said key by key: what stands at a key has to be of its kind, and a key at which
nothing stands has its default. -/

namespace ComponentHost

open Toml (Takes Fills Orderly)

/-! ### Kinds of values, and what a table gives for a key -/

namespace Toml.Value

def IsNumber (v : Value) (n : Nat) : Prop := v = .integer n

def IsBoolean (v : Value) (b : Bool) : Prop := v = .boolean b

def IsText (v : Value) (s : String) : Prop := v = .text s

def IsSomeText (v : Value) (s : Option String) : Prop := ∃ text, v = .text text ∧ s = some text

def IsTexts (v : Value) (l : List String) : Prop := v = .list (l.map .text)

/-- The table gives the value that stands at the key, or the default if nothing does. -/
def Gives {α : Type} (t : Value) (key : String) (is : Value → α → Prop) (default : Option α)
    (x : α) : Prop :=
  match t.get? key with
  | none => default = some x
  | some v => is v x

def Boolean (v : Value) : Prop := ∃ b, v.IsBoolean b

def Unsigned (bits : Nat) (v : Value) : Prop := ∃ n < 2 ^ bits, v.IsNumber n

def Text (v : Value) : Prop := ∃ s, v.IsText s

def Texts (v : Value) : Prop := ∃ l, v.IsTexts l

def May (t : Value) (key : String) (kind : Value → Prop) : Prop :=
  ∀ v, t.get? key = some v → kind v

def Must (t : Value) (key : String) (kind : Value → Prop) : Prop :=
  ∃ v, t.get? key = some v ∧ kind v

end Toml.Value

open Toml.Value (IsNumber IsBoolean IsText IsSomeText IsTexts Boolean Unsigned Text Texts)

/-! ### Which tables are accepted -/

structure EngineConfig.Fits (t : Toml.Value) : Prop where
  poolingAllocator : t.May "pooling_allocator" Boolean
  maxInstances : t.May "max_instances" (Unsigned 32)
  instanceMemoryMb : t.May "instance_memory_mb" (Unsigned 32)
  optimize : t.May "cranelift_opt" Boolean
  fuelYieldInterval : t.May "fuel_yield_interval" (Unsigned 64)

structure MessagingConfig.Fits (t : Toml.Value) : Prop where
  requestTimeoutMs : t.May "default_request_timeout_ms" (Unsigned 64)
  mailboxCapacity : t.May "mailbox_capacity" (Unsigned 64)

structure LifecycleConfig.Fits (t : Toml.Value) : Prop where
  stopTimeoutMs : t.May "stop_timeout_ms" (Unsigned 64)

structure HostConfig.Fits (t : Toml.Value) : Prop where
  engine : t.May "engine" EngineConfig.Fits
  messaging : t.May "messaging" MessagingConfig.Fits
  lifecycle : t.May "lifecycle" LifecycleConfig.Fits

structure Metadata.Fits (t : Toml.Value) : Prop where
  name : t.May "name" Text
  version : t.May "version" Text
  description : t.May "description" Text
  maxMemoryBytes : t.Must "max_memory_bytes" (Unsigned 64)
  maxFuel : t.May "max_fuel" (Unsigned 64)
  timeoutMs : t.May "timeout_ms" (Unsigned 64)

structure ComponentEntry.Fits (t : Toml.Value) : Prop where
  id : t.Must "id" Text
  path : t.Must "path" Text
  capabilities : t.May "capabilities" Texts
  metadata : t.Must "metadata" Metadata.Fits

structure ConfigFile.Fits (t : Toml.Value) : Prop where
  host : t.May "host" HostConfig.Fits
  components : t.May "components" fun v => ∃ vs, v = .list vs ∧ ∀ e ∈ vs, ComponentEntry.Fits e

/-! ### What is read from a table -/

structure EngineConfig.Says (t : Toml.Value) (c : EngineConfig) : Prop where
  poolingAllocator : t.Gives "pooling_allocator" IsBoolean (some false) c.poolingAllocator
  maxInstances : t.Gives "max_instances" IsNumber (some 1000) c.maxInstances.toNat
  instanceMemoryMb : t.Gives "instance_memory_mb" IsNumber (some 64) c.instanceMemoryMb.toNat
  optimize : t.Gives "cranelift_opt" IsBoolean (some true) c.optimize
  fuelYieldInterval :
    t.Gives "fuel_yield_interval" IsNumber (some 10000) c.fuelYieldInterval.toNat

structure MessagingConfig.Says (t : Toml.Value) (c : MessagingConfig) : Prop where
  requestTimeoutMs :
    t.Gives "default_request_timeout_ms" IsNumber (some 5000) c.requestTimeoutMs.toNat
  mailboxCapacity : t.Gives "mailbox_capacity" IsNumber (some 1024) c.mailboxCapacity.toNat

structure LifecycleConfig.Says (t : Toml.Value) (c : LifecycleConfig) : Prop where
  stopTimeoutMs : t.Gives "stop_timeout_ms" IsNumber (some 5000) c.stopTimeoutMs.toNat

structure HostConfig.Says (t : Toml.Value) (c : HostConfig) : Prop where
  engine : c.engine.Says (t.part "engine")
  messaging : c.messaging.Says (t.part "messaging")
  lifecycle : c.lifecycle.Says (t.part "lifecycle")

structure Metadata.Says (t : Toml.Value) (m : Metadata) : Prop where
  name : t.Gives "name" IsSomeText (some none) m.name
  version : t.Gives "version" IsSomeText (some none) m.version
  description : t.Gives "description" IsSomeText (some none) m.description
  maxMemoryBytes : t.Gives "max_memory_bytes" IsNumber none m.maxMemoryBytes.toNat
  maxFuel : t.Gives "max_fuel" IsNumber (some 1000000) m.maxFuel.toNat
  timeoutMs : t.Gives "timeout_ms" IsNumber (some 100) m.timeoutMs.toNat

/-- The names that a set is made of, in any order and as often as one likes. -/
def CapabilitySet.Lists (l : List String) (s : CapabilitySet) : Prop :=
  ∀ name, s.has ⟨name⟩ = true ↔ name ∈ l

structure ComponentEntry.Says (t : Toml.Value) (e : ComponentEntry) : Prop where
  id : t.Gives "id" IsText none e.id.name
  path : t.Gives "path" IsText none e.path
  capabilities : ∃ l, t.Gives "capabilities" IsTexts (some []) l ∧ e.capabilities.Lists l
  metadata : t.Gives "metadata" Metadata.Says none e.metadata

structure ConfigFile.Says (t : Toml.Value) (c : ConfigFile) : Prop where
  host : c.host.Says (t.part "host")
  components : t.Gives "components"
    (fun v cs => ∃ vs, v = .list vs ∧ List.Forall₂ ComponentEntry.Says vs cs) (some []) c.components

/-! ### Fields -/

section Field

variable {t : Toml.Value} {key : String} {schema : Schema} {fallback : Fallback}

theorem exists_takes_iff_may {kind : Toml.Value → Prop}
    (each : ∀ v, t.get? key = some v → ((∃ x, Toml.fit schema v = .ok x) ↔ kind v))
    (falls : (schema.fallback fallback).isSome = true) :
    (∃ x, Takes t key schema fallback x) ↔ t.May key kind := by
  unfold Takes Toml.Value.May
  cases found : t.get? key with
  | none => simpa using Option.isSome_iff_exists.mp falls
  | some v => simpa using each v found

theorem exists_takes_iff_must {kind : Toml.Value → Prop}
    (each : ∀ v, t.get? key = some v → ((∃ x, Toml.fit schema v = .ok x) ↔ kind v))
    (falls : schema.fallback fallback = none) :
    (∃ x, Takes t key schema fallback x) ↔ t.Must key kind := by
  unfold Takes Toml.Value.Must
  cases found : t.get? key with
  | none => simp [falls]
  | some v => simpa using each v found

theorem takes_iff_gives {α : Type} {is : Toml.Value → α → Prop} {default : Option α}
    {f : schema.Carrier → α} {x : schema.Carrier}
    (each : ∀ v, t.get? key = some v → (Toml.fit schema v = .ok x ↔ is v (f x)))
    (falls : schema.fallback fallback = some x ↔ default = some (f x)) :
    Takes t key schema fallback x ↔ t.Gives key is default (f x) := by
  unfold Takes Toml.Value.Gives
  cases found : t.get? key with
  | none => exact falls
  | some v => exact each v found

theorem exists_takes_iff_gives {α : Type} {is : Toml.Value → α → Prop} {default : Option α}
    {f : schema.Carrier → α} {y : α}
    (each : ∀ v, t.get? key = some v → ((∃ x, Toml.fit schema v = .ok x ∧ f x = y) ↔ is v y))
    (falls : (∃ x, schema.fallback fallback = some x ∧ f x = y) ↔ default = some y) :
    (∃ x, Takes t key schema fallback x ∧ f x = y) ↔ t.Gives key is default y := by
  unfold Takes Toml.Value.Gives
  cases found : t.get? key with
  | none => exact falls
  | some v => exact each v found

theorem takes_boolean {b d : Bool} :
    Takes t key .boolean (.boolean d) b ↔ t.Gives key IsBoolean (some d) b :=
  takes_iff_gives (f := id) (fun _ _ => Toml.fit_boolean) Iff.rfl

theorem takes_number {bits d : Nat} (fits : d < 2 ^ bits) {word : String} {n : BitVec bits} :
    Takes t key (.unsigned bits word) (.number d) n ↔ t.Gives key IsNumber (some d) n.toNat :=
  takes_iff_gives (fun _ _ => Toml.fit_unsigned) (by
    simp only [Schema.fallback, Option.some.injEq]
    constructor
    · rintro rfl
      simp [Nat.mod_eq_of_lt fits]
    · rintro rfl
      simp)

theorem takes_number_required {bits : Nat} {word : String} {n : BitVec bits} :
    Takes t key (.unsigned bits word) .required n ↔ t.Gives key IsNumber none n.toNat :=
  takes_iff_gives (fun _ _ => Toml.fit_unsigned) (by simp [Schema.fallback])

theorem takes_text {s : String} :
    Takes t key .text .required s ↔ t.Gives key IsText none s :=
  takes_iff_gives (f := id) (fun _ _ => Toml.fit_text) (by simp [Schema.fallback])

theorem takes_optionalText {s : Option String} :
    Takes t key .optionalText .none s ↔ t.Gives key IsSomeText (some none) s :=
  takes_iff_gives (f := id) (fun _ _ => Toml.fit_optionalText) (by simp [Schema.fallback])

theorem fit_texts {v : Toml.Value} {l : List String} :
    Toml.fit (.list .text) v = .ok l ↔ v.IsTexts l := by
  refine Toml.fit_list.trans ⟨?_, ?_⟩
  · rintro ⟨vs, rfl, fits⟩
    have same : List.Forall₂ (· = ·) vs (l.map Toml.Value.text) :=
      List.forall₂_map_right_iff.mpr (fits.imp fun _ _ => Toml.fit_text.mp)
    rw [List.forall₂_eq_eq_eq] at same
    exact congrArg Toml.Value.list same
  · rintro rfl
    exact ⟨_, rfl, List.forall₂_map_left_iff.mpr
      (List.forall₂_same.mpr fun _ _ => Toml.fit_text.mpr rfl)⟩

theorem takes_texts {l : List String} :
    Takes t key (.list .text) .empty l ↔ t.Gives key IsTexts (some []) l :=
  takes_iff_gives (f := id) (fun _ _ => fit_texts) (by simp [Schema.fallback])

/-! Whether there is anything that a field takes. -/

theorem takes_some_boolean {d : Bool} :
    (∃ b, Takes t key .boolean (.boolean d) b) ↔ t.May key Boolean :=
  exists_takes_iff_may (fun _ _ => exists_congr fun _ => Toml.fit_boolean) rfl

theorem exists_fit_unsigned {bits : Nat} {word : String} {v : Toml.Value} :
    (∃ n, Toml.fit (.unsigned bits word) v = .ok n) ↔ Unsigned bits v := by
  constructor
  · rintro ⟨n, fits⟩
    exact ⟨n.toNat, n.isLt, Toml.fit_unsigned.mp fits⟩
  · rintro ⟨n, small, rfl⟩
    exact ⟨BitVec.ofNat bits n, Toml.fit_unsigned.mpr (by simp [Nat.mod_eq_of_lt small])⟩

theorem takes_some_number {bits d : Nat} {word : String} :
    (∃ n, Takes t key (.unsigned bits word) (.number d) n) ↔ t.May key (Unsigned bits) :=
  exists_takes_iff_may (fun _ _ => exists_fit_unsigned) rfl

theorem takes_some_number_required {bits : Nat} {word : String} :
    (∃ n, Takes t key (.unsigned bits word) .required n) ↔ t.Must key (Unsigned bits) :=
  exists_takes_iff_must (fun _ _ => exists_fit_unsigned) rfl

theorem takes_some_text : (∃ s, Takes t key .text .required s) ↔ t.Must key Text :=
  exists_takes_iff_must (fun _ _ => exists_congr fun _ => Toml.fit_text) rfl

theorem takes_some_optionalText :
    (∃ s, Takes t key .optionalText .none s) ↔ t.May key Text :=
  exists_takes_iff_may (fun _ _ => ⟨fun ⟨_, fits⟩ =>
      have ⟨s, text, _⟩ := Toml.fit_optionalText.mp fits
      ⟨s, text⟩,
    fun ⟨s, text⟩ => ⟨some s, Toml.fit_optionalText.mpr ⟨s, text, rfl⟩⟩⟩) rfl

theorem takes_some_texts : (∃ l, Takes t key (.list .text) .empty l) ↔ t.May key Texts :=
  exists_takes_iff_may (fun _ _ => exists_congr fun _ => fit_texts) rfl

end Field

/-! ### Records -/

def Shape.fit {α : Type} (shape : Shape α) (v : Toml.Value) : Except String α :=
  (Toml.fit shape.schema v).map shape.ofFields

theorem Shape.fit_eq_ok {α : Type} {shape : Shape α} {v : Toml.Value} {x : α} :
    shape.fit v = .ok x ↔ ∃ xs, Toml.fit shape.schema v = .ok xs ∧ shape.ofFields xs = x := by
  unfold Shape.fit
  cases Toml.fit shape.schema v <;> simp [Except.map]

variable {t : Toml.Value}

theorem Shape.takes_iff {α : Type} {name : String} {f : Fields} {key : String} {x : α}
    {write : α → f.Carrier} {read : f.Carrier → α} (apart : f.keys.Nodup) :
    (∃ xs, Takes t key (.record name f) .record xs ∧ read xs = x) ↔
      Shape.fit ⟨.record name f, write, read⟩ (t.part key) = .ok x := by
  rw [Shape.fit_eq_ok]
  exact exists_congr fun _ => and_congr_left fun _ => Toml.takes_record apart

theorem Shape.exists_fit {α : Type} {shape : Shape α} {v : Toml.Value} :
    (∃ x, shape.fit v = .ok x) ↔ ∃ xs, Toml.fit shape.schema v = .ok xs := by
  simp [Shape.fit_eq_ok]

namespace EngineConfig

theorem says_iff (orderly : Orderly schema t) {c : EngineConfig} :
    shape.fit t = .ok c ↔ c.Says t := by
  rw [Shape.fit_eq_ok]
  constructor
  · rintro ⟨xs, fits, rfl⟩
    obtain ⟨pooling, instances, memory, optimize, interval, -⟩ :=
      (Toml.fit_record (by decide) orderly.isTable).mp fits
    exact ⟨takes_boolean.mp pooling, (takes_number (by decide)).mp instances,
      (takes_number (by decide)).mp memory, takes_boolean.mp optimize,
      (takes_number (by decide)).mp interval⟩
  · rintro ⟨pooling, instances, memory, optimize, interval⟩
    exact ⟨shape.toFields c, (Toml.fit_record (by decide) orderly.isTable).mpr
      ⟨takes_boolean.mpr pooling, (takes_number (by decide)).mpr instances,
        (takes_number (by decide)).mpr memory, takes_boolean.mpr optimize,
        (takes_number (by decide)).mpr interval, trivial⟩, rfl⟩

theorem fits_iff (orderly : Orderly schema t) : (∃ xs, Toml.fit schema t = .ok xs) ↔ Fits t := by
  refine (Toml.exists_fit_record (by decide) orderly.isTable).trans ⟨?_, ?_⟩
  · rintro ⟨pooling, instances, memory, optimize, interval, -⟩
    exact ⟨takes_some_boolean.mp pooling, takes_some_number.mp instances,
      takes_some_number.mp memory, takes_some_boolean.mp optimize, takes_some_number.mp interval⟩
  · rintro ⟨pooling, instances, memory, optimize, interval⟩
    exact ⟨takes_some_boolean.mpr pooling, takes_some_number.mpr instances,
      takes_some_number.mpr memory, takes_some_boolean.mpr optimize,
      takes_some_number.mpr interval, trivial⟩

end EngineConfig

namespace MessagingConfig

theorem says_iff (orderly : Orderly schema t) {c : MessagingConfig} :
    shape.fit t = .ok c ↔ c.Says t := by
  rw [Shape.fit_eq_ok]
  constructor
  · rintro ⟨xs, fits, rfl⟩
    obtain ⟨timeout, capacity, -⟩ := (Toml.fit_record (by decide) orderly.isTable).mp fits
    exact ⟨(takes_number (by decide)).mp timeout, (takes_number (by decide)).mp capacity⟩
  · rintro ⟨timeout, capacity⟩
    exact ⟨shape.toFields c, (Toml.fit_record (by decide) orderly.isTable).mpr
      ⟨(takes_number (by decide)).mpr timeout, (takes_number (by decide)).mpr capacity, trivial⟩,
      rfl⟩

theorem fits_iff (orderly : Orderly schema t) : (∃ xs, Toml.fit schema t = .ok xs) ↔ Fits t := by
  refine (Toml.exists_fit_record (by decide) orderly.isTable).trans ⟨?_, ?_⟩
  · rintro ⟨timeout, capacity, -⟩
    exact ⟨takes_some_number.mp timeout, takes_some_number.mp capacity⟩
  · rintro ⟨timeout, capacity⟩
    exact ⟨takes_some_number.mpr timeout, takes_some_number.mpr capacity, trivial⟩

end MessagingConfig

namespace LifecycleConfig

theorem says_iff (orderly : Orderly schema t) {c : LifecycleConfig} :
    shape.fit t = .ok c ↔ c.Says t := by
  rw [Shape.fit_eq_ok]
  constructor
  · rintro ⟨xs, fits, rfl⟩
    obtain ⟨timeout, -⟩ := (Toml.fit_record (by decide) orderly.isTable).mp fits
    exact ⟨(takes_number (by decide)).mp timeout⟩
  · rintro ⟨timeout⟩
    exact ⟨shape.toFields c, (Toml.fit_record (by decide) orderly.isTable).mpr
      ⟨(takes_number (by decide)).mpr timeout, trivial⟩, rfl⟩

theorem fits_iff (orderly : Orderly schema t) : (∃ xs, Toml.fit schema t = .ok xs) ↔ Fits t := by
  refine (Toml.exists_fit_record (by decide) orderly.isTable).trans ⟨?_, ?_⟩
  · rintro ⟨timeout, -⟩
    exact ⟨takes_some_number.mp timeout⟩
  · rintro ⟨timeout⟩
    exact ⟨takes_some_number.mpr timeout, trivial⟩

end LifecycleConfig

namespace HostConfig

theorem says_iff (orderly : Orderly schema t) {c : HostConfig} :
    shape.fit t = .ok c ↔ c.Says t := by
  obtain ⟨-, inEngine, inMessaging, inLifecycle, -⟩ := orderly.tabular
  have engine : ∀ c : EngineConfig, (∃ xs, Takes t "engine" EngineConfig.schema .record xs ∧
      EngineConfig.shape.ofFields xs = c) ↔ c.Says (t.part "engine") := fun _ =>
    (Shape.takes_iff (by decide)).trans
      (EngineConfig.says_iff (Orderly.part orderly.keyed inEngine))
  have messaging : ∀ c : MessagingConfig, (∃ xs,
      Takes t "messaging" MessagingConfig.schema .record xs ∧
        MessagingConfig.shape.ofFields xs = c) ↔ c.Says (t.part "messaging") := fun _ =>
    (Shape.takes_iff (by decide)).trans
      (MessagingConfig.says_iff (Orderly.part orderly.keyed inMessaging))
  have lifecycle : ∀ c : LifecycleConfig, (∃ xs,
      Takes t "lifecycle" LifecycleConfig.schema .record xs ∧
        LifecycleConfig.shape.ofFields xs = c) ↔ c.Says (t.part "lifecycle") := fun _ =>
    (Shape.takes_iff (by decide)).trans
      (LifecycleConfig.says_iff (Orderly.part orderly.keyed inLifecycle))
  rw [Shape.fit_eq_ok]
  constructor
  · rintro ⟨xs, fits, rfl⟩
    obtain ⟨e, m, l, -⟩ := (Toml.fit_record (by decide) orderly.isTable).mp fits
    exact ⟨(engine _).mp ⟨_, e, rfl⟩, (messaging _).mp ⟨_, m, rfl⟩, (lifecycle _).mp ⟨_, l, rfl⟩⟩
  · rintro ⟨e, m, l⟩
    obtain ⟨xs, e, sameE⟩ := (engine _).mpr e
    obtain ⟨ys, m, sameM⟩ := (messaging _).mpr m
    obtain ⟨zs, l, sameL⟩ := (lifecycle _).mpr l
    refine ⟨(xs, ys, zs, ()), (Toml.fit_record (by decide) orderly.isTable).mpr
      ⟨e, m, l, trivial⟩, ?_⟩
    simp only [shape, sameE, sameM, sameL]

theorem fits_iff (orderly : Orderly schema t) : (∃ xs, Toml.fit schema t = .ok xs) ↔ Fits t := by
  obtain ⟨-, inEngine, inMessaging, inLifecycle, -⟩ := orderly.tabular
  have engine : (∃ x, Takes t "engine" EngineConfig.schema .record x) ↔ _ :=
    exists_takes_iff_may (fun v found =>
      EngineConfig.fits_iff ⟨orderly.keyed.get? found, inEngine v found⟩) rfl
  have messaging : (∃ x, Takes t "messaging" MessagingConfig.schema .record x) ↔ _ :=
    exists_takes_iff_may (fun v found =>
      MessagingConfig.fits_iff ⟨orderly.keyed.get? found, inMessaging v found⟩) rfl
  have lifecycle : (∃ x, Takes t "lifecycle" LifecycleConfig.schema .record x) ↔ _ :=
    exists_takes_iff_may (fun v found =>
      LifecycleConfig.fits_iff ⟨orderly.keyed.get? found, inLifecycle v found⟩) rfl
  refine (Toml.exists_fit_record (by decide) orderly.isTable).trans ⟨?_, ?_⟩
  · rintro ⟨e, m, l, -⟩
    exact ⟨engine.mp e, messaging.mp m, lifecycle.mp l⟩
  · rintro ⟨e, m, l⟩
    exact ⟨engine.mpr e, messaging.mpr m, lifecycle.mpr l, trivial⟩

end HostConfig

namespace Metadata

theorem says_iff (orderly : Orderly schema t) {m : Metadata} :
    shape.fit t = .ok m ↔ m.Says t := by
  rw [Shape.fit_eq_ok]
  constructor
  · rintro ⟨xs, fits, rfl⟩
    obtain ⟨name, version, description, memory, fuel, timeout, -⟩ :=
      (Toml.fit_record (by decide) orderly.isTable).mp fits
    exact ⟨takes_optionalText.mp name, takes_optionalText.mp version,
      takes_optionalText.mp description, takes_number_required.mp memory,
      (takes_number (by decide)).mp fuel, (takes_number (by decide)).mp timeout⟩
  · rintro ⟨name, version, description, memory, fuel, timeout⟩
    exact ⟨shape.toFields m, (Toml.fit_record (by decide) orderly.isTable).mpr
      ⟨takes_optionalText.mpr name, takes_optionalText.mpr version,
        takes_optionalText.mpr description, takes_number_required.mpr memory,
        (takes_number (by decide)).mpr fuel, (takes_number (by decide)).mpr timeout, trivial⟩, rfl⟩

theorem fits_iff (orderly : Orderly schema t) : (∃ xs, Toml.fit schema t = .ok xs) ↔ Fits t := by
  refine (Toml.exists_fit_record (by decide) orderly.isTable).trans ⟨?_, ?_⟩
  · rintro ⟨name, version, description, memory, fuel, timeout, -⟩
    exact ⟨takes_some_optionalText.mp name, takes_some_optionalText.mp version,
      takes_some_optionalText.mp description, takes_some_number_required.mp memory,
      takes_some_number.mp fuel, takes_some_number.mp timeout⟩
  · rintro ⟨name, version, description, memory, fuel, timeout⟩
    exact ⟨takes_some_optionalText.mpr name, takes_some_optionalText.mpr version,
      takes_some_optionalText.mpr description, takes_some_number_required.mpr memory,
      takes_some_number.mpr fuel, takes_some_number.mpr timeout, trivial⟩

end Metadata

namespace CapabilitySet

theorem lists_iff {l : List String} {s : CapabilitySet} : s.Lists l ↔ shape.ofFields l = s := by
  have has : ∀ name, s.has ⟨name⟩ = true ↔ name ∈ s.names.names := fun name => by
    simp [CapabilitySet.has, NameSet.contains]
  constructor
  · intro lists
    refine congrArg CapabilitySet.mk (NameSet.eq_of_mem_iff fun name => ?_)
    rw [NameSet.mem_ofList, ← lists name, has]
  · rintro rfl name
    rw [has]
    exact NameSet.mem_ofList

end CapabilitySet

namespace ComponentEntry

theorem says_iff (orderly : Orderly schema t) {e : ComponentEntry} :
    shape.fit t = .ok e ↔ e.Says t := by
  obtain ⟨-, -, -, -, inMetadata, -⟩ := orderly.tabular
  have metadata : ∀ m, (∃ xs, Takes t "metadata" Metadata.schema .required xs ∧
      Metadata.shape.ofFields xs = m) ↔ t.Gives "metadata" (fun v m => m.Says v) none m := fun m =>
    exists_takes_iff_gives (fun v found => Shape.fit_eq_ok.symm.trans
      (Metadata.says_iff ⟨orderly.keyed.get? found, inMetadata v found⟩))
      (by simp [Schema.fallback])
  rw [Shape.fit_eq_ok]
  constructor
  · rintro ⟨xs, fits, rfl⟩
    obtain ⟨id, path, capabilities, m, -⟩ := (Toml.fit_record (by decide) orderly.isTable).mp fits
    exact ⟨takes_text.mp id, takes_text.mp path,
      ⟨_, takes_texts.mp capabilities, CapabilitySet.lists_iff.mpr rfl⟩,
      (metadata _).mp ⟨_, m, rfl⟩⟩
  · rintro ⟨id, path, ⟨l, capabilities, lists⟩, m⟩
    obtain ⟨xs, m, same⟩ := (metadata _).mpr m
    refine ⟨(e.id.name, e.path, l, xs, ()), (Toml.fit_record (by decide) orderly.isTable).mpr
      ⟨takes_text.mpr id, takes_text.mpr path, takes_texts.mpr capabilities, m, trivial⟩, ?_⟩
    simp only [shape, CapabilitySet.lists_iff.mp lists, same]

theorem fits_iff (orderly : Orderly schema t) : (∃ xs, Toml.fit schema t = .ok xs) ↔ Fits t := by
  obtain ⟨-, -, -, -, inMetadata, -⟩ := orderly.tabular
  have metadata : (∃ x, Takes t "metadata" Metadata.schema .required x) ↔ _ :=
    exists_takes_iff_must (fun v found =>
      Metadata.fits_iff ⟨orderly.keyed.get? found, inMetadata v found⟩) rfl
  refine (Toml.exists_fit_record (by decide) orderly.isTable).trans ⟨?_, ?_⟩
  · rintro ⟨id, path, capabilities, m, -⟩
    exact ⟨takes_some_text.mp id, takes_some_text.mp path, takes_some_texts.mp capabilities,
      metadata.mp m⟩
  · rintro ⟨id, path, capabilities, m⟩
    exact ⟨takes_some_text.mpr id, takes_some_text.mpr path, takes_some_texts.mpr capabilities,
      metadata.mpr m, trivial⟩

end ComponentEntry

namespace ConfigFile

theorem orderly_entry {v : Toml.Value} (keyed : v.Keyed)
    (tabular : Toml.Tabular (.list ComponentEntry.schema) v) {vs : List Toml.Value}
    (list : v = .list vs) {e : Toml.Value} (mem : e ∈ vs) : Orderly ComponentEntry.schema e := by
  subst list
  cases keyed with
  | list each => exact ⟨each e mem, tabular vs rfl e mem⟩

theorem says_iff (orderly : Orderly schema t) {c : ConfigFile} :
    shape.fit t = .ok c ↔ c.Says t := by
  obtain ⟨-, inHost, inComponents, -⟩ := orderly.tabular
  have host : ∀ h : HostConfig, (∃ xs, Takes t "host" HostConfig.schema .record xs ∧
      HostConfig.shape.ofFields xs = h) ↔ h.Says (t.part "host") := fun _ =>
    (Shape.takes_iff (by decide)).trans
      (HostConfig.says_iff (Orderly.part orderly.keyed inHost))
  have components : ∀ cs, (∃ xs, Takes t "components" (.list ComponentEntry.schema) .empty xs ∧
      xs.map ComponentEntry.shape.ofFields = cs) ↔ t.Gives "components"
        (fun v cs => ∃ vs, v = .list vs ∧ List.Forall₂ ComponentEntry.Says vs cs) (some []) cs := by
    intro cs
    refine exists_takes_iff_gives (fun v found => ?_) ?_
    case refine_2 =>
      constructor
      · rintro ⟨xs, falls, rfl⟩
        cases falls
        rfl
      · intro default
        cases default
        exact ⟨[], rfl, rfl⟩
    have entries : ∀ vs, v = .list vs → (List.Forall₂ (fun v c =>
        ∃ xs, Toml.fit ComponentEntry.schema v = .ok xs ∧ ComponentEntry.shape.ofFields xs = c)
        vs cs ↔ List.Forall₂ ComponentEntry.Says vs cs) := fun vs list =>
      Toml.forall₂_congr_mem fun e mem c => Shape.fit_eq_ok.symm.trans (ComponentEntry.says_iff
        (orderly_entry (orderly.keyed.get? found) (inComponents v found) list mem))
    constructor
    · rintro ⟨xs, fits, same⟩
      obtain ⟨vs, list, each⟩ := Toml.fit_list.mp fits
      exact ⟨vs, list, (entries vs list).mp (Toml.forall₂_map_iff.mp ⟨xs, each, same⟩)⟩
    · rintro ⟨vs, list, each⟩
      obtain ⟨xs, each, same⟩ := Toml.forall₂_map_iff.mpr ((entries vs list).mpr each)
      exact ⟨xs, Toml.fit_list.mpr ⟨vs, list, each⟩, same⟩
  rw [Shape.fit_eq_ok]
  constructor
  · rintro ⟨xs, fits, rfl⟩
    obtain ⟨h, cs, -⟩ := (Toml.fit_record (by decide) orderly.isTable).mp fits
    exact ⟨(host _).mp ⟨_, h, rfl⟩, (components _).mp ⟨_, cs, rfl⟩⟩
  · rintro ⟨h, cs⟩
    obtain ⟨xs, h, sameH⟩ := (host _).mpr h
    obtain ⟨ys, cs, sameC⟩ := (components _).mpr cs
    refine ⟨(xs, ys, ()), (Toml.fit_record (by decide) orderly.isTable).mpr ⟨h, cs, trivial⟩, ?_⟩
    simp only [shape, sameH, sameC]

theorem fits_iff (orderly : Orderly schema t) : (∃ xs, Toml.fit schema t = .ok xs) ↔ Fits t := by
  obtain ⟨-, inHost, inComponents, -⟩ := orderly.tabular
  have host : (∃ x, Takes t "host" HostConfig.schema .record x) ↔ _ := exists_takes_iff_may
    (fun v found => HostConfig.fits_iff ⟨orderly.keyed.get? found, inHost v found⟩) rfl
  have components : (∃ x, Takes t "components" (.list ComponentEntry.schema) .empty x) ↔
      t.May "components" fun v => ∃ vs, v = .list vs ∧ ∀ e ∈ vs, ComponentEntry.Fits e :=
    exists_takes_iff_may (fun v found => by
      have entries := fun vs (list : v = .list vs) e (mem : e ∈ vs) => ComponentEntry.fits_iff
        (orderly_entry (orderly.keyed.get? found) (inComponents v found) list mem)
      constructor
      · rintro ⟨xs, fits⟩
        obtain ⟨vs, list, each⟩ := Toml.fit_list.mp fits
        exact ⟨vs, list, fun e mem =>
          (entries vs list e mem).mp (Toml.exists_forall₂_iff.mp ⟨xs, each⟩ e mem)⟩
      · rintro ⟨vs, list, each⟩
        obtain ⟨xs, each⟩ := Toml.exists_forall₂_iff.mpr fun e mem =>
          (entries vs list e mem).mpr (each e mem)
        exact ⟨xs, Toml.fit_list.mpr ⟨vs, list, each⟩⟩) rfl
  refine (Toml.exists_fit_record (by decide) orderly.isTable).trans ⟨?_, ?_⟩
  · rintro ⟨h, cs, -⟩
    exact ⟨host.mp h, components.mp cs⟩
  · rintro ⟨h, cs⟩
    exact ⟨host.mpr h, components.mpr cs, trivial⟩

theorem ofToml_eq_ok {text : String} {doc : Toml.Value} (valid : Toml.parse text = some doc)
    {c : ConfigFile} : ofToml text = .ok c ↔ shape.fit doc = .ok c := by
  refine Iff.trans ?_ Shape.fit_eq_ok.symm
  change _ ↔ ∃ xs, Toml.fit schema doc = .ok xs ∧ _
  simp only [ofToml, valid]
  cases Toml.fit schema doc <;> simp

/-- A document with tables where tables belong is accepted exactly if what it says is of the kinds
that it should be and each component has what it must have; what is read is what it says, with
the defaults where it says nothing; and documents that say the same are read as the same. -/
theorem ofToml_partial {text : String} {doc : Toml.Value} (valid : Toml.parse text = some doc)
    (tabular : Toml.Tabular schema doc) :
    ((∃ c, ofToml text = .ok c) ↔ Fits doc) ∧
    (∀ c, ofToml text = .ok c ↔ c.Says doc) ∧
    (∀ other doc', Toml.parse other = some doc' → Toml.Tabular schema doc' →
      Toml.Alike schema doc doc' → ∀ c, ofToml text = .ok c ↔ ofToml other = .ok c) := by
  have orderly : Orderly schema doc := ⟨(Toml.parse_keyed valid).1, tabular⟩
  refine ⟨?_, fun c => ?_, fun other doc' valid' tabular' alike c => ?_⟩
  · rw [← fits_iff orderly, exists_congr fun c => ofToml_eq_ok valid (c := c)]
    exact Shape.exists_fit
  · rw [ofToml_eq_ok valid, says_iff orderly]
  · rw [ofToml_eq_ok valid, ofToml_eq_ok valid', Shape.fit_eq_ok, Shape.fit_eq_ok]
    exact exists_congr fun xs => and_congr_left fun _ => Toml.fit_alike schema (by decide)
      orderly.keyed (Toml.parse_keyed valid').1 tabular tabular' alike xs

def sampleText : String :=
  "[[components]]\npath = \"p\"\nid = \"a\"\ncapabilities = [\"y\", \"x\", \"y\"]\n" ++
    "[components.metadata]\nmax_memory_bytes = 65536\n[host.lifecycle]\nstop_timeout_ms = 7\n"

def sampleEntry : List (String × Toml.Value) :=
  [("path", .text "p"), ("id", .text "a"),
    ("capabilities", .list [.text "y", .text "x", .text "y"]),
    ("metadata", .table [("max_memory_bytes", .integer 65536)])]

def sampleDocument : Toml.Value :=
  .table [("components", .list [.table sampleEntry]),
    ("host", .table [("lifecycle", .table [("stop_timeout_ms", .integer 7)])])]

/-- `sampleText` in another order, with a key that nobody knows. -/
def otherText : String :=
  "[host]\nlifecycle.stop_timeout_ms = 7\nmotd = true\n[[components]]\nid = \"a\"\n" ++
    "path = \"p\"\nmetadata.max_memory_bytes = 65536\ncapabilities = [\"y\", \"x\", \"y\"]\n"

def otherDocument : Toml.Value :=
  .table [
    ("host", .table [("lifecycle", .table [("stop_timeout_ms", .integer 7)]),
      ("motd", .boolean true)]),
    ("components", .list [.table [("id", .text "a"), ("path", .text "p"),
      ("metadata", .table [("max_memory_bytes", .integer 65536)]),
      ("capabilities", .list [.text "y", .text "x", .text "y"])]])]

def sampleConfig : ConfigFile where
  host := { lifecycle := { stopTimeoutMs := 7 } }
  components := [{
    id := ⟨"a"⟩, path := "p", capabilities := .ofList [⟨"x"⟩, ⟨"y"⟩],
    metadata := { maxMemoryBytes := 65536 } }]

theorem tabular_sample : Toml.Tabular schema sampleDocument := by
  simp [schema, HostConfig.schema, EngineConfig.schema, MessagingConfig.schema,
    LifecycleConfig.schema, ComponentEntry.schema, Metadata.schema, Schema.u32, Schema.u64,
    Schema.count, sampleDocument, sampleEntry, Toml.Tabular, Toml.TabularFields, Toml.Value.get?,
    List.lookup]

theorem tabular_other : Toml.Tabular schema otherDocument := by
  simp [schema, HostConfig.schema, EngineConfig.schema, MessagingConfig.schema,
    LifecycleConfig.schema, ComponentEntry.schema, Metadata.schema, Schema.u32, Schema.u64,
    Schema.count, otherDocument, Toml.Tabular, Toml.TabularFields, Toml.Value.get?, List.lookup]

theorem alike_sample_other : Toml.Alike schema sampleDocument otherDocument := by
  simp [schema, HostConfig.schema, EngineConfig.schema, MessagingConfig.schema,
    LifecycleConfig.schema, ComponentEntry.schema, Metadata.schema, Schema.u32, Schema.u64,
    Schema.count, sampleDocument, sampleEntry, otherDocument, Toml.Alike, Toml.AlikeFields,
    Toml.Value.get?, List.lookup]

theorem says_sample : sampleConfig.Says sampleDocument where
  host := {
    engine := ⟨rfl, rfl, rfl, rfl, rfl⟩
    messaging := ⟨rfl, rfl⟩
    lifecycle := ⟨rfl⟩ }
  components := by
    have capabilities : CapabilitySet.Lists ["y", "x", "y"] (.ofList [⟨"x"⟩, ⟨"y"⟩]) :=
      CapabilitySet.lists_iff.mpr rfl
    exact ⟨[.table sampleEntry], rfl, .cons ⟨rfl, rfl, ⟨["y", "x", "y"], rfl, capabilities⟩,
      ⟨rfl, rfl, rfl, rfl, rfl, rfl⟩⟩ .nil⟩

set_option maxRecDepth 4000 in
theorem sample_read :
    Toml.parse sampleText = some sampleDocument ∧ Toml.Tabular schema sampleDocument ∧
    Toml.parse otherText = some otherDocument ∧ Toml.Tabular schema otherDocument ∧
    Toml.Alike schema sampleDocument otherDocument ∧
    ofToml sampleText = .ok sampleConfig ∧ ofToml otherText = .ok sampleConfig := by
  have valid : Toml.parse sampleText = some sampleDocument := by cbv
  have valid' : Toml.parse otherText = some otherDocument := by cbv
  obtain ⟨-, reads, same⟩ := ofToml_partial valid tabular_sample
  have read := (reads sampleConfig).mpr says_sample
  exact ⟨valid, tabular_sample, valid', tabular_other, alike_sample_other, read,
    (same otherText otherDocument valid' tabular_other alike_sample_other _).mp read⟩

end ConfigFile

end ComponentHost
