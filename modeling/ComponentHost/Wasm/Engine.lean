import ComponentHost.Wasm.Compiled
import ComponentHost.Wasm.Instance

/-! The engine that runs WebAssembly. -/

namespace ComponentHost.Wasm

/-- An engine as configured; a pooled instance has to fit into what is set aside for it. -/
structure EngineSetup where
  config : EngineConfig
deriving DecidableEq

namespace EngineSetup

def create (config : EngineConfig) : Except EngineFault EngineSetup :=
  match (Pool.ofConfig? config).bind Pool.fault? with
  | none => .ok ⟨config⟩
  | some fault => .error (.initialization ("Failed to create Wasmtime engine: " ++ fault.message))

def isPooled (m : EngineSetup) : Bool := m.config.poolingAllocator

def describe (m : EngineSetup) : String :=
  "WasmEngine \x7b pooling_allocator: " ++ toString m.isPooled ++ ", fuel_yield_interval: " ++
    toString m.config.fuelYieldInterval.toNat ++ ", .. \x7d"

def program (m : EngineSetup) (c : Compiled) : Program where
  exports := c.functions
  run _ i := (attempt m.config c.module i).run i.maxFuel

def engine (m : EngineSetup) : Engine where
  load _ bytes := (Compiled.ofSource m.config bytes).map m.program

end EngineSetup

end ComponentHost.Wasm
