import ComponentHost.Guest.Metering
import ComponentHost.Wasm.Machine
import ComponentHost.Wasm.Pool
import ComponentHost.Wasm.SystemInterface

/-! Calls into a module. Each gets an instance of its own: imports are looked up, memories and
tables are laid out within their limits and filled, the start function is run, and only then is the
export called. -/

namespace ComponentHost.Wasm

namespace Module

def importFault? (i : Import) : Option String :=
  match SystemInterface.type? i.source i.name with
  | none => some ("unknown import: `" ++ i.source ++ "::" ++ i.name ++ "` has not been defined")
  | some type =>
    if i.kind = .func type then none
    else some ("incompatible import type for `" ++ i.source ++ "::" ++ i.name ++ "`")

/-- An import that nobody offers comes to light before one of the wrong type. -/
def linkFault? (m : Module) : Option String :=
  let unknown := m.imports.filter fun i => (SystemInterface.type? i.source i.name).isNone
  (unknown ++ m.imports).findSome? importFault?

def constant : List Instr → List Datum → Option Datum
  | [], stack => stack.head?
  | .const d :: rest, stack => constant rest (d :: stack)
  | .reference f :: rest, stack => constant rest (.func (some f) :: stack)
  | .numeric op :: rest, y :: x :: stack =>
    match op.apply [x, y] with
    | .ok d => constant rest (d :: stack)
    | .error _ => none
  | _, _ => none

def initial (g : Global) : Datum := (constant g.init []).getD (.zero g.type.type)

def referred (code : List Instr) : Option Nat :=
  match constant code [] with
  | some (.func r) => r
  | _ => none

def offset (code : List Instr) : Nat :=
  match constant code [] with
  | some (.i32 n) => n.toNat
  | _ => 0

def memoryFault? (m : Module) (limit : Nat) : Option String :=
  (m.memories.find? fun b => limit < b.min * pageSize).map fun b =>
    "memory minimum size of " ++ toString b.min ++ " pages exceeds memory limits"

/-- An empty memory within the least of all the limits on its size in bytes. -/
def layMemory (c : EngineConfig) (limit : Nat) (b : Bounds) : Memory where
  pages := b.min
  limit :=
    ((b.max.map (· * pageSize)).toList ++ ((Pool.ofConfig? c).map Pool.memoryLimit).toList).foldl
      min limit

def layTable (c : EngineConfig) (t : TableType) : RefTable where
  size := t.bounds.min
  limit :=
    (t.bounds.max.toList ++ ((Pool.ofConfig? c).map fun _ => Pool.maxElements).toList).foldl
      min (2 ^ 32 - 1)

def lay (m : Module) (c : EngineConfig) (limit : Nat) : Except String Machine :=
  match m.linkFault? with
  | some fault => .error fault
  | none =>
    if c.poolingAllocator ∧ c.maxInstances = 0 then
      .error "maximum concurrent limit of 0 for core instances reached"
    else
      match m.memoryFault? limit with
      | some fault => .error fault
      | none =>
        .ok { globals := m.globals.map initial
              memories := m.memories.map (layMemory c limit)
              tables := m.tables.map (layTable c)
              elems := m.elems.map fun e => e.inits.map referred
              data := m.data.map Data.bytes }

def fillTable (machine : Machine) (segment : Nat) (e : Elem) : Except Trap Machine :=
  match e.mode with
  | .active index code => do
    let machine ← machine.initTable index segment (offset code) 0 e.inits.length
    .ok (machine.dropElem segment)
  | .declared => .ok (machine.dropElem segment)
  | .passive => .ok machine

def fillMemory (machine : Machine) (segment : Nat) (d : Data) : Except Trap Machine :=
  match d.mode with
  | .active index code => do
    let machine ← machine.initMemory index segment (offset code) 0 d.bytes.length
    .ok (machine.dropData segment)
  | .declared => .ok (machine.dropData segment)
  | .passive => .ok machine

/-- Tables are filled before memories. -/
def fill (m : Module) (machine : Machine) : Except Trap Machine := do
  let machine ← m.elems.zipIdx.foldlM (fun machine (e, i) => fillTable machine i e) machine
  m.data.zipIdx.foldlM (fun machine (d, i) => fillMemory machine i d) machine

end Module

def Machine.left (t : Terms) (m : Machine) : Nat := t.maxFuel - m.used

/-- The fuel that a trapped machine shows as left: what it showed when it was last looked at. -/
def Machine.leftAt (t : Terms) (m : Machine) : Trap → Nat
  | .outOfFuel => 0
  | _ => t.maxFuel - m.charged

def checkArgs (type : FuncType) (args : List Datum) : Except Trap Unit :=
  if type.params.length ≠ args.length then .error (.arity type.params.length args.length)
  else if type.params ≠ args.map Datum.type then .error .argumentType
  else .ok ()

def outputOf (results : List Datum) : Except EngineFault Output :=
  match results.mapM Datum.toValue with
  | .ok values => .ok ⟨values⟩
  | .error d => .error (.invalidConfig ("Unsupported result value: " ++ d.describe))

def stoppedRun (t : Terms) (attempt : String → Nat → Attempt) (trap : Trap) (m : Machine) :
    MeteredRun :=
  match trap with
  | .abandoned => ⟨m.yields + 1, .abandoned⟩
  | trap => ⟨m.yields, attempt trap.message (m.leftAt t trap)⟩

def callExport (code : Module) (t : Terms) (i : Invocation) (m : Machine) : MeteredRun :=
  match code.exportedFunc? i.function with
  | none => ⟨m.yields, .noExport i.function⟩
  | some f =>
    let args := i.args.map Datum.ofValue
    match checkArgs ((code.funcTypes[f]?).getD {}) args with
    | .error trap => ⟨m.yields, .trapped trap.message (m.left t)⟩
    | .ok () =>
      match code.invoke t f args m with
      | .error (trap, m) => stoppedRun t .trapped trap m
      | .ok (results, m) => ⟨m.yields, .returned (outputOf results) (m.left t)⟩

def startAndCall (code : Module) (t : Terms) (i : Invocation) (m : Machine) : MeteredRun :=
  match code.fill m with
  | .error trap => stoppedRun t .startTrapped trap m
  | .ok m =>
    match code.start with
    | none => callExport code t i m
    | some f =>
      match code.invoke t f [] m with
      | .error (trap, m) => stoppedRun t .startTrapped trap m
      | .ok (_, m) => callExport code t i m

def attempt (c : EngineConfig) (code : Module) (i : Invocation) : MeteredRun :=
  let t : Terms :=
    { maxFuel := i.maxFuel, yieldInterval := c.fuelYieldInterval.toNat, patient := 0 < i.timeout }
  if c.fuelYieldInterval = 0 then
    { attempt := .unready (.invalidConfig
        "Failed to set yield interval: fuel_async_yield_interval must not be 0") }
  else
    match code.lay c i.maxMemoryBytes with
    | .error fault =>
      { attempt := .unlinked (.compilation ("Instantiation failed: " ++ fault)) i.maxFuel }
    | .ok m => startAndCall code t i m

end ComponentHost.Wasm
